import Conlang.Proofs.RuleSet.Paradigms

/-! The forms of a part of speech.

In a rule set that has come about by operations the list of forms is the cross-product of the
declared values and then the extra forms (`allForms_cross_product`). Rules are compared with that
list by the numbers of their forms: `mem_deprecated_iff` says which rules are deprecated, and a rule
may be kept although no listed form is spelled as its own is. -/
namespace Conlang.RuleSet

/-- **The list of forms is the exact cross-product.** It has one cell for each choice of a value
from every dimension, in the order in which the values are declared, and then the extra forms in
theirs; a part of speech without dimensions has the lone comma, and a dimension without values
leaves no cell. No id is listed twice. Every id reads back as itself, the paradigm declares it under
the label that is listed, and its slots hold the values that were chosen. The forms that are shown
are those of the list that are not hidden, in the same order. -/
theorem allForms_cross_product (E : Pattern.Engine) (ops : List Operation) (type : Id) :
    let s := empty.run E ops
    let p := s.paradigm type
    (∃ cells, Paradigm.CrossProduct p.dimensions cells ∧
      s.allForms type = cells.map Paradigm.formOfChoice ++ p.extras.map Paradigm.formOfExtra ∧
      (p.dimensions = [] →
        (cells.map Paradigm.formOfChoice).map (fun f => (f.combination.text, f.label)) =
        [(",", "")]) ∧
      (∀ d ∈ p.dimensions, d.values = [] → cells = []) ∧
      ∀ values ∈ cells, ∀ (i : Nat) (d : Dimension), p.dimensions[i]? = some d →
        ∃ v ∈ d.values, values[i]? = some v ∧ ∃ slot, p.slot? d.id = some slot ∧
          (Paradigm.formOfChoice values).combination.valueAt? slot = some v.id) ∧
    (s.paradigm? type = none → p.dimensions = [] ∧ p.extras = []) ∧
    ((s.allForms type).map (·.combination.text)).Nodup ∧
    (∀ f ∈ s.allForms type,
      Combination.parse f.combination.text = .ok f.combination ∧ p.declares f.combination = true ∧
        s.label? type f.combination = some f.label) ∧
    s.forms type = (s.allForms type).filter fun f => !s.isSuppressed type f.combination := by
  intro s p
  have distinct : p.Distinct := distinct_history E ops type
  refine ⟨⟨Paradigm.choices p.dimensions, Paradigm.crossProduct_choices distinct.values, rfl, ?_,
    ?_, ?_⟩, ?_, ?_, ?_, rfl⟩
  · intro none
    rw [none]
    rfl
  · exact fun d hd unvalued => Paradigm.choices_eq_nil hd unvalued
  · exact fun values hv i d hd => distinct.valueAt?_slot (Paradigm.mem_choices.mp hv) hd
  · intro undeclared
    have nothing : p = .empty := by
      show (s.paradigm? type).getD .empty = .empty
      rw [undeclared]
      rfl
    rw [nothing]
    exact ⟨rfl, rfl⟩
  · have texts :=
      distinct.nodup_combinations.map fun c d => Combination.text_injective (c := c) (d := d)
    rwa [List.map_map] at texts
  · intro f hf
    have named := distinct.label?_eq hf
    refine ⟨Combination.parse_text f.combination, ?_, named⟩
    rw [Paradigm.declares, named]
    rfl

/-- **A rule is deprecated when no form that is listed has its numbers.** -/
theorem mem_deprecated_iff (s : RuleSet) (type : Id) (r : Rule) :
    r ∈ s.deprecated type ↔
      r ∈ s.rulesOf type ∧ r.combination.shortest ∉ (s.allForms type).map (·.combination) := by
  rw [deprecated, List.mem_filter, allForms, ← Paradigm.declares_iff]
  simp

/-- A rule for `,01,` stays in use where `,1,` is listed, although its own spelling is not. -/
theorem deprecated_reads_numbers :
    let E := Pattern.Engine.standard ⟨1000000, 10485760⟩
    let padded : Combination := .cell [⟨['0', '1'], 1, rfl⟩]
    let s := empty.run E [.insertDimension 1 ⟨1, "number", [⟨1, "singular"⟩]⟩, .add 1 padded {}]
    ∃ r ∈ s.rulesOf 1, r.combination = padded ∧ r.combination ∉ (s.allForms 1).map (·.combination) ∧
      r ∉ s.deprecated 1 := by
  refine ⟨⟨1, 1, 1, .cell [⟨['0', '1'], 1, rfl⟩], {}⟩, ?_, rfl, ?_, ?_⟩ <;> decide

end Conlang.RuleSet
