import Conlang.Inflection.RuleSet.Basic
import Mathlib.Data.List.Forall2

/-! Stale conditions.

A condition is stale when the lexicon does not declare the class value that it names, whether the
value was taken away, was declared otherwise, or never was. Purging drops those conditions and
counts them (`countStale_add`); rules keep all else (`trimmed_purge`), and nothing is left for a
second purge (`purge_purge`). -/
namespace Conlang

/-- The rule has lost the conditions that are not to be kept, and nothing else. -/
structure Rule.Trimmed (keep : ClassCondition → Bool) (r trimmed : Rule) : Prop where
  id : trimmed.id = r.id
  index : trimmed.index = r.index
  type : trimmed.type = r.type
  combination : trimmed.combination = r.combination
  name : trimmed.content.name = r.content.name
  gate : trimmed.content.gate = r.content.gate
  transforms : trimmed.content.transforms = r.content.transforms
  conditions : trimmed.content.conditions = r.content.conditions.filter keep

namespace RuleSet

/-- The conditions of all rules. -/
def conditions (s : RuleSet) : List ClassCondition := s.rules.flatMap (·.content.conditions)

variable {s : RuleSet} {l : Lexicon}

theorem countStale_eq (s : RuleSet) (l : Lexicon) :
    s.countStale l = (s.conditions.filter (!isCurrent l ·)).length := by
  rw [countStale, conditions, List.filter_flatMap]

theorem countStale_eq_zero_iff :
    s.countStale l = 0 ↔ ∀ r ∈ s.rules, ∀ c ∈ r.content.conditions, isCurrent l c = true := by
  rw [countStale, List.length_eq_zero_iff, List.flatMap_eq_nil_iff]
  simp only [List.filter_eq_nil_iff, Bool.not_eq_true', Bool.not_eq_false]

/-- Where no condition is stale, none is dropped. -/
theorem purge_eq_self (current : s.countStale l = 0) : s.purge l = s := by
  have same : (s.rules.map fun r =>
      r.adopt { r.content with conditions := r.content.conditions.filter (isCurrent l) }) =
        s.rules := by
    refine (List.map_congr_left fun r mem => ?_).trans (List.map_id _)
    rw [List.filter_eq_self.mpr (countStale_eq_zero_iff.mp current r mem)]
    rfl
  rw [purge, same]

/-! ### What purging drops -/

theorem conditions_purge (s : RuleSet) (l : Lexicon) :
    (s.purge l).conditions = s.conditions.filter (isCurrent l) := by
  rw [conditions, conditions, List.filter_flatMap, purge, List.flatMap_map]
  rfl

/-- What is counted is what is dropped. -/
theorem countStale_add (s : RuleSet) (l : Lexicon) :
    s.countStale l + (s.purge l).conditions.length = s.conditions.length := by
  rw [countStale_eq, conditions_purge, Nat.add_comm]
  exact (List.length_eq_length_filter_add (isCurrent l)).symm

theorem trimmed_purge (s : RuleSet) (l : Lexicon) :
    List.Forall₂ (Rule.Trimmed (isCurrent l)) s.rules (s.purge l).rules :=
  List.forall₂_map_right_iff.mpr (List.forall₂_same.mpr fun _ _ =>
    ⟨rfl, rfl, rfl, rfl, rfl, rfl, rfl, rfl⟩)

/-! ### Purging twice -/

theorem countStale_purge (s : RuleSet) (l : Lexicon) : (s.purge l).countStale l = 0 := by
  rw [countStale_eq, conditions_purge, List.filter_filter, List.length_eq_zero_iff,
    List.filter_eq_nil_iff]
  simp

theorem purge_purge (s : RuleSet) (l : Lexicon) : (s.purge l).purge l = s.purge l :=
  purge_eq_self (countStale_purge s l)

end RuleSet

end Conlang
