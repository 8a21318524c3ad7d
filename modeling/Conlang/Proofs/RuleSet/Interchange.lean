import Conlang.Proofs.RuleSet.Equivalence
import Conlang.Proofs.RuleSet.Reachable
import Conlang.Settings

/-! Rules that say the same do the same.

Equivalent rules are written alike, and how a pattern is matched is not written down. It need not
be: contents that are built of the same texts are the same, up to their conditions
(`RuleContent.Built.eq_of_texts`). A rule that takes over such a content, and has the same
conditions in some order, does to every word what it did before (`step_adopt`), and so do all rules
of a form together (`fold_adopt`). -/
namespace Conlang

/-! ### Contents of the same texts -/

namespace RuleContent

/-- Two contents that differ in the order of their conditions at most. -/
structure Alike (r t : RuleContent) : Prop where
  conditions : ∀ c, c ∈ r.conditions ↔ c ∈ t.conditions
  rest : r = { t with conditions := r.conditions }

theorem Alike.refl (r : RuleContent) : r.Alike r := ⟨fun _ => Iff.rfl, rfl⟩

/-- The texts and the conditions tell all. -/
theorem Built.eq_ofTexts {r : RuleContent} (h : r.Built) :
    r = { name := r.texts.1, gate := ⟨r.texts.2.1, true⟩, conditions := r.conditions,
          transforms :=
            r.texts.2.2.map fun (pattern, replacement) => .ofTexts pattern replacement } := by
  obtain ⟨name, ⟨source, anchored⟩, conditions, transforms⟩ := r
  obtain ⟨rfl, floating⟩ := built_iff.mp h
  have rebuilt : ∀ t ∈ transforms, Substitution.ofTexts t.pattern.source t.replacement = id t := by
    rintro ⟨⟨source, anchored⟩, replacement⟩ ht
    obtain rfl : anchored = false := floating _ ht
    rfl
  simp only [texts, List.map_map]
  rw [mk.injEq]
  exact ⟨rfl, rfl, rfl, ((List.map_congr_left rebuilt).trans (List.map_id _)).symm⟩

theorem Built.eq_of_texts {r t : RuleContent} (hr : r.Built) (ht : t.Built)
    (same : r.texts = t.texts) :
    r = { t with conditions := r.conditions } := by
  rw [hr.eq_ofTexts, same]
  conv_rhs => rw [ht.eq_ofTexts]

end RuleContent

/-! ### Taking words through rules -/

namespace Declension
variable (E : Pattern.Engine) (w : Word) (classed : Bool)

theorem step_adopt {r : Rule} {content : RuleContent} (alike : content.Alike r.content)
    (d : Declension) :
    step E w classed d (r.adopt content) = step E w classed d r := by
  have meets : (r.adopt content).meetsConditions w = r.meetsConditions w := by
    rw [Bool.eq_iff_iff, Rule.meetsConditions, Rule.meetsConditions, List.all_eq_true,
      List.all_eq_true]
    exact forall_congr' fun c => imp_congr_left (alike.conditions c)
  have gate : content.gate = r.content.gate := congrArg (·.gate) alike.rest
  have name : content.name = r.content.name := congrArg (·.name) alike.rest
  have transforms : content.transforms = r.content.transforms := congrArg (·.transforms) alike.rest
  have outcome : outcome E (r.adopt content) w classed d.value = outcome E r w classed d.value := by
    rw [Declension.outcome, Declension.outcome, meets, Rule.adopt, gate]
  have told : traceRule E (r.adopt content) w classed d.value =
      traceRule E r w classed d.value := by
    rw [traceRule, traceRule, outcome, Rule.adopt, name, transforms]
  rw [step, step, told]

theorem fold_adopt {content : Rule → RuleContent} {rules : List Rule}
    (alike : ∀ r ∈ rules, (content r).Alike r.content) (record : List RuleTrace) :
    fold E w classed record (rules.map fun r => r.adopt (content r)) =
      fold E w classed record rules := by
  rw [fold, fold, List.foldl_map]
  exact List.foldl_ext _ _ _ fun d r hr => step_adopt E w classed (alike r hr) d

end Declension

namespace RuleSet
variable {E : Pattern.Engine}

theorem decline_adopt {s s' : RuleSet} {content : Rule → RuleContent}
    (rules : s'.rules = s.rules.map fun r => r.adopt (content r))
    (alike : ∀ r ∈ s.rules, (content r).Alike r.content) (l : Lexicon) (word : Id)
    (c : Combination) :
    s'.decline E l word c = s.decline E l word c := by
  rw [decline, decline, declineTraced, declineTraced]
  refine bind_congr fun w => ?_
  rw [rulesFor_adopt rules, Declension.fold_adopt E w _ fun r hr =>
    alike r (mem_of_mem_rulesFor hr)]

/-- **Equivalent rules can stand in for each other.** In a rule set that comes of operations, from
nothing or from a definition, every gate is matched against the whole form and every step anywhere.
So when one of two equivalent rules takes over what the other says, and both have the same
conditions, every word has the same forms as before, with the same reports. -/
theorem equivalent_rules_interchange {s : RuleSet} (h : Reachable E s) :
    (∀ r ∈ s.rules, r.content.gate.anchored = true ∧
      ∀ t ∈ r.content.transforms, t.pattern.anchored = false) ∧
      ∀ r ∈ s.rules, ∀ t ∈ s.rules, r.equivalent t = true →
        (∀ c, c ∈ r.content.conditions ↔ c ∈ t.content.conditions) →
        ∀ (l : Lexicon) (word : Id) (c : Combination),
          (s.edit r.id fun _ => t.content).decline E l word c = s.decline E l word c := by
  refine ⟨fun r hr =>
    RuleContent.built_iff.mp (h.built r hr), fun r hr t ht equivalent conditions l word c => ?_⟩
  have texts := (Rule.equivalent_iff.mp equivalent).2
  have alike : t.content.Alike r.content :=
    ⟨fun c => (conditions c).symm, (h.built t ht).eq_of_texts (h.built r hr) texts.symm⟩
  let content (u : Rule) : RuleContent := if u.id = r.id then t.content else u.content
  have rules : (s.edit r.id fun _ => t.content).rules = s.rules.map fun u =>
      u.adopt (content u) := by
    refine List.map_congr_left fun u _ => ?_
    dsimp only [content]
    split <;> rfl
  refine decline_adopt rules (fun u hu => ?_) l word c
  dsimp only [content]
  split
  · next itself =>
    -- No other rule has the id of the one that is edited.
    obtain rfl : u = r :=
      Option.some.inj ((h.wellKept.rule?_id hu).symm.trans (itself ▸ h.wellKept.rule?_id hr))
    exact alike
  · exact .refl _

/-- Two rules come to be written alike; their conditions stand in different orders. -/
theorem equivalent_rules_interchange_umlaut :
    let E := Settings.standard.engine
    let umlaut : RuleContent :=
      { name := "umlaut", gate := ⟨"t.*", true⟩, conditions := [⟨3, 1, false⟩, ⟨4, 1, true⟩],
        transforms := [.ofTexts "a" "e"] }
    let change (r : RuleContent) : RuleContent :=
      (r.setTransform 0 none (some "e")).addCondition ⟨3, 1, false⟩
    let s := ((empty.perform E (.add 1 (.ofForm 1) umlaut)).perform E
      (.add 1 (.ofForm 1) (umlaut.setTransform 0 none (some "i")))).perform E (.edit 2 change)
    let gender : WordClass := { id := 3, name := "gender", appliesTo := [1] }
    let l := ((Lexicon.empty.addPartOfSpeech ⟨1, "noun"⟩).addClass gender).addWord
      (Word.withClassValue { id := 1, value := "tata", type := 1 } 3 1)
    (s.edit 1 fun _ => change umlaut).decline E l 1 (.ofForm 1) = s.decline E l 1 (.ofForm 1) ∧
      ((s.decline E l 1 (.ofForm 1)).map (·.value)).toOption = some "tete" ∧
      (change umlaut).conditions ≠ umlaut.conditions := by
  intro E umlaut change s gender l
  have built : umlaut.Built := RuleContent.built_iff.mpr (by decide)
  have first : Operation.Builds (.add 1 (.ofForm 1) umlaut) := built
  have second : Operation.Builds (.add 1 (.ofForm 1) (umlaut.setTransform 0 none (some "i"))) :=
    built.setTransform 0 none (some "i")
  have third : Operation.Builds (.edit 2 change) := fun r h =>
    (h.setTransform 0 none (some "e")).setConditions _
  have reached : Reachable E s := ((Reachable.empty.perform first).perform second).perform third
  have shuffled : umlaut.conditions.Perm (change umlaut).conditions := by decide
  refine ⟨?_, by decide +kernel, by decide⟩
  exact (equivalent_rules_interchange reached).2 ⟨1, 1, 1, .ofForm 1, umlaut⟩ (by decide +kernel)
    ⟨2, 2, 1, .ofForm 1, change umlaut⟩ (by decide +kernel) (by decide +kernel)
    (fun _ => shuffled.mem_iff) l 1
    (.ofForm 1)

/-- Unless they have been built, contents of the same texts can do different things. -/
example :
    let E := Settings.standard.engine
    let l :=
      (Lexicon.empty.addPartOfSpeech ⟨1, "noun"⟩).addWord { id := 1, value := "tata", type := 1 }
    let value (gate : Pattern) : Option String :=
      (((empty.add 1 (.ofForm 1) { gate, transforms := [.ofTexts "a" "e"] }).decline E l 1
        (.ofForm 1)).map
        (·.value)).toOption
    value ⟨"t", true⟩ = some "tata" ∧ value ⟨"t", false⟩ = some "tete" := by decide +kernel

end RuleSet

end Conlang
