import Conlang.Proofs.Definition.Acceptance
import Conlang.Proofs.RuleSet.Copying

/-! Which rule sets there are.

What a rule says is made of texts, bit by bit (`RuleContent.Built`), and a rule set comes of
operations, from nothing or from a definition (`Reachable`). How a pattern is matched is never
chosen on the way: a gate is matched against the whole form, and a step looks for its pattern
anywhere (`RuleContent.built_iff`). After an operation a rule says what some rule said before, or
what the operation brings, or what it makes of what was said (`perform_origin`), so this holds of
all rule sets that there are (`Reachable.built`). -/
namespace Conlang

/-! ### What a rule can say -/

inductive Substitution.Built : Substitution → Prop where
  | ofTexts (pattern replacement : String) : Built (.ofTexts pattern replacement)
  | setPattern {t : Substitution} (source : String) : Built t →
    Built { t with pattern := { t.pattern with source } }
  | setReplacement {t : Substitution} (replacement : String) : Built t →
    Built { t with replacement }

/-- A content that is made by setting its parts one after the other. -/
inductive RuleContent.Built : RuleContent → Prop where
  | blank : Built {}
  | setName {r : RuleContent} (name : String) : Built r → Built { r with name }
  | setGate {r : RuleContent} (source : String) : Built r → Built (r.setGate source)
  | setConditions {r : RuleContent} (conditions : List ClassCondition) : Built r →
    Built { r with conditions }
  | setTransforms {r : RuleContent} {transforms : List Substitution} :
      Built r → (∀ t ∈ transforms, t.Built) → Built { r with transforms }

theorem Substitution.built_iff {t : Substitution} : t.Built ↔ t.pattern.anchored = false := by
  constructor
  · intro h
    induction h with
    | ofTexts pattern replacement => rfl
    | setPattern source _ ih => exact ih
    | setReplacement replacement _ ih => exact ih
  · obtain ⟨⟨source, anchored⟩, replacement⟩ := t
    rintro rfl
    exact .ofTexts source replacement

namespace RuleContent

theorem built_iff {r : RuleContent} :
    r.Built ↔ r.gate.anchored = true ∧ ∀ t ∈ r.transforms, t.pattern.anchored = false := by
  constructor
  · intro h
    induction h with
    | blank => exact ⟨rfl, fun t ht => absurd ht List.not_mem_nil⟩
    | setName name _ ih => exact ih
    | setGate source _ ih => exact ih
    | setConditions conditions _ ih => exact ih
    | setTransforms _ built ih => exact ⟨ih.1, fun t ht => Substitution.built_iff.mp (built t ht)⟩
  · obtain ⟨name, ⟨source, anchored⟩, conditions, transforms⟩ := r
    rintro ⟨rfl, floating⟩
    have built : ∀ t ∈ transforms, t.Built := fun t ht => Substitution.built_iff.mpr (floating t ht)
    exact (((Built.blank.setName name).setGate source).setConditions conditions).setTransforms built

-- Steps are also edited one by one, and that keeps a content built.
namespace Built
variable {r : RuleContent} (h : r.Built)
include h

theorem addTransform {t : Substitution} (built : t.Built) : (r.addTransform t).Built := by
  rw [built_iff] at h ⊢
  refine ⟨h.1, List.forall_mem_append.mpr ⟨h.2, ?_⟩⟩
  exact List.forall_mem_singleton.mpr (Substitution.built_iff.mp built)

theorem setTransform (place : Nat) (pattern replacement : Option String) :
    (r.setTransform place pattern replacement).Built := by
  rw [built_iff] at h ⊢
  refine ⟨h.1, fun t ht => ?_⟩
  obtain ⟨i, there⟩ := List.mem_iff_getElem?.mp ht
  rw [RuleContent.setTransform, List.getElem?_modify] at there
  obtain ⟨u, old, rfl⟩ := Option.map_eq_some_iff.mp there
  have floating := h.2 u (List.mem_of_getElem? old)
  split
  · exact floating
  · exact floating

theorem removeTransform (place : Nat) : (r.removeTransform place).Built := by
  rw [built_iff] at h ⊢
  exact ⟨h.1, fun t ht => h.2 t (List.mem_of_mem_eraseIdx ht)⟩

end Built

end RuleContent

/-! ### Contents after an operation -/

namespace RuleSet

/-- Where the content of a rule comes from, after an operation on `s`. -/
inductive Origin (E : Pattern.Engine) (s : RuleSet) : Operation → RuleContent → Prop where
  | kept {op r} : r ∈ s.rules → Origin E s op r.content
  | added {type c content} : Origin E s (.add type c content) content
  | edited {id change r} : r ∈ s.rules → Origin E s (.edit id change) (change r.content)
  | updated {type model u} : Origin E s (.updateEquivalent type model u) u.content
  | evolved {filter find replace r} : r ∈ s.rules → Origin E s (.evolve filter find replace)
      { r.content with transforms := r.content.transforms.map (evolve E find replace) }
  | purged {l r} : r ∈ s.rules →
      Origin E s (.purge l)
      { r.content with conditions := r.content.conditions.filter (isCurrent l) }

/-- No rule says what none said before. -/
def SaysNoMore (s s' : RuleSet) : Prop := ∀ r ∈ s'.rules, ∃ r₀ ∈ s.rules, r₀.content = r.content

namespace SaysNoMore
variable {s s' : RuleSet}

theorem of_rules (rules : s'.rules = s.rules) : SaysNoMore s s' := fun r hr => ⟨r, rules ▸ hr, rfl⟩

theorem of_unnumbered {l : List Rule} (sub : l ⊆ s.rules)
    (perm : (s'.rules.map Rule.unnumbered).Perm (l.map Rule.unnumbered)) : SaysNoMore s s' := by
  intro r hr
  obtain ⟨r₀, hr₀, same⟩ := List.mem_map.mp (perm.mem_iff.mp (List.mem_map_of_mem hr))
  exact ⟨r₀, sub hr₀, congrArg (·.content) same⟩

theorem deleteWhere (s : RuleSet) (doomed : Rule → Bool) : SaysNoMore s (s.deleteWhere doomed) :=
  of_unnumbered (List.filter_subset_self _) (map_unnumbered_deleteWhere s doomed)

theorem reorder (s : RuleSet) (type : Id) (c : Combination) (move : List Nat → List Nat) :
    SaysNoMore s (s.reorder type c move) :=
  of_unnumbered (List.Subset.refl _) (map_unnumbered_reorder s type c move)

theorem dropForms {type : Id} {chosen : Combination → Bool} (rules : s'.rules = s.rules) :
    SaysNoMore s (s'.dropForms type chosen).2 := by
  intro r hr
  obtain ⟨r₀, hr₀, same⟩ := deleteWhere _ _ r hr
  exact ⟨r₀, rules ▸ hr₀, same⟩

theorem foldl_add {copies : List (Combination × RuleContent)} (type : Id)
    (said : ∀ copy ∈ copies, ∃ r₀ ∈ s.rules, r₀.content = copy.2) (h : SaysNoMore s s') :
    SaysNoMore s (copies.foldl (fun s (c, content) => s.add type c content) s') := by
  induction copies generalizing s' with
  | nil => exact h
  | cons copy rest ih =>
    obtain ⟨here, said⟩ := List.forall_mem_cons.mp said
    refine ih said fun r hr => ?_
    rcases List.mem_append.mp hr with old | new
    · exact h r old
    · rw [List.mem_singleton.mp new]
      exact here

theorem after_bind {α β : Type} {found : Except Fault α} {f : α → Except Fault (β × RuleSet)}
    (change : ∀ a, found = .ok a → SaysNoMore s (s.after (f a))) :
    SaysNoMore s (s.after (found >>= f)) :=
  RuleSet.after_bind (.of_rules rfl) change

end SaysNoMore

theorem mem_of_resolve {s : RuleSet} {ids : List Nat} {models : List Rule}
    (found : s.resolve ids = .ok models) :
    ∀ r ∈ models, r ∈ s.rules := by
  intro r hr
  have named : some r ∈ models.map some := List.mem_map_of_mem hr
  rw [resolve_eq_ok_iff.mp found] at named
  obtain ⟨id, -, same⟩ := List.mem_map.mp named
  exact List.mem_of_find?_eq_some same

/-- Most operations only move contents, or take some away. -/
theorem perform_origin (E : Pattern.Engine) (s : RuleSet) (op : Operation) :
    ∀ r ∈ (s.perform E op).rules, Origin E s op r.content := by
  have of_saysNoMore (h : SaysNoMore s (s.perform E op)) : ∀ r ∈ (s.perform E op).rules,
      Origin E s op r.content := by
    intro r hr
    obtain ⟨r₀, hr₀, same⟩ := h r hr
    exact same ▸ .kept hr₀
  -- Five operations write contents; for all others it is enough that no rule says more.
  cases op with
  | add type c content =>
    intro r hr
    rcases List.mem_append.mp hr with old | new
    · exact .kept old
    · rw [List.mem_singleton.mp new]
      exact .added
  | edit id change =>
    intro r hr
    obtain ⟨r₀, hr₀, rfl⟩ := List.mem_map.mp hr
    split
    · exact .edited hr₀
    · exact .kept hr₀
  | updateEquivalent type model u =>
    intro r hr
    obtain ⟨r₀, hr₀, rfl⟩ := List.mem_map.mp hr
    dsimp only
    split
    · exact .updated
    · exact .kept hr₀
  | evolve filter find replace =>
    rw [perform, evolveRules]
    split
    · exact fun r hr => .kept hr
    · intro r hr
      obtain ⟨r₀, hr₀, rfl⟩ := List.mem_map.mp hr
      dsimp only
      split
      · exact .evolved hr₀
      · exact .kept hr₀
  | purge l =>
    intro r hr
    obtain ⟨r₀, hr₀, rfl⟩ := List.mem_map.mp hr
    exact .purged hr₀
  | deleteRule | deleteRules | deleteRulesFor => exact of_saysNoMore (.deleteWhere s _)
  | moveUp type c ids =>
    refine of_saysNoMore ?_
    rw [perform, moveUp]
    split
    · exact .of_rules rfl
    · exact .reorder s type c _
  | moveDown type c ids =>
    refine of_saysNoMore ?_
    rw [perform, moveDown]
    split
    · exact .of_rules rfl
    · exact .reorder s type c _
  | copyToSharers type dimension value ids source =>
    refine of_saysNoMore (.after_bind fun place _ => .after_bind fun models found => ?_)
    refine .foldl_add type (fun copy hcopy => ?_) (.of_rules rfl)
    obtain ⟨c, -, hc⟩ := List.mem_flatMap.mp hcopy
    obtain ⟨r, hr, rfl⟩ := List.mem_map.mp hc
    exact ⟨r, mem_of_resolve found r hr, rfl⟩
  | deleteFromSharers type dimension value ids =>
    exact of_saysNoMore (.after_bind fun place _ => .after_bind fun models _ => .deleteWhere s _)
  | deleteEquivalent type ids => exact of_saysNoMore (.after_bind fun models _ => .deleteWhere s _)
  | addDimension type label =>
    refine of_saysNoMore ?_
    rw [perform, addDimension, addItem]
    split <;> exact .of_rules rfl
  | insertDimension type d =>
    refine of_saysNoMore ?_
    rw [perform, insertDimension]
    split <;> exact .of_rules rfl
  | addValue type dimension label =>
    refine of_saysNoMore (.after_bind fun place _ => ?_)
    dsimp only
    split <;> exact .of_rules rfl
  | addExtra type label =>
    refine of_saysNoMore ?_
    rw [perform, addExtra, addItem]
    split <;> exact .of_rules rfl
  | insertExtra type e =>
    refine of_saysNoMore ?_
    rw [perform, insertExtra]
    split <;> exact .of_rules rfl
  | deleteDimension type dimension =>
    exact of_saysNoMore (.after_bind fun place _ => .dropForms rfl)
  | deleteValue type dimension value =>
    refine of_saysNoMore (.after_bind fun place found => ?_)
    dsimp only
    split
    · exact .of_rules rfl
    · exact .dropForms rfl
  | deleteExtra type form =>
    refine of_saysNoMore ?_
    rw [perform, deleteExtra]
    split
    · exact .of_rules rfl
    · split
      · exact .of_rules rfl
      · show SaysNoMore s (RuleSet.dropForms _ type (· == .ofForm form)).2
        exact .dropForms rfl
  | clearType type => exact of_saysNoMore fun r hr => ⟨r, List.mem_of_mem_filter hr, rfl⟩
  | suppress | loadSuppressed => exact of_saysNoMore (.of_rules rfl)

theorem anchored_evolve {E : Pattern.Engine} {find replace : String} (t : Substitution) :
    (RuleSet.evolve E find replace t).pattern.anchored = t.pattern.anchored := by
  rw [evolve]
  split
  · rfl
  · rfl

/-! ### Reachable rule sets -/

/-- Brings nothing but what has been built; a change may do with a content whatever keeps it
built. -/
def Operation.Builds : Operation → Prop
  | .add _ _ content => content.Built
  | .edit _ change => ∀ r : RuleContent, r.Built → (change r).Built
  | .updateEquivalent _ _ updated => updated.content.Built
  | _ => True

inductive Reachable (E : Pattern.Engine) : RuleSet → Prop where
  | empty : Reachable E empty
  | loaded {d : Definition} {l : Language} : d.load = .ok l → Reachable E l.rules
  | perform {s : RuleSet} {op : Operation} : Reachable E s → op.Builds →
    Reachable E (s.perform E op)

end RuleSet

/-! ### Definitions -/

namespace Definition

theorem RuleEntry.built_content (e : RuleEntry) : e.content.Built := by
  refine .setGate _ ?_
  refine List.foldlRecOn (motive := RuleContent.Built) e.classes _ ?_ fun content h c _ =>
    .setConditions _ h
  refine (RuleContent.Built.blank.setName e.name).setTransforms fun t ht => ?_
  obtain ⟨step, -, rfl⟩ := List.mem_map.mp ht
  exact .ofTexts step.pattern step.replacement

end Definition

/-! ### All that is reachable -/

namespace RuleSet.Reachable
open Definition
variable {E : Pattern.Engine} {s : RuleSet} (h : Reachable E s)
include h

theorem wellKept : WellKept s := by
  induction h with
  | empty => exact wellKept_empty
  | loaded made =>
    obtain ⟨consistent, rfl⟩ := load_eq_ok_iff.mp made
    exact (wellKept_ruleSet consistent.combinations).of_rules rfl rfl
  | perform _ _ ih => exact wellKept_perform E ih _

theorem built : ∀ r ∈ s.rules, r.content.Built := by
  induction h with
  | empty => exact fun r hr => absurd hr List.not_mem_nil
  | loaded made =>
    obtain ⟨consistent, rfl⟩ := load_eq_ok_iff.mp made
    intro r hr
    obtain ⟨e, -, same⟩ := content_of_mem_rules consistent.combinations hr
    exact same ▸ e.built_content
  | perform before builds ih =>
    intro r hr
    have origin := perform_origin E _ _ r hr
    -- Where a content comes from does not depend on the rule that has it.
    generalize r.content = content at origin ⊢
    cases origin with
    | kept known => exact ih _ known
    | added => exact builds
    | edited known => exact builds _ (ih _ known)
    | updated => exact builds
    | evolved known =>
      obtain ⟨gate, floating⟩ := RuleContent.built_iff.mp (ih _ known)
      refine RuleContent.built_iff.mpr ⟨gate, fun t' ht' => ?_⟩
      obtain ⟨t, ht, rfl⟩ := List.mem_map.mp ht'
      exact (anchored_evolve t).trans (floating t ht)
    | purged known => exact (ih _ known).setConditions _

end RuleSet.Reachable

end Conlang
