import Conlang.Proofs.RuleSet.Equivalence
import Conlang.Proofs.Text.Replacing
import Conlang.Proofs.Text.Runs
import Conlang.Settings

/-! What a replacement in all transforms does, and how it is undone.

`StepEvolves` says what becomes of one transform and what is told of it: pattern and replacement
change together or not at all, and there is a record whenever something would change. Rules and
parts of speech are rows of such changes (`EachTold`), so the records can be read beside the rules
(`evolution_tells_all`). When the text has been replaced by a character that stood nowhere,
replacing the character by the text takes back all that has happened, and nothing else
(`evolution_undone`). -/
namespace Conlang
open Text

/-- White space throughout. -/
def Pattern.Blank (p : Pattern) : Prop := ∀ c ∈ p.source.toList, isBlank c = true

instance (p : Pattern) : Decidable p.Blank := List.decidableBAll _ p.source.toList

/-- The text is replaced both in the pattern and in the replacement. -/
structure Substitution.Rewrites (find new : String) (t u : Substitution) : Prop where
  pattern : Replaces find.toList new.toList t.pattern.source.toList u.pattern.source.toList
  replacement : Replaces find.toList new.toList t.replacement.toList u.replacement.toList
  anchored : u.pattern.anchored = t.pattern.anchored

def Rule.withoutTransforms (r : Rule) : Rule := r.adopt { r.content with transforms := [] }

/-- The members of a list become others one by one, and what is told of them comes in the same
order. -/
inductive EachTold {α β : Type} (becomes : α → α → List β → Prop) :
    List α → List α → List β → Prop where
  | nil : EachTold becomes [] [] []
  | cons {a a' told l l' more} : becomes a a' told → EachTold becomes l l' more →
      EachTold becomes (a :: l) (a' :: l') (told ++ more)

theorem EachTold.of_forall {α β : Type} {becomes : α → α → List β → Prop} {f : α → α}
    {g : α → List β} (each : ∀ a, becomes a (f a) (g a)) (l : List α) :
    EachTold becomes l (l.map f) (l.flatMap g) := by
  induction l with
  | nil => exact .nil
  | cons a rest ih => exact .cons (each a) ih

namespace RuleSet

section
variable (E : Pattern.Engine) (find new : String)

inductive StepEvolves (r : Rule) (t : Substitution) :
    Substitution → List EvolutionRecord → Prop where
  | alike : t.Rewrites find new t → StepEvolves r t t []
  | taken {u} : t.Rewrites find new u → u ≠ t → ¬u.pattern.Blank → u.pattern.isLegal E = true →
      StepEvolves r t u [⟨r.id, r.content.name, t, u, none⟩]
  | blanked {u} : t.Rewrites find new u → u ≠ t → u.pattern.Blank →
      StepEvolves r t t [⟨r.id, r.content.name, t, u, some .blank⟩]
  | broken {u} : t.Rewrites find new u → u ≠ t → ¬u.pattern.Blank → u.pattern.isLegal E = false →
      StepEvolves r t t [⟨r.id, r.content.name, t, u, some .illegal⟩]

inductive RuleEvolves (filter : Option Id) (r : Rule) : Rule → List EvolutionRecord → Prop where
  | elsewhere : (∃ type ∈ filter, r.type ≠ type) → RuleEvolves filter r r []
  | here {ts told} : (∀ type ∈ filter, r.type = type) →
      EachTold (StepEvolves E find new r) r.content.transforms ts told →
      RuleEvolves filter r (r.adopt { r.content with transforms := ts }) told

/-- All that becomes of a rule set, and the records of it: they come in the order of parts of
speech, and then of rules as they are kept, and then of transforms. -/
structure Evolution (filter : Option Id) (s s' : RuleSet) (records : List EvolutionRecord) :
    Prop where
  told : ∃ (types : List Id) (recordsOf : Id → List EvolutionRecord),
    types.Pairwise (· < ·) ∧ (∀ type, type ∈ types ↔ ∃ r ∈ s.rules, r.type = type) ∧
      (∀ type,
      EachTold (RuleEvolves E find new filter) (s.rulesOf type) (s'.rulesOf type)
      (recordsOf type)) ∧
      records = types.flatMap recordsOf
  kept : s'.rules.map Rule.withoutTransforms = s.rules.map Rule.withoutTransforms
  rest : s'.withoutRules = s.withoutRules

end

/-! ### One transform -/

section
variable {E : Pattern.Engine} {find new : String}

theorem rewrites_iff (sought : find ≠ "") {t u : Substitution} :
    t.Rewrites find new u ↔ u = evolved find new t := by
  obtain ⟨⟨source, anchored⟩, replacement⟩ := t
  obtain ⟨⟨source', anchored'⟩, replacement'⟩ := u
  constructor
  · rintro ⟨pattern, replacement, rfl⟩
    rw [replaces_iff sought] at pattern replacement
    dsimp only at pattern replacement
    rw [pattern, replacement, evolved]
  · intro same
    cases same
    exact ⟨(replaces_iff sought).mpr rfl, (replaces_iff sought).mpr rfl, rfl⟩

theorem sameText_evolved (t : Substitution) :
    (evolved find new t).sameText t = true ↔ evolved find new t = t := by
  obtain ⟨⟨source, anchored⟩, replacement⟩ := t
  simp [Substitution.sameText_iff, evolved]

theorem refusal?_eq_none_iff {u : Substitution} :
    refusal? E u = none ↔ ¬u.pattern.Blank ∧ u.pattern.isLegal E = true := by
  simp only [refusal?, isEmpty_trim_iff, Pattern.Blank]
  split <;> simp_all

theorem refusal?_cases (u : Substitution) :
    (refusal? E u = none ∧ ¬u.pattern.Blank ∧ u.pattern.isLegal E = true) ∨
      (refusal? E u = some .blank ∧ u.pattern.Blank) ∨
      refusal? E u = some .illegal ∧ ¬u.pattern.Blank ∧ u.pattern.isLegal E = false := by
  simp only [refusal?, isEmpty_trim_iff, Pattern.Blank]
  split
  · simp_all
  · cases u.pattern.isLegal E <;> simp_all

theorem evolve_of_taken {t : Substitution} (taken : refusal? E (evolved find new t) = none) :
    evolve E find new t = evolved find new t := by
  rw [evolve, taken]
  rfl

theorem evolve_of_refused {t : Substitution} {refusal : Refusal}
    (refused : refusal? E (evolved find new t) = some refusal) : evolve E find new t = t := by
  rw [evolve, refused]
  rfl

theorem evolve_of_alike {t : Substitution} (alike : evolved find new t = t) :
    evolve E find new t = t := by
  rw [evolve, alike, ite_self]

theorem record?_of_alike {r : Rule} {t : Substitution} (alike : evolved find new t = t) :
    record? E find new r t = none :=
  if_pos ((sameText_evolved t).mpr alike)

theorem record?_adopt {r : Rule} {t : Substitution} (transforms : List Substitution) :
    record? E find new (r.adopt { r.content with transforms }) t = record? E find new r t := rfl

theorem record?_of_changed {r : Rule} {t : Substitution} (changed : evolved find new t ≠ t) :
    record? E find new r t =
      some ⟨r.id, r.content.name, t, evolved find new t, refusal? E (evolved find new t)⟩ :=
  if_neg (mt (sameText_evolved t).mp changed)

theorem stepEvolves (sought : find ≠ "") (r : Rule) (t : Substitution) :
    StepEvolves E find new r t (evolve E find new t) (record? E find new r t).toList := by
  have rewrites : t.Rewrites find new (evolved find new t) := (rewrites_iff sought).mpr rfl
  by_cases alike : evolved find new t = t
  · rw [evolve_of_alike alike, record?_of_alike alike]
    rw [alike] at rewrites
    exact .alike rewrites
  · rw [record?_of_changed alike]
    rcases refusal?_cases (E := E) (evolved find new t) with
      ⟨taken, filled, legal⟩ | ⟨refused, blank⟩ | ⟨refused, filled, illegal⟩
    · rw [evolve_of_taken taken, taken]
      exact .taken rewrites alike filled legal
    · rw [evolve_of_refused refused, refused]
      exact .blanked rewrites alike blank
    · rw [evolve_of_refused refused, refused]
      exact .broken rewrites alike filled illegal

theorem inScope_iff {filter : Option Id} {r : Rule} :
    inScope filter r = true ↔ ∀ type ∈ filter, r.type = type := by
  rw [inScope, Option.all_eq_true]
  exact forall₂_congr fun type _ => beq_iff_eq.trans eq_comm

variable (E find new) in
def evolveRule (filter : Option Id) (r : Rule) : Rule :=
  if inScope filter r then
    r.adopt { r.content with transforms := r.content.transforms.map (evolve E find new) }
  else r

variable (E find new) in
def ruleRecords (filter : Option Id) (r : Rule) : List EvolutionRecord :=
  if inScope filter r then r.content.transforms.filterMap (record? E find new r) else []

theorem type_evolveRule (filter : Option Id) (r : Rule) :
    (evolveRule E find new filter r).type = r.type := by
  rw [evolveRule]
  split <;> rfl

theorem ruleEvolves (sought : find ≠ "") (filter : Option Id) (r : Rule) :
    RuleEvolves E find new filter r (evolveRule E find new filter r)
      (ruleRecords E find new filter r) := by
  rw [evolveRule, ruleRecords]
  split
  · next scope =>
    rw [List.filterMap_eq_flatMap_toList]
    exact .here (inScope_iff.mp scope) (.of_forall (stepEvolves sought r) _)
  · next scope =>
    rw [inScope_iff] at scope
    push Not at scope
    exact .elsewhere scope

/-! ### All rules -/

theorem evolveRules_eq (sought : find ≠ "") (s : RuleSet) (filter : Option Id) :
    evolveRules E find new s filter =
      { s with rules := s.rules.map (evolveRule E find new filter) } :=
  if_neg fun isEmpty => sought (String.isEmpty_iff.mp isEmpty)

theorem rulesOf_evolveRules (sought : find ≠ "") (s : RuleSet) (filter : Option Id) (type : Id) :
    (evolveRules E find new s filter).rulesOf type =
      (s.rulesOf type).map (evolveRule E find new filter) := by
  rw [evolveRules_eq sought, rulesOf, rulesOf, List.filter_map]
  refine congrArg _ (List.filter_congr fun r _ => ?_)
  rw [Function.comp_apply, type_evolveRule]

/-- By part of speech; rules of one part of speech are as good as equal. -/
def byType (r t : Rule) : Bool := r.type ≤ t.type

theorem byType_ranking : Ranking byType where
  total r t := by simpa [byType] using UInt32.le_total r.type t.type
  trans r t u := by simpa [byType] using UInt32.le_trans

theorem exists_types (s : RuleSet) :
    ∃ types : List Id,
      types.Pairwise (· < ·) ∧ ∀ type, type ∈ types ↔ ∃ r ∈ s.rules, r.type = type := by
  let le (a b : Id) : Bool := a ≤ b
  have ranking : Ranking le :=
    { total := fun a b => by simpa [le] using UInt32.le_total a b
      trans := fun a b c => by simpa [le] using UInt32.le_trans }
  let types := sortBy le (s.rules.map (·.type)).dedup
  refine ⟨types, ?_, fun type => by simp [types]⟩
  have distinct : types.Nodup := (sortBy_perm le _).nodup_iff.mpr (List.nodup_dedup _)
  refine ((pairwise_sortBy ranking _).and distinct).imp fun ⟨below, other⟩ => ?_
  exact UInt32.lt_of_le_of_ne (by simpa [le] using below) other

theorem evolutionRecords_eq (sought : find ≠ "") (s : RuleSet) (filter : Option Id) :
    evolutionRecords E find new s filter =
      (sortBy byType s.rules).flatMap (ruleRecords E find new filter) := by
  rw [evolutionRecords, if_neg fun isEmpty => sought (String.isEmpty_iff.mp isEmpty)]
  show (sortBy byType _).flatMap _ = _
  rw [← filter_sortBy byType_ranking]
  induction sortBy byType s.rules with
  | nil => rfl
  | cons r rest ih =>
    rw [List.filter_cons, List.flatMap_cons, ← ih, ruleRecords]
    split <;> rfl

theorem sortBy_byType {s : RuleSet} {types : List Id} (rise : types.Pairwise (· < ·))
    (listed : ∀ type, type ∈ types ↔ ∃ r ∈ s.rules, r.type = type) :
    sortBy byType s.rules = types.flatMap s.rulesOf := by
  refine sortBy_eq_flatMap Rule.type (fun r t same => ?_) (rise.imp fun {a b} below r t hr ht => ?_)
    fun r hr => (listed r.type).mpr ⟨r, hr, rfl⟩
  · simp [byType, same]
  · subst hr ht
    simpa [byType] using ⟨UInt32.le_of_lt below, below⟩

theorem evolution (sought : find ≠ "") (s : RuleSet) (filter : Option Id) :
    Evolution E find new filter s (evolveRules E find new s filter)
      (evolutionRecords E find new s filter) where
  told := by
    obtain ⟨types, rise, listed⟩ := exists_types s
    refine ⟨types, fun type =>
      (s.rulesOf type).flatMap (ruleRecords E find new filter), rise, listed, fun type => ?_, ?_⟩
    · rw [rulesOf_evolveRules sought]
      exact .of_forall (ruleEvolves sought filter) _
    · rw [evolutionRecords_eq sought, sortBy_byType rise listed, List.flatMap_assoc]
  kept := by
    rw [evolveRules_eq sought, List.map_map]
    refine List.map_congr_left fun r _ => ?_
    rw [Function.comp_apply, evolveRule]
    split <;> rfl
  rest := by
    rw [evolveRules_eq sought]
    rfl

/-- The record of the opposite change. -/
def EvolutionRecord.reversed (e : EvolutionRecord) : EvolutionRecord :=
  { e with before := e.after, after := e.before }

/-- A transform that has a good pattern, and that does not hold the character. -/
structure FineWithout (E : Pattern.Engine) (x : Char) (t : Substitution) : Prop where
  legal : t.pattern.isLegal E = true
  filled : ¬t.pattern.Blank
  pattern : x ∉ t.pattern.source.toList
  replacement : x ∉ t.replacement.toList

section
variable {x : Char}

theorem singleton_ne_empty (x : Char) : String.singleton x ≠ "" := by
  rw [ne_eq, ← String.toList_inj, String.toList_singleton]
  exact List.cons_ne_nil x []

section
variable {t : Substitution} (fine : FineWithout E x t)
include fine

theorem evolved_of_fresh : evolved (.singleton x) new t = t := by
  refine ((rewrites_iff (singleton_ne_empty x)).mp ⟨?_, ?_, rfl⟩).symm
  · rw [String.toList_singleton]
    exact .of_notMem fine.pattern _
  · rw [String.toList_singleton]
    exact .of_notMem fine.replacement _

theorem evolved_evolved (sought : find ≠ "") :
    evolved (.singleton x) find (evolved find (.singleton x) t) = t := by
  have there : t.Rewrites find (.singleton x) (evolved find (.singleton x) t) :=
    (rewrites_iff sought).mpr rfl
  have pattern := there.pattern
  have replacement := there.replacement
  rw [String.toList_singleton] at pattern replacement
  refine ((rewrites_iff (singleton_ne_empty x)).mp ⟨?_, ?_, there.anchored.symm⟩).symm
  · rw [String.toList_singleton]
    exact pattern.undo fine.pattern
  · rw [String.toList_singleton]
    exact replacement.undo fine.replacement

/-- What has been changed can always be changed back, for it was fine before. -/
theorem taken_back (sought : find ≠ "") :
    refusal? E (evolved (.singleton x) find (evolved find (.singleton x) t)) = none := by
  rw [evolved_evolved fine sought]
  exact refusal?_eq_none_iff.mpr ⟨fine.filled, fine.legal⟩

theorem evolve_evolve (sought : find ≠ "") :
    evolve E (.singleton x) find (evolve E find (.singleton x) t) = t := by
  cases verdict : refusal? E (evolved find (.singleton x) t) with
  | none =>
    rw [evolve_of_taken verdict, evolve_of_taken (taken_back fine sought),
      evolved_evolved fine sought]
  | some refusal =>
    -- The transform is as it was, so the character is not in it, and nothing is replaced on the way
    -- back.
    rw [evolve_of_refused verdict, evolve_of_alike (evolved_of_fresh fine)]

theorem record?_evolve (sought : find ≠ "") (r : Rule) :
    record? E (.singleton x) find r (evolve E find (.singleton x) t) =
      ((record? E find (.singleton x) r t).filter (·.refusal.isNone)).map .reversed := by
  by_cases alike : evolved find (.singleton x) t = t
  · rw [evolve_of_alike alike, record?_of_alike alike, record?_of_alike (evolved_of_fresh fine)]
    rfl
  rw [record?_of_changed alike]
  cases verdict : refusal? E (evolved find (.singleton x) t) with
  | none =>
    have back := evolved_evolved fine sought
    have changed : evolved (.singleton x) find (evolved find (.singleton x) t) ≠
        evolved find (.singleton x) t :=
      back.trans_ne (Ne.symm alike)
    rw [evolve_of_taken verdict, record?_of_changed changed, taken_back fine sought, back]
    rfl
  | some refusal =>
    rw [evolve_of_refused verdict, record?_of_alike (evolved_of_fresh fine)]
    rfl

end

section
variable {r : Rule} (fine : ∀ t ∈ r.content.transforms, FineWithout E x t) (sought : find ≠ "")
include fine sought

theorem evolveRule_evolveRule (filter : Option Id) :
    evolveRule E (.singleton x) find filter (evolveRule E find (.singleton x) filter r) = r := by
  by_cases scope : inScope filter r = true
  · have scope' (content : RuleContent) : inScope filter (r.adopt content) = true := scope
    have back : ∀ t ∈ r.content.transforms,
        (evolve E (.singleton x) find ∘ evolve E find (.singleton x)) t = id t := by
      intro t ht
      rw [Function.comp_apply, evolve_evolve (fine t ht) sought, id]
    rw [evolveRule, evolveRule, if_pos scope, if_pos (scope' _), Rule.adopt, Rule.adopt]
    dsimp only
    rw [List.map_map, List.map_congr_left back, List.map_id]
  · have nothing (a b : String) : evolveRule E a b filter r = r := if_neg scope
    rw [nothing, nothing]

theorem ruleRecords_evolveRule (filter : Option Id) :
    ruleRecords E (.singleton x) find filter (evolveRule E find (.singleton x) filter r) =
      ((ruleRecords E find (.singleton x) filter r).filter (·.refusal.isNone)).map .reversed := by
  by_cases scope : inScope filter r = true
  · have scope' (content : RuleContent) : inScope filter (r.adopt content) = true := scope
    rw [evolveRule, if_pos scope, ruleRecords, ruleRecords, if_pos scope, if_pos (scope' _),
      List.filter_filterMap, List.map_filterMap]
    refine List.filterMap_map.trans (List.filterMap_congr fun t ht => ?_)
    rw [Function.comp_apply, record?_adopt, record?_evolve (fine t ht) sought]
  · rw [evolveRule, if_neg scope, ruleRecords, ruleRecords, if_neg scope, if_neg scope]
    rfl

end

variable (E) in
/-- **Replacing a text by a character that stands nowhere can be undone.** If no pattern is bad to
begin with, then replacing the character by the text gives the rules back as they were, whichever of
the changes were refused on the way. It is told of the changes that were made, in the same order,
and each is turned around. -/
theorem evolution_undone (s : RuleSet) (filter : Option Id) (find : String) (x : Char)
    (sought : find ≠ "") (fine : ∀ r ∈ s.rules, ∀ t ∈ r.content.transforms, t.pattern.isLegal E =
      true ∧ ¬t.pattern.Blank)
    (fresh : ∀ r ∈ s.rules, ∀ t ∈ r.content.transforms, x ∉ t.pattern.source.toList ∧
      x ∉ t.replacement.toList) :
    let s' := evolveRules E find (.singleton x) s filter
    evolveRules E (.singleton x) find s' filter = s ∧
      evolutionRecords E (.singleton x) find s' filter =
        ((evolutionRecords E find (.singleton x) s filter).filter (·.refusal.isNone)).map
        .reversed := by
  have fineWithout (r : Rule) (hr : r ∈ s.rules) (t : Substitution)
      (ht : t ∈ r.content.transforms) :
        FineWithout E x t :=
    ⟨(fine r hr t ht).1, (fine r hr t ht).2, (fresh r hr t ht).1, (fresh r hr t ht).2⟩
  rw [evolveRules_eq sought]
  constructor
  · rw [evolveRules_eq (singleton_ne_empty x)]
    dsimp only
    have back : ∀ r ∈ s.rules,
        (evolveRule E (.singleton x) find filter ∘ evolveRule E find (.singleton x) filter) r =
        id r := by
      intro r hr
      rw [Function.comp_apply, evolveRule_evolveRule (fineWithout r hr) sought, id]
    rw [List.map_map, List.map_congr_left back, List.map_id]
  · have sameOrder (r t : Rule) :
        byType (evolveRule E find (.singleton x) filter r)
        (evolveRule E find (.singleton x) filter t) = byType r t := by
      rw [byType, byType, type_evolveRule, type_evolveRule]
    rw [evolutionRecords_eq (singleton_ne_empty x), evolutionRecords_eq sought,
      sortBy_map sameOrder, List.flatMap_map, List.filter_flatMap, List.map_flatMap]
    refine List.flatMap_congr fun r hr => ?_
    exact ruleRecords_evolveRule (fineWithout r (mem_sortBy.mp hr)) sought filter

/-- A parenthesis alone is no pattern, so one of the changes is refused, and not taken back. -/
theorem evolution_undone_parenthesis :
    let E := Settings.standard.engine
    let parenthesis := String.singleton '('
    let s : RuleSet := { rules := [⟨1, 1, 1, .ofForm 1,
      { name := "opening", transforms := [.ofTexts "a" "o", .ofTexts "[ai]" "a"] }⟩] }
    let s' := evolveRules E "a" parenthesis s none
    s'.rules.map (·.content.transforms) = [[.ofTexts "a" "o", .ofTexts "[(i]" "("]] ∧
      evolveRules E parenthesis "a" s' none = s ∧
      evolutionRecords E parenthesis "a" s' none =
        [⟨1, "opening", .ofTexts "[(i]" "(", .ofTexts "[ai]" "a", none⟩] := by
  intro E parenthesis s s'
  obtain ⟨back, records⟩ :=
    evolution_undone E s none "a" '(' (by decide) (by decide +kernel) (by decide +kernel)
  exact ⟨by decide +kernel, back, records.trans (by decide +kernel)⟩

end

end

end RuleSet

end Conlang
