import Conlang.Proofs.Definition.Consistency
import Conlang.Proofs.Paradigm.Spelling
import Conlang.Proofs.RuleSet.WellKept

/-! The rule set of a definition.

Dimensions and extra forms go in one after the other, and each is checked against those before it.
All of them go in exactly when the paradigms that come out have distinct ids
(`foldlM_insert_eq_ok_iff`). Rules follow in the order of the definition, so those of a form are
numbered in that order (`bucket_ruleSet`). -/
namespace Conlang

namespace RuleSet

/-! ### Insertions in a row -/

/-- The rule set with the item, if it fits. -/
def Insertion.offer (s : RuleSet) (i : Insertion) : Except Fault RuleSet := do
  i.check (s.paradigm i.type)
  return i.insert s

theorem Insertion.offer_eq (s : RuleSet) (i : Insertion) :
    i.offer s = match i.clash? (s.paradigm i.type) with
      | some id => .error (.repeatedId id)
      | none => .ok (i.insert s) := by
  rw [offer, check]
  cases i.clash? (s.paradigm i.type) <;> rfl

theorem Insertion.offer_eq_ok_iff {s s' : RuleSet} {i : Insertion} :
    i.offer s = .ok s' ↔ ¬i.Clashes (s.paradigm i.type) ∧ s' = i.insert s := by
  rw [offer_eq, ← clash?_eq_none_iff]
  cases i.clash? (s.paradigm i.type) with
  | none =>
    rw [Except.ok.injEq, and_iff_right rfl]
    exact eq_comm
  | some id => simp

theorem distinct_insert_iff {s : RuleSet} {i : Insertion} :
    (∀ type, ((i.insert s).paradigm type).Distinct) ↔
      (∀ type, (s.paradigm type).Distinct) ∧ ¬i.Clashes (s.paradigm i.type) := by
  simp only [Insertion.paradigm_insert]
  constructor
  · intro distinct
    have here := distinct i.type
    rw [if_pos rfl, Insertion.distinct_into_iff] at here
    refine ⟨fun type => ?_, here.2⟩
    have there := distinct type
    split at there
    · next same => exact same ▸ here.1
    · exact there
  · rintro ⟨distinct, fits⟩ type
    split
    · next same => exact Insertion.distinct_into_iff.mpr ⟨distinct type, same ▸ fits⟩
    · exact distinct type

theorem distinct_of_foldl_insert {is : List Insertion} {s : RuleSet}
    (h : ∀ type, ((is.foldl Insertion.insert s).paradigm type).Distinct) (type : Id) :
    (s.paradigm type).Distinct := by
  induction is generalizing s type with
  | nil => exact h type
  | cons i rest ih => exact (distinct_insert_iff.mp (ih h)).1 type

/-- Items that are inserted one after the other, each if it fits, all fit when ids are distinct in
the end. -/
theorem foldlM_insert_eq_ok_iff {α ε : Type} {f : RuleSet → α → Except ε RuleSet}
    {item : α → Insertion} {fine : α → Prop} (step : ∀ {s s' : RuleSet} {x : α},
      f s x = .ok s' ↔ fine x ∧ ¬(item x).Clashes (s.paradigm (item x).type) ∧
      s' = (item x).insert s)
    {xs : List α} {s s' : RuleSet} (h : ∀ type, (s.paradigm type).Distinct) :
    xs.foldlM f s = .ok s' ↔
      (∀ x ∈ xs, fine x) ∧ (∀ type, (s'.paradigm type).Distinct) ∧
      s' = (xs.map item).foldl Insertion.insert s := by
  induction xs generalizing s with
  | nil =>
    rw [List.foldlM_nil, List.map_nil, List.foldl_nil]
    constructor
    · intro done
      obtain rfl := Except.ok.inj done
      exact ⟨nofun, h, rfl⟩
    · rintro ⟨-, -, rfl⟩
      rfl
  | cons x rest ih =>
    rw [List.foldlM_cons, bind_eq_ok_iff, List.forall_mem_cons, List.map_cons,
      List.foldl_cons]
    constructor
    · rintro ⟨next, first, others⟩
      obtain ⟨fine, fits, rfl⟩ := step.mp first
      obtain ⟨all, distinct, done⟩ := (ih (distinct_insert_iff.mpr ⟨h, fits⟩)).mp others
      exact ⟨⟨fine, all⟩, distinct, done⟩
    · rintro ⟨⟨fine, all⟩, distinct, rfl⟩
      have between := distinct_of_foldl_insert distinct
      exact ⟨(item x).insert s, step.mpr ⟨fine, (distinct_insert_iff.mp between).2, rfl⟩,
        (ih between).mpr ⟨all, distinct, rfl⟩⟩

end RuleSet

namespace Definition
open RuleSet

def DimensionEntry.insertion (e : DimensionEntry) : Insertion := .dimension e.type e.dimension

def ExtraEntry.insertion (e : ExtraEntry) : Insertion := .extra e.type e.form

/-- A paradigm gets what is declared for its own part of speech, entry by entry. -/
theorem paradigm_insert_entries {α : Type} (item : α → Insertion)
    (grown : Paradigm → List α → Paradigm) (none : ∀ p, grown p [] = p)
    (one : ∀ p e rest, grown ((item e).into p) rest = grown p (e :: rest)) (es : List α)
    (s : RuleSet) (type : Id) :
    ((es.map item).foldl Insertion.insert s).paradigm type =
      grown (s.paradigm type) (es.filter fun e => (item e).type == type) := by
  induction es generalizing s with
  | nil => exact (none _).symm
  | cons e rest ih =>
    rw [List.map_cons, List.foldl_cons, ih, Insertion.paradigm_insert, List.filter_cons]
    by_cases here : (item e).type = type
    · subst here
      rw [if_pos rfl, if_pos (beq_self_eq_true _), one]
    · rw [if_neg (Ne.symm here), if_neg (by simpa using here)]

theorem paradigm_insert_dimensions (es : List DimensionEntry) (s : RuleSet) (type : Id) :
    ((es.map DimensionEntry.insertion).foldl Insertion.insert s).paradigm type =
      { s.paradigm type with
        dimensions :=
          (s.paradigm type).dimensions ++ (es.filter (·.type == type)).map (·.dimension) } :=
  paradigm_insert_entries _ (fun p es =>
    { p with dimensions := p.dimensions ++ es.map (·.dimension) })
    (by simp) (by simp [DimensionEntry.insertion, Insertion.into]) es s type

theorem paradigm_insert_extras (es : List ExtraEntry) (s : RuleSet) (type : Id) :
    ((es.map ExtraEntry.insertion).foldl Insertion.insert s).paradigm type =
      { s.paradigm type with
        extras := (s.paradigm type).extras ++ (es.filter (·.type == type)).map (·.form) } :=
  paradigm_insert_entries _ (fun p es => { p with extras := p.extras ++ es.map (·.form) })
    (by simp) (by simp [ExtraEntry.insertion, Insertion.into]) es s type

/-- The rule set with paradigms only. -/
def ruleless (d : Definition) : RuleSet :=
  (d.extras.map ExtraEntry.insertion).foldl Insertion.insert
    ((d.dimensions.map DimensionEntry.insertion).foldl Insertion.insert RuleSet.empty)

theorem paradigm_ruleless (d : Definition) (type : Id) :
    d.ruleless.paradigm type = d.paradigm type := by
  rw [ruleless, paradigm_insert_extras, paradigm_insert_dimensions, paradigm_empty]
  simp [paradigm, Paradigm.empty]

theorem loadDimension_eq (l : Lexicon) (s : RuleSet) (e : DimensionEntry) :
    loadDimension l s e =
      requireType l (.dimension e.dimension.label) e.type >>= fun _ =>
        (e.insertion.offer s).mapError (.paradigm e.type) := by
  rw [loadDimension, Insertion.insertDimension_eq, Insertion.offer_eq]
  refine bind_congr fun _ => ?_
  simp only [DimensionEntry.insertion, Insertion.type]
  cases (Insertion.dimension e.type e.dimension).clash? (s.paradigm e.type) <;> rfl

theorem loadExtra_eq (l : Lexicon) (s : RuleSet) (e : ExtraEntry) :
    loadExtra l s e =
      requireType l (.extra e.form.label) e.type >>= fun _ =>
        (e.insertion.offer s).mapError (.paradigm e.type) := by
  rw [loadExtra, Insertion.insertExtra_eq, Insertion.offer_eq]
  rfl

theorem loadDimension_eq_ok_iff {l : Lexicon} {s s' : RuleSet} {e : DimensionEntry} :
    loadDimension l s e = .ok s' ↔ l.declaresPartOfSpeech e.type = true ∧
      ¬e.insertion.Clashes (s.paradigm e.insertion.type) ∧ s' = e.insertion.insert s := by
  rw [loadDimension_eq, bind_eq_ok_iff]
  simp only [requireType_eq_ok_iff, mapError_eq_ok_iff, Insertion.offer_eq_ok_iff, exists_const]

theorem loadExtra_eq_ok_iff {l : Lexicon} {s s' : RuleSet} {e : ExtraEntry} :
    loadExtra l s e = .ok s' ↔ l.declaresPartOfSpeech e.type = true ∧
      ¬e.insertion.Clashes (s.paradigm e.insertion.type) ∧ s' = e.insertion.insert s := by
  rw [loadExtra_eq, bind_eq_ok_iff]
  simp only [requireType_eq_ok_iff, mapError_eq_ok_iff, Insertion.offer_eq_ok_iff, exists_const]

/-! ### Rules -/

/-- What the rule of an entry says. -/
def RuleEntry.content (e : RuleEntry) : RuleContent :=
  (e.classes.foldl (fun content c => content.addCondition ⟨c.wordClass, c.value, c.negated⟩)
    ({ name := e.name, transforms := e.transforms.map (·.substitution) } : RuleContent)).setGate
    e.gate

/-- A rule whose combination can not be read adds nothing. -/
def RuleEntry.addTo (s : RuleSet) (e : RuleEntry) : RuleSet :=
  match Combination.parse e.combination with
  | .ok c => s.add e.type c e.content
  | .error _ => s

theorem RuleEntry.addTo_eq {e : RuleEntry} {c : Combination} (written : e.combination = c.text)
    (s : RuleSet) :
    RuleEntry.addTo s e = s.add e.type c e.content := by
  rw [addTo, Combination.parse_eq_ok_iff.mpr written]

/-- The rule set without hidden forms. -/
def ruleSet (d : Definition) : RuleSet := d.rules.foldl RuleEntry.addTo d.ruleless

theorem loadRule_eq_ok_iff {l : Lexicon} {s s' : RuleSet} {e : RuleEntry} :
    loadRule l s e = .ok s' ↔
      (l.declaresPartOfSpeech e.type = true ∧ (∃ c : Combination, e.combination = c.text) ∧
        ∀ c ∈ e.classes, l.declaresClassValue c.wordClass c.value = true) ∧
          s' = RuleEntry.addTo s e := by
  rw [loadRule, bind_eq_ok_iff]
  simp only [requireType_eq_ok_iff, exists_and_left, bind_eq_ok_iff, mapError_eq_ok_iff,
    Combination.parse_eq_ok_iff, forM_eq_ok_iff, requireClass_eq_ok_iff]
  constructor
  · rintro ⟨type, -, c, written, values, -, made⟩
    rw [RuleEntry.addTo_eq written]
    exact ⟨⟨type, ⟨c, written⟩, values⟩, (Except.ok.inj made).symm⟩
  · rintro ⟨⟨type, ⟨c, written⟩, values⟩, rfl⟩
    rw [RuleEntry.addTo_eq written]
    exact ⟨type, (), c, written, values, (), rfl⟩

/-- A rule set can be loaded exactly when the definition keeps to what concerns it. -/
theorem loadRules_eq_ok_iff {d : Definition} {l : Lexicon} {r : RuleSet × List Suppression.Rejected}
    (types : ∀ type, l.declaresPartOfSpeech type = true ↔ d.DeclaresType type)
    (values : ∀ c : ClassEntry, l.declaresClassValue c.wordClass c.value = true ↔
      d.DeclaresValue c) :
    d.loadRules l = .ok r ↔ d.InflectionalConsistency ∧
    r = d.ruleSet.loadSuppressed d.suppressed := by
  have bare : ∀ type, (RuleSet.empty.paradigm type).Distinct := fun type => by
    rw [paradigm_empty]
    exact Paradigm.distinct_empty
  have loadDimensions {s : RuleSet} : d.dimensions.foldlM (loadDimension l) RuleSet.empty = .ok s ↔
      _ :=
    foldlM_insert_eq_ok_iff (f := loadDimension l) loadDimension_eq_ok_iff bare
  have loadExtras {s s' : RuleSet} (h : ∀ type, (s.paradigm type).Distinct) :
      d.extras.foldlM (loadExtra l) s = .ok s' ↔ _ :=
    foldlM_insert_eq_ok_iff (f := loadExtra l) loadExtra_eq_ok_iff h
  have loadEach {s s' : RuleSet} : d.rules.foldlM (loadRule l) s = .ok s' ↔ _ :=
    foldlM_eq_ok_iff (P := fun _ => True) (f := loadRule l) (fun _ => loadRule_eq_ok_iff) id trivial
  simp only [types, values] at loadDimensions loadExtras loadEach
  simp only [loadRules, bind_eq_ok_iff]
  constructor
  · rintro ⟨dimensioned, first, paradigms, second, s, third, made⟩
    obtain ⟨dimensionTypes, distinct, rfl⟩ := loadDimensions.mp first
    obtain ⟨extraTypes, distinct', rfl⟩ := (loadExtras distinct).mp second
    obtain ⟨fine, rfl⟩ := loadEach.mp third
    refine ⟨⟨dimensionTypes, extraTypes, fun type => ?_, fun r mem => (fine r mem).1, fun r mem =>
      (fine r mem).2.1,
      fun r mem => (fine r mem).2.2⟩, (Except.ok.inj made).symm⟩
    rw [← paradigm_ruleless]
    exact distinct' type
  · rintro ⟨h, rfl⟩
    have distinct : ∀ type, (d.ruleless.paradigm type).Distinct := fun type => by
      rw [paradigm_ruleless]
      exact h.paradigms type
    have between := distinct_of_foldl_insert distinct
    exact ⟨_, loadDimensions.mpr ⟨h.dimensionTypes, between, rfl⟩, d.ruleless,
      (loadExtras between).mpr ⟨h.extraTypes, distinct, rfl⟩, d.ruleSet,
      loadEach.mpr ⟨fun r mem =>
        ⟨h.ruleTypes r mem, h.combinations r mem, h.ruleValues r mem⟩, rfl⟩, rfl⟩

/-! ### The rules of a form -/

def RuleEntry.isFor (type : Id) (c : Combination) (e : RuleEntry) : Bool :=
  e.type == type && e.combination == c.text

theorem rules_ruleless (d : Definition) : d.ruleless.rules = [] ∧ d.ruleless.lastRule = 0 :=
  let bare (s : RuleSet) : Prop := s.rules = [] ∧ s.lastRule = 0
  List.foldlRecOn (motive := bare) _ _ (List.foldlRecOn (motive := bare)
    _ _ ⟨rfl, rfl⟩ fun _ h _ _ => h)
    fun _ h _ _ => h

/-- Rules are numbered by their places, and a form gets its own. -/
theorem bucket_foldl_addTo {entries : List RuleEntry}
    (readable : ∀ e ∈ entries, ∃ c : Combination, e.combination = c.text) (s : RuleSet) (type : Id)
    (c : Combination) :
    ((entries.foldl RuleEntry.addTo s).bucket type c).map (fun r => (r.content, r.id)) =
      (s.bucket type c).map (fun r => (r.content, r.id)) ++
        ((entries.zipIdx s.nextRule).filter (·.1.isFor type c)).map fun (e, place) =>
          (e.content, place) := by
  induction entries generalizing s with
  | nil => simp
  | cons e rest ih =>
    obtain ⟨⟨d, written⟩, readable⟩ := List.forall_mem_cons.mp readable
    rw [List.foldl_cons, RuleEntry.addTo_eq written, ih readable, bucket_add, List.map_append,
      List.append_assoc, List.zipIdx_cons, List.filter_cons]
    congr 1
    have own : e.isFor type c = true ↔ type = e.type ∧ c = d := by
      rw [RuleEntry.isFor, written, Bool.and_eq_true, beq_iff_eq, beq_iff_eq]
      exact and_congr eq_comm ⟨fun same => (Combination.text_injective same).symm, fun same =>
        congrArg _ same.symm⟩
    by_cases here : type = e.type ∧ c = d
    · rw [if_pos here, if_pos (own.mpr here)]
      rfl
    · rw [if_neg here, if_neg (mt own.mp here)]
      rfl

/-- The rules of a form come in the order of the definition. -/
theorem bucket_ruleSet {d : Definition}
    (readable : ∀ e ∈ d.rules, ∃ c : Combination, e.combination = c.text) (type : Id)
    (c : Combination) :
    (d.ruleSet.bucket type c).map (fun r => (r.content, r.id)) =
      ((d.rules.zipIdx 1).filter (·.1.isFor type c)).map fun (e, place) => (e.content, place) := by
  obtain ⟨rules, last⟩ := d.rules_ruleless
  have bare : d.ruleless.bucket type c = [] := by simp [bucket, rulesOf, rules]
  rw [ruleSet, bucket_foldl_addTo readable, bare, nextRule, last]
  rfl

theorem wellKept_ruleSet {d : Definition}
    (readable : ∀ e ∈ d.rules, ∃ c : Combination, e.combination = c.text) :
    WellKept d.ruleSet := by
  obtain ⟨rules, last⟩ := d.rules_ruleless
  refine List.foldlRecOn d.rules _ (wellKept_empty.of_rules rules last) fun s kept e mem => ?_
  obtain ⟨c, written⟩ := readable e mem
  rw [RuleEntry.addTo_eq written]
  exact kept.add ..

theorem paradigm_ruleSet (d : Definition) (type : Id) :
    d.ruleSet.paradigm type = d.paradigm type := by
  rw [← paradigm_ruleless]
  refine List.foldlRecOn (motive := fun s : RuleSet => s.paradigm type = d.ruleless.paradigm type)
    d.rules _ rfl
    fun s same e _ => ?_
  rw [RuleEntry.addTo]
  split
  · exact same
  · exact same

/-- Every rule stems from an entry. -/
theorem content_of_mem_rules {d : Definition}
    (readable : ∀ e ∈ d.rules, ∃ c : Combination, e.combination = c.text) {r : Rule}
    (mem : r ∈ d.ruleSet.rules) : ∃ e ∈ d.rules, e.content = r.content := by
  have listed : r ∈ d.ruleSet.bucket r.type r.combination := by simp [bucket, rulesOf, mem]
  have told := List.mem_map_of_mem (f := fun r : Rule => (r.content, r.id)) listed
  rw [bucket_ruleSet readable, List.mem_map] at told
  obtain ⟨⟨e, place⟩, placed, same⟩ := told
  exact ⟨e, List.fst_mem_of_mem_zipIdx (List.mem_of_mem_filter placed), congrArg Prod.fst same⟩

/-- A condition of a rule stems from a class entry. -/
theorem RuleEntry.of_mem_conditions {e : RuleEntry} {condition : ClassCondition}
    (mem : condition ∈ e.content.conditions) :
    ∃ c ∈ e.classes, condition = ⟨c.wordClass, c.value, c.negated⟩ := by
  revert condition
  refine List.foldlRecOn (motive := fun content : RuleContent => ∀ {condition : ClassCondition},
    condition ∈ content.conditions → ∃ c ∈ e.classes, condition = ⟨c.wordClass, c.value, c.negated⟩)
    e.classes _ (fun listed =>
      absurd listed List.not_mem_nil) fun content all c mem condition listed => ?_
  rcases List.mem_append.mp listed with earlier | new
  · exact all (List.mem_of_mem_filter earlier)
  · exact ⟨c, mem, List.mem_singleton.mp new⟩

end Definition

end Conlang
