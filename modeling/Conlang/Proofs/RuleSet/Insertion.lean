import Conlang.Proofs.RuleSet.Refusal

/-! Dimensions and extra forms that bring their ids.

An `Insertion` puts an item at the end of a paradigm, unless one of its ids is taken. `attempt`
makes it in place: the part of speech is given a paradigm first, in case it has none, and only then
is it asked whether the item fits. So a refusal does not always undo what was done. It leaves no
trace exactly where the part of speech has a paradigm already, which an extra form can not be
refused without (`insertion_traceless_iff`). -/
namespace Conlang

theorem Dimension.repeated?_eq_none_iff {seen ids : List Id} :
    repeatedValue?.repeated? seen ids = none ↔ ids.Nodup ∧ ∀ id ∈ ids, id ∉ seen := by
  refine ⟨nodup_of_repeated?, ?_⟩
  induction ids generalizing seen with
  | nil => exact fun _ => rfl
  | cons id rest ih =>
    rintro ⟨distinct, unseen⟩
    obtain ⟨fresh, distinct⟩ := List.nodup_cons.mp distinct
    rw [repeatedValue?.repeated?, if_neg (by simpa using unseen id List.mem_cons_self)]
    refine ih ⟨distinct, fun other mem => ?_⟩
    rw [List.mem_cons, not_or]
    exact ⟨fun same => fresh (same ▸ mem), unseen other (List.mem_cons_of_mem _ mem)⟩

theorem Dimension.repeatedValue?_eq_none_iff {d : Dimension} :
    d.repeatedValue? = none ↔ (d.values.map (·.id)).Nodup := by
  rw [repeatedValue?, repeated?_eq_none_iff]
  simp

namespace RuleSet

/-! ### What is inserted -/

inductive Insertion where
  | dimension (type : Id) (d : Dimension)
  | extra (type : Id) (e : ExtraForm)

namespace Insertion

def operation : Insertion → Operation
  | dimension type d => .insertDimension type d
  | extra type e => .insertExtra type e

def type : Insertion → Id
  | dimension type _ | extra type _ => type

/-- The id of the item. -/
def item : Insertion → Id
  | dimension _ d => d.id
  | extra _ e => e.id

/-- The paradigm with the item behind the others of its kind. -/
def into (p : Paradigm) : Insertion → Paradigm
  | dimension _ d => { p with dimensions := p.dimensions ++ [d] }
  | extra _ e => { p with extras := p.extras ++ [e] }

/-- A dimension that declares a value id twice. -/
def RepeatsValue : Insertion → Prop
  | dimension _ d => ¬(d.values.map (·.id)).Nodup
  | extra .. => False

/-- The item does not fit into a paradigm. -/
def Clashes (i : Insertion) (p : Paradigm) : Prop := i.item ∈ p.ids ∨ i.RepeatsValue

/-- The id that keeps the item out of a paradigm. -/
def clash? (p : Paradigm) : Insertion → Option Id
  | dimension _ d => takenBy? p d
  | extra _ e => if p.ids.contains e.id then some e.id else none

def check (i : Insertion) (p : Paradigm) : Except Fault Unit :=
  match i.clash? p with
  | some id => .error (.repeatedId id)
  | none => .ok ()

/-- The rule set with the item in its paradigm. -/
def insert (s : RuleSet) (i : Insertion) : RuleSet :=
  { s with
    paradigms := s.paradigms.insert i.type (i.into (s.paradigm i.type))
    lastItem := max s.lastItem i.item }

open InPlace in
/-- Makes an insertion in place. -/
def attempt (i : Insertion) : InPlace Answer := do
  modify fun s => s.setParadigm i.type (s.paradigm i.type)
  find fun s => i.check (s.paradigm i.type)
  modify fun s => { s with lastItem := max s.lastItem i.item }
  modify fun s => s.setParadigm i.type (i.into (s.paradigm i.type))
  pure .done

/-! ### Clashes -/

theorem clash?_eq_none_iff {i : Insertion} {p : Paradigm} : i.clash? p = none ↔ ¬i.Clashes p := by
  rw [Clashes, not_or]
  cases i with
  | dimension type d =>
    rw [clash?, takenBy?, item, RepeatsValue, not_not, ← Dimension.repeatedValue?_eq_none_iff]
    by_cases taken : d.id ∈ p.ids <;> simp [taken]
  | extra type e => simp [clash?, item, RepeatsValue]

theorem ids_into_perm (i : Insertion) (p : Paradigm) : (i.into p).ids.Perm (i.item :: p.ids) := by
  cases i with
  | dimension type d =>
    show (List.map _ (p.dimensions ++ [d]) ++ _).Perm _
    rw [List.map_append, List.append_assoc]
    exact List.perm_middle
  | extra type e =>
    show (_ ++ List.map _ (p.extras ++ [e])).Perm _
    rw [List.map_append, ← List.append_assoc]
    exact List.perm_append_singleton _ _

/-- An item fits exactly where ids stay distinct. -/
theorem distinct_into_iff {i : Insertion} {p : Paradigm} :
    (i.into p).Distinct ↔ p.Distinct ∧ ¬i.Clashes p := by
  have items : (i.into p).ids.Nodup ↔ i.item ∉ p.ids ∧ p.ids.Nodup :=
    (i.ids_into_perm p).nodup_iff.trans List.nodup_cons
  rw [Clashes, not_or]
  constructor
  · rintro ⟨all, values⟩
    obtain ⟨fresh, distinct⟩ := items.mp all
    cases i with
    | dimension type d =>
      refine ⟨⟨distinct, fun d' mem => values d' (List.mem_append_left _ mem)⟩, fresh,
        not_not.mpr ?_⟩
      exact values d (List.mem_append_right _ (List.mem_singleton_self d))
    | extra type e => exact ⟨⟨distinct, values⟩, fresh, id⟩
  · rintro ⟨⟨distinct, values⟩, fresh, single⟩
    refine ⟨items.mpr ⟨fresh, distinct⟩, ?_⟩
    cases i with
    | dimension type d =>
      intro d' mem
      rcases List.mem_append.mp mem with mem | mem
      · exact values d' mem
      · exact List.mem_singleton.mp mem ▸ not_not.mp single
    | extra type e => exact values

end Insertion

/-! ### In place -/

section
variable {s : RuleSet} {type : Id}

/-- The paradigm that a part of speech is given if it has none. -/
theorem paradigm_setParadigm (s : RuleSet) (type : Id) (p : Paradigm) :
    (s.setParadigm type p).paradigm type = p := by
  rw [paradigm, paradigm?_insert (p := p) rfl, if_pos rfl]
  rfl

theorem setParadigm_setParadigm (s : RuleSet) (type : Id) (p q : Paradigm) :
    (s.setParadigm type p).setParadigm type q = s.setParadigm type q := by
  have same : (s.paradigms.insert type p).insert type q = s.paradigms.insert type q :=
    Std.ExtTreeMap.ext_getElem? fun t => by
      simp only [Std.ExtTreeMap.getElem?_insert]
      split <;> rfl
  simp only [setParadigm, same]

/-- To give a part of speech the paradigm that it has changes nothing, unless it has none. -/
theorem setParadigm_paradigm_eq_self_iff :
    s.setParadigm type (s.paradigm type) = s ↔ s.paradigm? type ≠ none := by
  constructor
  · intro same missing
    have made : (s.setParadigm type (s.paradigm type)).paradigm? type = some (s.paradigm type) := by
      rw [paradigm?_insert rfl, if_pos rfl]
    rw [same, missing] at made
    cases made
  · intro known
    obtain ⟨p, known⟩ := Option.ne_none_iff_exists'.mp known
    rw [paradigm_eq known]
    exact setParadigm_self known

end

theorem Insertion.paradigm_insert (s : RuleSet) (i : Insertion) (type : Id) :
    (i.insert s).paradigm type = if type = i.type then i.into (s.paradigm type)
      else s.paradigm type := by
  rw [paradigm, paradigm?_insert (s := s) rfl]
  split
  · next here => rw [here]; rfl
  · rfl

/-- What an attempt in place leaves is what the operation leaves, and what it comes to is the
answer. -/
def Operation.ComesTo (E : Pattern.Engine) (s : RuleSet) (op : Operation)
    (attempted : Except Fault Answer × RuleSet) :
    Prop :=
  s.perform E op = attempted.2 ∧
    s.answer E op = match attempted.1 with
      | .ok a => a
      | .error fault => .refused fault

namespace Insertion
open InPlace

variable {s : RuleSet} {i : Insertion}

theorem on_attempt (s : RuleSet) (i : Insertion) :
    i.attempt.on s = match i.clash? (s.paradigm i.type) with
      | some id => (.error (.repeatedId id), s.setParadigm i.type (s.paradigm i.type))
      | none => (.ok .done, i.insert s) := by
  rw [attempt, on_modify_bind, on_find_bind, paradigm_setParadigm, check]
  cases i.clash? (s.paradigm i.type) with
  | some id => rfl
  | none =>
    dsimp only
    rw [on_modify_bind, on_modify_bind]
    show (Except.ok Answer.done, setParadigm { s.setParadigm i.type (s.paradigm i.type) with
      lastItem :=
        max s.lastItem i.item } i.type
        (i.into ((s.setParadigm i.type (s.paradigm i.type)).paradigm i.type))) = _
    rw [paradigm_setParadigm]
    have twice := congrArg RuleSet.paradigms
      (setParadigm_setParadigm s i.type (s.paradigm i.type) (i.into (s.paradigm i.type)))
    simp only [setParadigm] at twice ⊢
    rw [twice]
    rfl

theorem insertDimension_eq (s : RuleSet) (type : Id) (d : Dimension) :
    s.insertDimension type d = match (dimension type d).clash? (s.paradigm type) with
      | some id => (.error (.repeatedId id), s.setParadigm type (s.paradigm type))
      | none => (.ok (), (dimension type d).insert s) := by
  rw [insertDimension, clash?]
  cases takenBy? (s.paradigm type) d <;> rfl

theorem insertExtra_eq (s : RuleSet) (type : Id) (e : ExtraForm) :
    s.insertExtra type e = match (extra type e).clash? (s.paradigm type) with
      | some id => .error (.repeatedId id)
      | none => .ok ((extra type e).insert s) := by
  rw [insertExtra, clash?]
  by_cases taken : (s.paradigm type).ids.contains e.id = true
  · simp only [if_pos taken]
  · simp only [if_neg taken]
    rfl

/-- An attempt comes to what the operation comes to, in which no rule set is touched before the
check. -/
theorem comesTo_attempt (E : Pattern.Engine) (s : RuleSet) (i : Insertion) :
    i.operation.ComesTo E s (i.attempt.on s) := by
  rw [on_attempt]
  cases i with
  | dimension type d =>
    simp only [Operation.ComesTo, operation, perform, answer, insertDimension_eq, Insertion.type]
    cases (dimension type d).clash? (s.paradigm type) <;> exact ⟨rfl, rfl⟩
  | extra type e =>
    simp only [Operation.ComesTo, operation, perform, answer, insertExtra_eq, Insertion.type]
    cases clash : (extra type e).clash? (s.paradigm type) with
    | none => exact ⟨rfl, rfl⟩
    | some id =>
      -- Only where there is a paradigm can an item be in it, and that paradigm was written back as
      -- it was.
      have known : s.paradigm? type ≠ none := by
        intro missing
        rw [paradigm, missing] at clash
        cases clash
      exact ⟨(setParadigm_paradigm_eq_self_iff.mpr known).symm, rfl⟩

end Insertion

/-! ### Traces -/

/-- **A refused insertion leaves no trace exactly where the part of speech has a paradigm.** Where
it has none, an item can be refused only for the values that it brings, and an empty paradigm stays
behind. An item that is taken stands behind the others of its kind. -/
theorem insertion_traceless_iff (E : Pattern.Engine) (s : RuleSet) (i : Insertion) :
    let (result, s') := i.attempt.on s
    i.operation.ComesTo E s (result, s') ∧
      ((∃ fault, result = .error fault) ↔ i.Clashes (s.paradigm i.type)) ∧
      (∀ fault, result = .error fault →
        (∃ id, fault = .repeatedId id) ∧ (s' = s ↔ s.paradigm? i.type ≠ none) ∧
          (s.paradigm? i.type = none → i.RepeatsValue ∧ s' = s.setParadigm i.type .empty)) ∧
      ∀ a, result = .ok a → a = .done ∧ s' = i.insert s := by
  have comes := i.comesTo_attempt E s
  rw [i.on_attempt s] at comes ⊢
  cases clash : i.clash? (s.paradigm i.type) with
  | none =>
    rw [clash] at comes
    refine ⟨comes, ⟨nofun, fun clashes => absurd clashes (Insertion.clash?_eq_none_iff.mp clash)⟩,
      nofun, ?_⟩
    rintro _ ⟨⟩
    exact ⟨rfl, rfl⟩
  | some id =>
    rw [clash] at comes
    have clashes : i.Clashes (s.paradigm i.type) := by
      by_contra fits
      rw [Insertion.clash?_eq_none_iff.mpr fits] at clash
      cases clash
    refine ⟨comes, ⟨fun _ => clashes, fun _ => ⟨_, rfl⟩⟩, ?_, nofun⟩
    rintro _ ⟨⟩
    refine ⟨⟨id, rfl⟩, setParadigm_paradigm_eq_self_iff, fun missing => ?_⟩
    have bare : s.paradigm i.type = .empty := by rw [paradigm, missing]; rfl
    rw [bare] at clashes ⊢
    exact ⟨clashes.resolve_left (by simp [Paradigm.ids, Paradigm.empty]), rfl⟩

/-- Where "number" is a dimension, an extra form with its id is refused and nothing has changed. -/
theorem insertion_traceless_iff_number :
    let E := Pattern.Engine.standard ⟨1000000, 10485760⟩
    let s := empty.run E [.insertDimension 1 ⟨1, "number", [⟨1, "singular"⟩]⟩]
    let (result, s') := (Insertion.extra 1 ⟨1, "vocative"⟩).attempt.on s
    result = .error (.repeatedId 1) ∧ s' = s := by
  intro E s
  have known : s.paradigm? 1 ≠ none := by
    rw [paradigm?_insert (s := empty) (p := ⟨[⟨1, "number", [⟨1, "singular"⟩]⟩], []⟩) rfl,
      if_pos rfl]
    simp
  have refused : ((Insertion.extra 1 ⟨1, "vocative"⟩).attempt.on s).1 = .error (.repeatedId 1) := by
    decide +kernel
  exact ⟨refused,
    ((insertion_traceless_iff E s (.extra 1 ⟨1, "vocative"⟩)).2.2.1 _ refused).2.1.mpr known⟩

/-- A dimension that declares a value twice is refused, and yet the part of speech has a paradigm
afterwards. -/
theorem refused_dimension_leaves_paradigm :
    let (result, s') := empty.insertDimension 1 ⟨1, "number", [⟨1, "singular"⟩, ⟨1, "plural"⟩]⟩
    result = .error (.repeatedId 1) ∧ empty.paradigm? 1 = none ∧ s'.paradigm? 1 = some .empty ∧
      s' ≠ empty := by
  have left : (empty.setParadigm 1 .empty).paradigm? 1 = some .empty := by
    rw [paradigm?_insert rfl, if_pos rfl]
  refine ⟨rfl, rfl, left, fun same => ?_⟩
  have gone := congrArg (·.paradigm? 1) same
  exact absurd (left.symm.trans gone) (by simp [empty, paradigm?])

end RuleSet

end Conlang
