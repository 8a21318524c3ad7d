import Mathlib.Data.List.Induction
import Conlang.Proofs.RuleSet.Insertion

/-! Dimensions and extra forms in the course of a history.

An item comes into a paradigm with the id that it brings (`Insertion`) or with one that is chosen
for it (`Allocation`), and an operation does nothing else to the ids of items, except that it takes
some away (`perform_brings`). So the counter stays at the highest id that any part of speech ever
had (`issued_run`), and the chosen id is a new one (`run_issues_fresh`). -/
namespace Conlang

/-! ### The highest id -/

/-- The id that has none behind it. -/
def lastId : Id := 4294967295

theorem le_lastId (id : Id) : id ≤ lastId := by
  rw [UInt32.le_iff_toNat_le]
  have small := id.toNat_lt
  show id.toNat ≤ 4294967295
  omega

theorem nextId?_eq_none_iff {id : Id} : nextId? id = none ↔ id = lastId := by
  have size : UInt32.size = 4294967296 := rfl
  rw [nextId?, ite_eq_right_iff, ← UInt32.toNat_inj]
  show (id.toNat + 1 < UInt32.size → some (id + 1) = none) ↔ id.toNat = 4294967295
  have small := id.toNat_lt
  constructor
  · intro full
    by_contra other
    cases full (by omega)
  · intro last fits
    omega

theorem highest_le_iff {ids : List Id} {bound : Id} :
    highest ids ≤ bound ↔ ∀ id ∈ ids, id ≤ bound := by
  rw [highest, foldl_max_le_iff]
  exact and_iff_right (UInt32.le_iff_toNat_le.mpr (Nat.zero_le _))

theorem max_eq_or (a b : Id) : max a b = a ∨ max a b = b := by
  show (if a ≤ b then b else a) = a ∨ (if a ≤ b then b else a) = b
  split
  · exact .inr rfl
  · exact .inl rfl

theorem le_max (a b : Id) : a ≤ max a b ∧ b ≤ max a b := by
  simp only [UInt32.le_iff_toNat_le, toNat_max]
  omega

theorem foldl_max_mem (ids : List Id) (start : Id) :
    ids.foldl max start = start ∨ ids.foldl max start ∈ ids := by
  induction ids generalizing start with
  | nil => exact .inl rfl
  | cons id rest ih =>
    rw [List.foldl_cons, List.mem_cons]
    rcases ih (max start id) with same | mem
    · rw [same]
      exact (max_eq_or start id).imp_right .inl
    · exact .inr (.inr mem)

theorem highest_eq_lastId_iff {ids : List Id} : highest ids = lastId ↔ lastId ∈ ids := by
  constructor
  · intro full
    rcases foldl_max_mem ids 0 with zero | mem
    · exact absurd (zero.symm.trans full) (by decide)
    · exact full ▸ mem
  · exact fun mem => UInt32.le_antisymm (le_lastId _) (le_highest mem)

/-- A dimension has no room for another value exactly when one has the last id. -/
theorem Dimension.nextValue?_eq_none_iff {d : Dimension} :
    d.nextValue? = none ↔ lastId ∈ d.values.map (·.id) := by
  rw [nextValue?, nextId?_eq_none_iff, highest_eq_lastId_iff]

namespace RuleSet
open Std

variable (E : Pattern.Engine)

/-! ### Items with a chosen id -/

inductive Allocation where
  | dimension (type : Id) (label : String)
  | extra (type : Id) (label : String)

namespace Allocation
open InPlace

def operation : Allocation → Operation
  | dimension type label => .addDimension type label
  | extra type label => .addExtra type label

/-- The item with the id that was chosen for it. A new dimension has no values. -/
def bringing (id : Id) : Allocation → Insertion
  | dimension type label => .dimension type { id, label }
  | extra type label => .extra type { id, label }

/-- Makes an allocation in place. -/
def attempt (a : Allocation) : InPlace Answer := do
  let id ← find fun s => s.nextItem?.elim (.error .noIdLeft) .ok
  modify fun s => { s with lastItem := id }
  modify fun s =>
    s.setParadigm (a.bringing id).type ((a.bringing id).into (s.paradigm (a.bringing id).type))
  pure (.declared id)

theorem item_bringing (a : Allocation) (id : Id) : (a.bringing id).item = id := by cases a <;> rfl

end Allocation

/-- The chosen id is behind the counter. -/
theorem lt_nextItem? {s : RuleSet} {id : Id} (next : s.nextItem? = some id) : s.lastItem < id := by
  have above := lt_of_nextId? next
  rw [UInt32.lt_iff_toNat_lt] at above ⊢
  rw [toNat_max] at above
  omega

theorem max_nextItem? {s : RuleSet} {id : Id} (next : s.nextItem? = some id) :
    max s.lastItem id = id := by
  have above := UInt32.lt_iff_toNat_lt.mp (lt_nextItem? next)
  rw [← UInt32.toNat_inj, toNat_max]
  omega

/-- An item with a chosen id is inserted with that id. -/
theorem Allocation.on_attempt (s : RuleSet) (a : Allocation) :
    a.attempt.on s = match s.nextItem? with
      | none => (.error .noIdLeft, s)
      | some id => (.ok (.declared id), (a.bringing id).insert s) := by
  rw [attempt, InPlace.on_find_bind]
  cases next : s.nextItem? with
  | none => rfl
  | some id =>
    dsimp only
    rw [Insertion.insert, item_bringing, max_nextItem? next]
    rfl

/-- An attempt comes to what the operation comes to, in which no rule set is touched before the id
is chosen. -/
theorem Allocation.comesTo_attempt (s : RuleSet) (a : Allocation) :
    a.operation.ComesTo E s (a.attempt.on s) := by
  have made := a.on_attempt s
  cases next : s.nextItem? with
  | none =>
    rw [next] at made
    rw [made]
    cases a <;> simp only [operation, Operation.ComesTo, perform, answer, addDimension, addExtra,
      addItem, next] <;>
      exact ⟨rfl, rfl⟩
  | some id =>
    rw [next] at made
    rw [made]
    cases a <;> simp only [operation, Operation.ComesTo, perform, answer, addDimension, addExtra,
      addItem, next, bringing, Insertion.insert, Insertion.item, max_nextItem? next] <;>
      exact ⟨rfl, rfl⟩

theorem Edit.comesTo_attempt (s : RuleSet) (edit : Edit) :
    edit.operation.ComesTo E s (edit.attempt.on s) := by
  rw [Operation.ComesTo, edit.perform_eq, edit.answer_eq]
  have outcome := edit.outcome s
  generalize edit.attempt.on s = attempted at outcome
  generalize edit.change s = change at outcome
  cases outcome with
  | refused | overflowing | made => exact ⟨rfl, rfl⟩

/-! ### One operation -/

section
variable {s s' : RuleSet} {type : Id}

/-- What an operation does to the ids of items. -/
inductive Brings (s : RuleSet) : RuleSet → Prop
  | item (i : Insertion) : Brings s (i.insert s)
  | nothing {s' : RuleSet} (last : s'.lastItem = s.lastItem)
      (fewer : ∀ type, (s'.paradigm type).ids ⊆ (s.paradigm type).ids) : Brings s s'

namespace Brings

theorem refl (s : RuleSet) : Brings s s := .nothing rfl fun _ => List.Subset.refl _

theorem of_same (same : SameItems s s') : Brings s s' := by
  refine .nothing same.lastItem fun type => ?_
  rw [paradigm, paradigm?, same.paradigms]
  exact List.Subset.refl _

theorem of_insert {p : Paradigm} (last : s'.lastItem = s.lastItem)
    (paradigms : s'.paradigms = s.paradigms.insert type p) (fewer : p.ids ⊆ (s.paradigm type).ids) :
    Brings s s' := by
  refine .nothing last fun t => ?_
  rw [paradigm.eq_1 s' t, paradigm?_insert paradigms]
  split
  · next same =>
    subst same
    exact fewer
  · exact List.Subset.refl _

theorem of_findDimension {β : Type} {dimension : Id}
    {f : Paradigm × Nat × Dimension → Except Fault (β × RuleSet)}
    (change : ∀ p slot d, s.paradigm? type = some p → p.dimensions[slot]? = some d →
      Brings s (s.after (f (p, slot, d)))) :
    Brings s (s.after (s.findDimension type dimension >>= f)) :=
  after_findDimension (P := Brings s) (.refl s) change

end Brings

theorem Insertion.brings (s : RuleSet) (i : Insertion) : Brings s (s.perform E i.operation) := by
  rw [(i.comesTo_attempt E s).1, on_attempt]
  cases i.clash? (s.paradigm i.type) with
  | none => exact .item i
  | some id => exact .of_insert rfl rfl (List.Subset.refl _)

theorem Allocation.brings (s : RuleSet) (a : Allocation) : Brings s (s.perform E a.operation) := by
  rw [(a.comesTo_attempt E s).1, on_attempt]
  cases s.nextItem? with
  | none => exact .refl s
  | some id => exact .item _

/-- New values for a dimension leave the ids of items as they are. -/
theorem Brings.of_revalue {p : Paradigm} {slot : Nat} {d : Dimension} {values : List DimensionValue}
    (last : s'.lastItem = s.lastItem) (known : s.paradigm? type = some p)
    (here : p.dimensions[slot]? = some d) (paradigms : s'.paradigms =
      s.paradigms.insert type { p with dimensions := p.dimensions.set slot { d with values } }) :
      Brings s s' := by
  refine .of_insert last paradigms ?_
  rw [paradigm_eq known, Paradigm.ids, Paradigm.map_id_set here]
  exact List.Subset.refl _

end

/-- An operation inserts an item, or it brings no id in and leaves the counter alone. -/
theorem perform_brings (s : RuleSet) (op : Operation) : Brings s (s.perform E op) := by
  by_cases items : op.OnItems
  swap
  · exact .of_same (sameItems_perform E s items)
  cases op with
  | addDimension type label => exact Allocation.brings E s (.dimension type label)
  | addExtra type label => exact Allocation.brings E s (.extra type label)
  | insertDimension type d => exact Insertion.brings E s (.dimension type d)
  | insertExtra type e => exact Insertion.brings E s (.extra type e)
  | addValue type dimension label =>
    refine .of_findDimension fun p slot d known here => ?_
    dsimp only
    split
    · exact .refl s
    · exact .of_revalue rfl known here rfl
  | deleteDimension type dimension =>
    refine .of_findDimension fun p slot d known _ => ?_
    refine .of_insert (SameItems.dropForms _ _ _).lastItem (paradigms_dropForms _ _ _) ?_
    rw [paradigm_eq known]
    exact (((List.eraseIdx_sublist ..).map Dimension.id).append (.refl _)).subset
  | deleteValue type dimension value =>
    refine .of_findDimension fun p slot d known here => ?_
    dsimp only
    split
    · exact .refl s
    · exact .of_revalue (SameItems.dropForms _ _ _).lastItem known here (paradigms_dropForms _ _ _)
  | deleteExtra type form =>
    rw [perform, deleteExtra]
    split
    · exact .refl s
    · next p known =>
      split
      · exact .refl s
      · show Brings s (dropForms _ type (· == .ofForm form)).2
        refine .of_insert (SameItems.dropForms _ _ _).lastItem (paradigms_dropForms _ _ _) ?_
        rw [paradigm_eq known]
        exact ((List.Sublist.refl _).append ((List.filter_sublist ..).map ExtraForm.id)).subset
  | clearType type =>
    refine .nothing rfl fun t => ?_
    have gone : (s.clearType type).2.paradigm? t = if t = type then none else s.paradigm? t :=
      paradigm?_erase rfl t
    rw [perform, paradigm.eq_1 (s.clearType type).2, gone]
    split
    · exact List.nil_subset _
    · exact List.Subset.refl _
  | _ => exact items.elim

/-! ### A history -/

theorem Insertion.mem_ids_into {i : Insertion} {p : Paradigm} {id : Id} :
    id ∈ (i.into p).ids ↔ id ∈ p.ids ∨ id = i.item := by
  rw [(i.ids_into_perm p).mem_iff, List.mem_cons, or_comm]

/-- The items of some part of speech after an insertion. -/
theorem Insertion.mem_ids_insert {s : RuleSet} {i : Insertion} {id : Id} :
    (∃ type, id ∈ ((i.insert s).paradigm type).ids) ↔ (∃ type, id ∈ (s.paradigm type).ids) ∨
    id = i.item := by
  simp only [paradigm_insert]
  constructor
  · rintro ⟨type, there⟩
    split at there
    · exact (mem_ids_into.mp there).imp_left fun there => ⟨type, there⟩
    · exact .inl ⟨type, there⟩
  · rintro (⟨type, there⟩ | rfl)
    · refine ⟨type, ?_⟩
      split
      · exact mem_ids_into.mpr (.inl there)
      · exact there
    · exact ⟨i.type, by rw [if_pos rfl]; exact mem_ids_into.mpr (.inr rfl)⟩

/-- Some part of speech has or had an item with this id in the course of the operations. -/
def EverHad (ops : List Operation) (id : Id) : Prop :=
  ∃ earlier, earlier <+: ops ∧ ∃ type, id ∈ ((empty.run E earlier).paradigm type).ids

/-- The counter stands at the highest id that an item ever had. -/
structure Issued (ops : List Operation) (last : Id) : Prop where
  behind : ∀ id, EverHad E ops id → id ≤ last
  had : last = 0 ∨ EverHad E ops last

variable {E}

theorem everHad_append_iff {ops : List Operation} {op : Operation} {id : Id} :
    EverHad E (ops ++ [op]) id ↔
      EverHad E ops id ∨ ∃ type, id ∈ (((empty.run E ops).perform E op).paradigm type).ids := by
  have last : empty.run E (ops ++ [op]) = (empty.run E ops).perform E op := run_append ..
  simp only [EverHad, List.prefix_concat_iff, or_and_right, exists_or, exists_eq_left, last]
  exact or_comm

theorem everHad_of_mem {ops : List Operation} {type id : Id}
    (there : id ∈ ((empty.run E ops).paradigm type).ids) : EverHad E ops id :=
      ⟨ops, List.prefix_rfl, type, there⟩

variable (E)

theorem issued_run (ops : List Operation) : Issued E ops (empty.run E ops).lastItem := by
  induction ops using List.reverseRecOn with
  | nil =>
    refine ⟨?_, .inl rfl⟩
    rintro id ⟨earlier, isPrefix, type, there⟩
    rw [List.prefix_nil.mp isPrefix] at there
    rw [run, paradigm_empty] at there
    cases there
  | append_singleton ops op ih =>
    have last : empty.run E (ops ++ [op]) = (empty.run E ops).perform E op := run_append ..
    have steps (id : Id) : EverHad E (ops ++ [op]) id ↔
        EverHad E ops id ∨ ∃ type, id ∈ (((empty.run E ops).perform E op).paradigm type).ids :=
          everHad_append_iff
    rw [last]
    have brings := perform_brings E (empty.run E ops) op
    generalize (empty.run E ops).perform E op = s' at brings steps
    cases brings with
    | nothing same fewer =>
      have older : ∀ id, EverHad E (ops ++ [op]) id ↔ EverHad E ops id := fun id =>
        (steps id).trans (or_iff_left_of_imp fun ⟨type, there⟩ => everHad_of_mem (fewer type there))
      rw [same]
      exact ⟨fun id had => ih.behind id ((older id).mp had), ih.had.imp_right (older _).mpr⟩
    | item i =>
      have older : ∀ id, EverHad E (ops ++ [op]) id ↔ EverHad E ops id ∨ id = i.item := fun id => by
        rw [steps, Insertion.mem_ids_insert, ← or_assoc, or_iff_left_of_imp (b := ∃ type, _)]
        exact fun ⟨type, there⟩ => everHad_of_mem there
      refine ⟨fun id had => ?_, ?_⟩
      · show id ≤ max (empty.run E ops).lastItem i.item
        rcases (older id).mp had with had | rfl
        · exact UInt32.le_trans (ih.behind id had) (le_max _ _).1
        · exact (le_max _ _).2
      · show max (empty.run E ops).lastItem i.item = 0 ∨
          EverHad E _ (max (empty.run E ops).lastItem i.item)
        rcases max_eq_or (empty.run E ops).lastItem i.item with same | same
        · rw [same]
          exact ih.had.imp_right fun had => (older _).mpr (.inl had)
        · rw [same]
          exact .inr ((older _).mpr (.inr rfl))

/-! ### Fresh ids -/

variable {E}

theorem Issued.highest_le {ops : List Operation} {type : Id} {p : Paradigm}
    (issued : Issued E ops (empty.run E ops).lastItem)
    (known : (empty.run E ops).paradigm? type = some p) :
    highest p.ids ≤ (empty.run E ops).lastItem := by
  rw [highest_le_iff, ← paradigm_eq known]
  exact fun id there => issued.behind id (everHad_of_mem there)

variable (E)

/-- The next id is the one behind the counter: no paradigm has a higher one. -/
theorem nextItem?_run (ops : List Operation) :
    (empty.run E ops).nextItem? = nextId? (empty.run E ops).lastItem := by
  have issued := issued_run E ops
  have within : highest ((empty.run E ops).paradigms.toList.map fun entry => highest entry.2.ids) ≤
      (empty.run E ops).lastItem := by
    rw [highest_le_iff]
    intro top mem
    obtain ⟨⟨type, p⟩, listed, rfl⟩ := List.mem_map.mp mem
    exact issued.highest_le (ExtTreeMap.mem_toList_iff_getElem?_eq_some.mp listed)
  rw [nextItem?]
  congr 1
  rw [UInt32.le_iff_toNat_le] at within
  rw [← UInt32.toNat_inj, toNat_max]
  omega

theorem lastItem_eq_lastId_iff (ops : List Operation) :
    (empty.run E ops).lastItem = lastId ↔ EverHad E ops lastId := by
  have issued := issued_run E ops
  constructor
  · intro full
    rw [← full]
    exact issued.had.resolve_left (by rw [full]; decide)
  · exact fun had => UInt32.le_antisymm (le_lastId _) (issued.behind _ had)

/-- **Dimensions and extra forms get fresh ids through every history.** Those of a part of speech
never share an id, and neither do the values of a dimension. The id that is chosen for a new one is
higher than all that any part of speech has or had; it can not be chosen exactly when one of them
was the last id there is. A dimension has no room for a value exactly when it has one with the last
id now. Where there is no room, nothing has changed. -/
theorem run_issues_fresh (ops : List Operation) :
    let s := empty.run E ops
    (∀ type, (s.paradigm type).ids.Nodup ∧
      ∀ d ∈ (s.paradigm type).dimensions, (d.values.map (·.id)).Nodup) ∧
      (∀ a : Allocation, a.operation.ComesTo E s (a.attempt.on s) ∧
        match a.attempt.on s with
        | (.ok answer, s') => ¬EverHad E ops lastId ∧
          ∃ id, answer = .declared id ∧ (∀ old, EverHad E ops old → old < id) ∧
          s' = (a.bringing id).insert s
        | (.error fault, s') => EverHad E ops lastId ∧ fault = .noIdLeft ∧ s' = s) ∧
      ∀ type dimension label,
        let addValue := Edit.addValue type dimension label
        let (result, s') := addValue.attempt.on s
        addValue.operation.ComesTo E s (result, s') ∧
          (result = .error .noIdLeft ↔
            ∃ d, s.dimension? type dimension = some d ∧ lastId ∈ d.values.map (·.id)) ∧
          (result = .error .noIdLeft → s' = s) := by
  intro s
  refine ⟨fun type => ?_, fun a => ⟨a.comesTo_attempt E s, ?_⟩, fun type dimension label => ?_⟩
  · have distinct := distinct_history E ops type
    exact ⟨distinct.items, distinct.values⟩
  · have chosen : s.nextItem? = nextId? s.lastItem := nextItem?_run E ops
    have issued : Issued E ops s.lastItem := issued_run E ops
    rw [a.on_attempt, chosen]
    cases next : nextId? s.lastItem with
    | none => exact ⟨(lastItem_eq_lastId_iff E ops).mp (nextId?_eq_none_iff.mp next), rfl, rfl⟩
    | some id =>
      refine ⟨fun had => ?_, id, rfl, fun old had => ?_, rfl⟩
      · rw [nextId?_eq_none_iff.mpr ((lastItem_eq_lastId_iff E ops).mpr had)] at next
        cases next
      · exact UInt32.lt_of_le_of_lt (issued.behind old had) (lt_of_nextId? next)
  · intro addValue
    have comes := addValue.comesTo_attempt E s
    have outcome := addValue.outcome s
    have full : addValue.Overflows s ↔ ∃ d, s.dimension? type dimension = some d ∧
        lastId ∈ d.values.map (·.id) := by
      simp only [addValue, Edit.Overflows, Dimension.nextValue?_eq_none_iff]
    rw [← full]
    generalize addValue.attempt.on s = attempted at outcome comes
    generalize addValue.change s = change at outcome
    cases outcome with
    | refused lacks room named =>
      exact ⟨comes,
        ⟨fun same => absurd (Except.error.inj same) named, fun full => absurd full room⟩,
        fun _ => rfl⟩
    | overflowing has full => exact ⟨comes, ⟨fun _ => full, fun _ => rfl⟩, fun _ => rfl⟩
    | made has room a s' => exact ⟨comes, ⟨by simp, fun full => absurd full room⟩, by simp⟩

/-- The id of a dimension that is gone is not chosen again, not even for another part of speech; and
none can be chosen behind the last. -/
theorem run_issues_fresh_infinitive :
    let E := Pattern.Engine.standard ⟨1000000, 10485760⟩
    let gone (id : Id) : List Operation :=
      [.insertDimension 1 ⟨id, "number", []⟩, .deleteDimension 1 id]
    let infinitive : Allocation := .extra 2 "infinitive"
    (EverHad E (gone 5) 5 ∧ ((empty.run E (gone 5)).paradigm 1).ids = [] ∧
      ∃ id, (infinitive.attempt.on (empty.run E (gone 5))).1 = .ok (.declared id) ∧ 5 < id) ∧
    EverHad E (gone lastId) lastId ∧
      (infinitive.attempt.on (empty.run E (gone lastId))).2 = empty.run E (gone lastId) := by
  intro E gone infinitive
  have had (id : Id) : EverHad E (gone id) id := by
    refine ⟨[.insertDimension 1 ⟨id, "number", []⟩], ⟨[.deleteDimension 1 id], rfl⟩, 1, ?_⟩
    show id ∈ ((empty.setParadigm 1 ⟨[⟨id, "number", []⟩], []⟩).paradigm 1).ids
    rw [paradigm_setParadigm]
    exact List.mem_singleton_self id
  refine ⟨⟨had 5, by decide +kernel, ?_⟩, had lastId, ?_⟩
  · have fresh := ((run_issues_fresh E (gone 5)).2.1 infinitive).2
    cases made : infinitive.attempt.on (empty.run E (gone 5)) with
    | mk result s' =>
      rw [made] at fresh
      cases result with
      | ok answer =>
        obtain ⟨-, id, rfl, above, -⟩ := fresh
        exact ⟨id, rfl, above 5 (had 5)⟩
      | error fault =>
        have overflows : (infinitive.attempt.on (empty.run E (gone 5))).1 = .ok (.declared 6) := by
          decide +kernel
        rw [made] at overflows
        cases overflows
  · have full := ((run_issues_fresh E (gone lastId)).2.1 infinitive).2
    cases made : infinitive.attempt.on (empty.run E (gone lastId)) with
    | mk result s' =>
      rw [made] at full
      cases result with
      | ok answer => exact absurd (had lastId) full.1
      | error fault => exact full.2.2

end RuleSet

end Conlang
