import Conlang.Proofs.Paradigm.Reshaping
import Conlang.Proofs.RuleSet.Arrangement
import Conlang.Proofs.RuleSet.Operation

/-! What becomes of paradigms.

Most operations leave the paradigms alone; those that do not change one of them, and in the ways of
`Paradigm.Reshape` (`perform_reshape`). So ids are distinct in every paradigm of a rule set that has
come about by operations (`distinct_run`). -/
namespace Conlang
open Std

/-! ### Looking up -/

theorem getElem?_insert_id {β : Type} (m : ExtTreeMap Id β) (k : Id) (b : β) (a : Id) :
    (m.insert k b)[a]? = if a = k then some b else m[a]? := by
  rw [ExtTreeMap.getElem?_insert]
  simp only [LawfulEqCmp.compare_eq_iff_eq, eq_comm (a := k)]

theorem getElem?_erase_id {β : Type} (m : ExtTreeMap Id β) (k a : Id) :
    (m.erase k)[a]? = if a = k then none else m[a]? := by
  rw [ExtTreeMap.getElem?_erase]
  simp only [LawfulEqCmp.compare_eq_iff_eq, eq_comm (a := k)]

namespace RuleSet

theorem paradigm_eq {s : RuleSet} {type : Id} {p : Paradigm} (h : s.paradigm? type = some p) :
    s.paradigm type = p := by
  rw [paradigm, h]
  rfl

theorem paradigm?_insert {s s' : RuleSet} {type : Id} {p : Paradigm}
    (paradigms : s'.paradigms = s.paradigms.insert type p) (t : Id) :
    s'.paradigm? t = if t = type then some p else s.paradigm? t := by
  rw [paradigm?, paradigm?, paradigms]
  exact getElem?_insert_id s.paradigms type p t

theorem paradigm?_erase {s s' : RuleSet} {type : Id}
    (paradigms : s'.paradigms = s.paradigms.erase type) (t : Id) :
    s'.paradigm? t = if t = type then none else s.paradigm? t := by
  rw [paradigm?, paradigm?, paradigms]
  exact getElem?_erase_id s.paradigms type t

/-- A dimension that is found stands in its slot. -/
theorem getElem?_of_findDimension {s : RuleSet} {type dimension : Id} {p : Paradigm} {slot : Nat}
    {d : Dimension} (found : s.findDimension type dimension = .ok (p, slot, d)) :
    s.paradigm? type = some p ∧ p.slot? dimension = some slot ∧ p.dimensions[slot]? = some d := by
  unfold findDimension at found
  split at found
  · cases found
  · next p' paradigm =>
    split at found
    · next slot' d' hslot hd =>
      cases found
      refine ⟨paradigm, hslot, ?_⟩
      obtain ⟨inside, isIt, before⟩ := List.findIdx?_eq_some_iff_getElem.mp hslot
      obtain ⟨isIt', i, hi, rfl, before'⟩ := List.find?_eq_some_iff_getElem.mp hd
      rcases Nat.lt_trichotomy i slot with lt | rfl | gt
      · exact absurd isIt' (before i lt)
      · exact List.getElem?_eq_getElem hi
      · exact absurd isIt (by simpa using before' slot gt)
    · cases found

/-- What a change does to a dimension counts only where the dimension is found. -/
theorem after_findDimension {P : RuleSet → Prop} {β : Type} {s : RuleSet} {type dimension : Id}
    {f : Paradigm × Nat × Dimension → Except Fault (β × RuleSet)} (same : P s)
    (change : ∀ p slot d, s.paradigm? type = some p → p.dimensions[slot]? = some d →
      P (s.after (f (p, slot, d)))) :
    P (s.after (s.findDimension type dimension >>= f)) := by
  refine after_bind same ?_
  rintro ⟨p, slot, d⟩ found
  obtain ⟨known, -, here⟩ := getElem?_of_findDimension found
  exact change p slot d known here

/-! ### Fresh items -/

/-- The id of a new item is behind those of all items that any paradigm has. -/
theorem notMem_of_nextItem? {s : RuleSet} {id : Id} (next : s.nextItem? = some id) (type : Id) :
    id ∉ (s.paradigm type).ids := by
  cases h : s.paradigm? type with
  | none => simp [paradigm, h, Paradigm.ids, Paradigm.empty]
  | some p =>
    rw [paradigm_eq h]
    have listed : (type, p) ∈ s.paradigms.toList := ExtTreeMap.mem_toList_iff_getElem?_eq_some.mpr h
    refine notMem_of_nextId? ?_ next
    have within :
        highest p.ids ≤ highest (s.paradigms.toList.map fun entry => highest entry.2.ids) :=
      le_highest (List.mem_map.mpr ⟨(type, p), listed, rfl⟩)
    rw [UInt32.le_iff_toNat_le] at within ⊢
    rw [toNat_max]
    omega

theorem distinct_of_takenBy? {p : Paradigm} {d : Dimension} (free : takenBy? p d = none) :
    d.id ∉ p.ids ∧ (d.values.map (·.id)).Nodup := by
  unfold takenBy? at free
  split at free
  · cases free
  · next unused => exact ⟨by simpa using unused, (Dimension.nodup_of_repeated? free).1⟩

/-! ### One operation -/

/-- The grid of a part of speech may get other slots. -/
def Operation.Rebuilds (op : Operation) (t : Id) : Prop :=
  match op with
  | .deleteDimension type _ | .clearType type => t = type
  | _ => False

/-- An operation on the items of a paradigm. -/
def Operation.OnItems : Operation → Prop
  | .addDimension .. | .insertDimension .. | .addValue .. | .addExtra .. | .insertExtra ..
  | .deleteDimension .. | .deleteValue .. | .deleteExtra .. | .clearType _ => True
  | _ => False

/-- The same paradigms, and the same counter of items. -/
structure SameItems (s s' : RuleSet) : Prop where
  paradigms : s'.paradigms = s.paradigms
  lastItem : s'.lastItem = s.lastItem

/-- Adding one copy after another changes the rules and their counter. -/
theorem foldl_add_eq (copies : List (Combination × RuleContent)) (type : Id) (s : RuleSet) :
    copies.foldl (fun s (c, content) => s.add type c content) s =
      { s with
        rules := (copies.foldl (fun s (c, content) => s.add type c content) s).rules
        lastRule := (copies.foldl (fun s (c, content) => s.add type c content) s).lastRule } := by
  induction copies generalizing s with
  | nil => rfl
  | cons copy rest ih => exact ih (s.add type copy.1 copy.2)

namespace SameItems

theorem refl (s : RuleSet) : SameItems s s := ⟨rfl, rfl⟩

theorem deleteWhere (s : RuleSet) (doomed : Rule → Bool) : SameItems s (s.deleteWhere doomed) := by
  rw [deleteWhere_eq]
  exact ⟨rfl, rfl⟩

theorem dropForms (s : RuleSet) (type : Id) (chosen : Combination → Bool) :
    SameItems s (s.dropForms type chosen).2 :=
  ⟨(deleteWhere _ _).paradigms, (deleteWhere _ _).lastItem⟩

theorem foldl_add (copies : List (Combination × RuleContent)) (type : Id) (s : RuleSet) :
    SameItems s (copies.foldl (fun s (c, content) => s.add type c content) s) := by
  rw [foldl_add_eq]
  exact ⟨rfl, rfl⟩

theorem of_bind {α β : Type} {s : RuleSet} {found : Except Fault α}
    {f : α → Except Fault (β × RuleSet)}
    (change : ∀ a, found = .ok a → SameItems s (s.after (f a))) :
    SameItems s (s.after (found >>= f)) :=
  after_bind (P := SameItems s) (.refl s) change

end SameItems

/-- Other operations leave all items as they are. -/
theorem sameItems_perform (E : Pattern.Engine) (s : RuleSet) {op : Operation}
    (other : ¬op.OnItems) :
    SameItems s (s.perform E op) := by
  cases op with
  | add | edit | updateEquivalent | purge | suppress | loadSuppressed => exact ⟨rfl, rfl⟩
  | deleteRule | deleteRules | deleteRulesFor => exact .deleteWhere _ _
  | moveUp type c ids =>
    rw [perform, moveUp]
    split <;> exact ⟨rfl, rfl⟩
  | moveDown type c ids =>
    rw [perform, moveDown]
    split <;> exact ⟨rfl, rfl⟩
  | evolve filter find replace =>
    rw [perform, evolveRules]
    split <;> exact ⟨rfl, rfl⟩
  | copyToSharers type dimension value ids source =>
    exact .of_bind fun _ _ => .of_bind fun _ _ => .foldl_add _ _ _
  | deleteFromSharers type dimension value ids =>
    exact .of_bind fun _ _ => .of_bind fun _ _ => .deleteWhere _ _
  | deleteEquivalent type ids => exact .of_bind fun _ _ => .deleteWhere _ _
  | _ => exact absurd trivial other

theorem paradigms_dropForms (s : RuleSet) (type : Id) (chosen : Combination → Bool) :
    (s.dropForms type chosen).2.paradigms = s.paradigms :=
      (SameItems.dropForms s type chosen).paradigms

section
variable {rebuilds : Prop} {s s' : RuleSet} {t : Id}

theorem reshape_of_eq (paradigms : s'.paradigms = s.paradigms) :
    Paradigm.Reshape rebuilds (s.paradigm t) (s'.paradigm t) := by
  have same : s'.paradigm t = s.paradigm t := by rw [paradigm, paradigm, paradigm?, paradigms]; rfl
  rw [same]
  exact .keep

/-- One paradigm is changed and the others stay. -/
theorem reshape_of_insert {type : Id} {p : Paradigm}
    (paradigms : s'.paradigms = s.paradigms.insert type p)
    (here : t = type → Paradigm.Reshape rebuilds (s.paradigm type) p) :
    Paradigm.Reshape rebuilds (s.paradigm t) (s'.paradigm t) := by
  rw [paradigm.eq_1 s' t, paradigm?_insert paradigms]
  split
  · next same =>
    subst same
    exact here rfl
  · exact .keep

theorem reshape_of_findDimension {β : Type} {type dimension : Id}
    {f : Paradigm × Nat × Dimension → Except Fault (β × RuleSet)}
    (change : ∀ p slot d, s.paradigm? type = some p → p.dimensions[slot]? = some d →
      Paradigm.Reshape rebuilds (s.paradigm t) ((s.after (f (p, slot, d))).paradigm t)) :
    Paradigm.Reshape rebuilds (s.paradigm t)
      ((s.after (s.findDimension type dimension >>= f)).paradigm t) :=
  after_findDimension (P := fun s' => Paradigm.Reshape rebuilds (s.paradigm t) (s'.paradigm t))
    .keep change

end

/-- An operation changes a paradigm in the ways of `Paradigm.Reshape` only. -/
theorem perform_reshape (E : Pattern.Engine) (s : RuleSet) (op : Operation) (t : Id) :
    Paradigm.Reshape (op.Rebuilds t) (s.paradigm t) ((s.perform E op).paradigm t) := by
  have refused : Paradigm.Reshape (op.Rebuilds t) (s.paradigm t) (s.paradigm t) := .keep
  by_cases items : op.OnItems
  swap
  · exact reshape_of_eq (sameItems_perform E s items).paradigms
  cases op with
  | addDimension type label =>
    rw [perform, addDimension, addItem]
    split
    · exact refused
    · next id next =>
      exact reshape_of_insert rfl fun _ =>
        .addDimension _ (notMem_of_nextItem? next type) List.nodup_nil
  | addExtra type label =>
    rw [perform, addExtra, addItem]
    split
    · exact refused
    · next id next =>
        exact reshape_of_insert rfl fun _ => .addExtra _ (notMem_of_nextItem? next type)
  | insertDimension type d =>
    rw [perform, insertDimension]
    split
    · exact reshape_of_insert rfl fun _ => .keep
    · next free =>
      obtain ⟨fresh, distinct⟩ := distinct_of_takenBy? free
      exact reshape_of_insert rfl fun _ => .addDimension d fresh distinct
  | insertExtra type e =>
    rw [perform, insertExtra]
    split
    · exact refused
    · next unused => exact reshape_of_insert rfl fun _ => .addExtra e (by simpa using unused)
  | addValue type dimension label =>
    refine reshape_of_findDimension fun p slot d known here => ?_
    dsimp only
    split
    · exact refused
    · next id next =>
      refine reshape_of_insert rfl fun _ => ?_
      rw [paradigm_eq known]
      refine .revalue here _ fun distinct => ?_
      rw [List.map_append]
      exact (List.perm_append_singleton id _).nodup_iff.mpr
        (List.nodup_cons.mpr ⟨Dimension.notMem_of_nextValue? next, distinct⟩)
  | deleteDimension type dimension =>
    refine reshape_of_findDimension fun p slot d known _ => ?_
    refine reshape_of_insert (paradigms_dropForms _ _ _) fun same => ?_
    rw [paradigm_eq known]
    exact .dropDimension slot same
  | deleteValue type dimension value =>
    refine reshape_of_findDimension fun p slot d known here => ?_
    dsimp only
    split
    · exact refused
    · refine reshape_of_insert (paradigms_dropForms _ _ _) fun _ => ?_
      rw [paradigm_eq known]
      exact .revalue here _ fun distinct => distinct.sublist ((List.filter_sublist ..).map _)
  | deleteExtra type form =>
    rw [perform, deleteExtra]
    split
    · exact refused
    · next p known =>
      split
      · exact refused
      · show Paradigm.Reshape _ _ (paradigm (dropForms _ type (· == .ofForm form)).2 t)
        refine reshape_of_insert (paradigms_dropForms _ _ _) fun _ => ?_
        rw [paradigm_eq known]
        exact .dropExtra form
  | clearType type =>
    have gone : (s.clearType type).2.paradigm? t = if t = type then none else s.paradigm? t :=
      paradigm?_erase rfl t
    rw [perform, paradigm.eq_1 (s.clearType type).2, gone]
    split
    · next same => exact .clear same
    · exact .keep
  | _ => exact items.elim

/-! ### Many operations -/

/-- No id is declared twice in a paradigm, whatever has been asked of the rule set. -/
theorem distinct_run (E : Pattern.Engine) (ops : List Operation) {s : RuleSet}
    (h : ∀ type, (s.paradigm type).Distinct) (type : Id) :
    ((s.run E ops).paradigm type).Distinct := by
  induction ops generalizing s with
  | nil => exact h type
  | cons op rest ih => exact ih fun type => (perform_reshape E s op type).distinct (h type)

theorem paradigm_empty (type : Id) : empty.paradigm type = .empty := by
  simp [paradigm, paradigm?, empty]

theorem distinct_history (E : Pattern.Engine) (ops : List Operation) (type : Id) :
    ((empty.run E ops).paradigm type).Distinct := by
  refine distinct_run E ops (fun type => ?_) type
  rw [paradigm_empty]
  exact Paradigm.distinct_empty

end RuleSet

end Conlang
