import Conlang.Sorting
import Mathlib.Data.List.Sort

/-! What sorting keeps.

`sortBy` is insertion sort, so its result is in order and a list in order stays as it is. It is also
stable: `filter_sortBy` says that choosing elements before sorting and after sorting come to the
same, and `sortBy_eq_flatMap` that sorting by a key lists the elements of one key after those of
another. -/
namespace Conlang

variable {α : Type} {le : α → α → Bool}

/-- Any two elements are comparable, and comparisons chain. Two elements may stand for each
other. -/
structure Ranking (le : α → α → Bool) : Prop where
  total : ∀ a b, le a b = true ∨ le b a = true
  trans : ∀ a b c, le a b = true → le b c = true → le a c = true

theorem insertBy_eq_orderedInsert (a : α) (l : List α) :
    insertBy le a l = l.orderedInsert (fun a b => le a b = true) a := by
  induction l with
  | nil => rfl
  | cons b rest ih => simp only [insertBy, List.orderedInsert, ih]

theorem sortBy_eq_insertionSort (l : List α) :
    sortBy le l = l.insertionSort (fun a b => le a b = true) := by
  induction l with
  | nil => rfl
  | cons a rest ih => rw [sortBy, ih, insertBy_eq_orderedInsert, List.insertionSort_cons]

theorem pairwise_sortBy (h : Ranking le) (l : List α) :
    (sortBy le l).Pairwise (fun a b => le a b = true) := by
  have : Std.Total (fun a b => le a b = true) := ⟨h.total⟩
  have : IsTrans α (fun a b => le a b = true) := ⟨h.trans⟩
  rw [sortBy_eq_insertionSort]
  exact List.pairwise_insertionSort _ l

theorem sortBy_eq_self {l : List α} (h : l.Pairwise (fun a b => le a b = true)) :
    sortBy le l = l := by
  rw [sortBy_eq_insertionSort]
  exact h.insertionSort_eq

/-- Only how the elements of the list compare with each other counts. -/
theorem sortBy_congr {le' : α → α → Bool} {l : List α} (h : ∀ a ∈ l, ∀ b ∈ l, le a b = le' a b) :
    sortBy le l = sortBy le' l := by
  rw [sortBy_eq_insertionSort, sortBy_eq_insertionSort]
  have same : ∀ a ∈ l, ∀ b ∈ l, le a b = true ↔ le' (id a) (id b) = true := fun a ha b hb => by
    rw [h a ha b hb]
    rfl
  simpa
    using List.map_insertionSort (fun a b => le a b = true) (fun a b => le' a b = true) id l same

theorem sortBy_map {β : Type} {f : α → β} {le' : β → β → Bool} (h : ∀ a b, le' (f a) (f b) = le a b)
    (l : List α) :
    sortBy le' (l.map f) = (sortBy le l).map f := by
  rw [sortBy_eq_insertionSort, sortBy_eq_insertionSort]
  exact (List.map_insertionSort _ _ f l fun a _ b _ => by rw [h]).symm

theorem insertBy_of_forall_le {a : α} {l : List α} (h : ∀ b ∈ l, le a b = true) :
    insertBy le a l = a :: l := by
  cases l with
  | nil => rfl
  | cons b rest => rw [insertBy, if_pos (h b (List.mem_cons_self ..))]

theorem filter_insertBy (h : Ranking le) (p : α → Bool) (a : α) {l : List α}
    (sorted : l.Pairwise (fun a b => le a b = true)) :
    (insertBy le a l).filter p = if p a then insertBy le a (l.filter p) else l.filter p := by
  induction l with
  | nil => cases hp : p a <;> simp [insertBy, hp]
  | cons b rest ih =>
    obtain ⟨below, sorted'⟩ := List.pairwise_cons.mp sorted
    rw [insertBy]
    by_cases hab : le a b = true
    · have first : ∀ c ∈ b :: rest, le a c = true := by
        intro c hc
        rcases List.mem_cons.mp hc with rfl | hc
        · exact hab
        · exact h.trans a b c hab (below c hc)
      have first' : ∀ c ∈ (b :: rest).filter p, le a c = true := fun c hc =>
        first c (List.mem_of_mem_filter hc)
      rw [if_pos hab, insertBy_of_forall_le first', List.filter_cons]
    · rw [if_neg hab, List.filter_cons, ih sorted', List.filter_cons]
      cases hb : p b <;> cases ha : p a <;> simp [insertBy, hab]

/-- Sorting is stable: the elements that are chosen stand as if they had been sorted alone. -/
theorem filter_sortBy (h : Ranking le) (p : α → Bool) (l : List α) :
    (sortBy le l).filter p = sortBy le (l.filter p) := by
  induction l with
  | nil => rfl
  | cons a rest ih =>
    rw [sortBy, filter_insertBy h p a (pairwise_sortBy h rest), ih, List.filter_cons]
    cases p a <;> rfl

/-! ### Sorting by a key -/

theorem insertBy_append {a : α} {before : List α} (l : List α) (h : ∀ b ∈ before, le a b = false) :
    insertBy le a (before ++ l) = before ++ insertBy le a l := by
  induction before with
  | nil => rfl
  | cons b rest ih =>
    rw [List.forall_mem_cons] at h
    rw [List.cons_append, insertBy, if_neg (by simp [h.1]), ih h.2, List.cons_append]

section
variable {κ : Type} [DecidableEq κ] (key : α → κ) {keys : List κ} (tie : ∀ a b, key a = key b →
  le a b = true)
  (rise : keys.Pairwise fun k k' => ∀ a b, key a = k → key b = k' → le a b = true ∧ le b a = false)
include tie rise

/-- An element goes to the front of those that have its key. -/
theorem insertBy_flatMap {a : α} (here : key a ∈ keys) (l : List α) :
    insertBy le a (keys.flatMap fun k => l.filter (key · == k)) =
      keys.flatMap fun k => (a :: l).filter (key · == k) := by
  have keyed {k : κ} {b : α} (hb : b ∈ l.filter (key · == k)) : key b = k := by
    simpa using (List.mem_filter.mp hb).2
  induction keys with
  | nil => cases here
  | cons k keys ih =>
    obtain ⟨below, rise⟩ := List.pairwise_cons.mp rise
    rw [List.flatMap_cons, List.flatMap_cons]
    by_cases same : key a = k
    · have others : ∀ k' ∈ keys, (a :: l).filter (key · == k') = l.filter (key · == k') := by
        intro k' hk'
        refine List.filter_cons_of_neg fun eq => ?_
        have := below k' hk' a a same (by simpa using eq)
        simp [tie a a rfl] at this
      rw [List.flatMap_congr others, List.filter_cons_of_pos (by simpa using same),
        List.cons_append]
      refine insertBy_of_forall_le fun b hb => ?_
      rcases List.mem_append.mp hb with hb | hb
      · exact tie a b (same.trans (keyed hb).symm)
      · obtain ⟨k', hk', hb⟩ := List.mem_flatMap.mp hb
        exact (below k' hk' a b same (keyed hb)).1
    · have later : key a ∈ keys := (List.mem_cons.mp here).resolve_left same
      rw [List.filter_cons_of_neg (by simpa using same), ← ih rise later]
      exact insertBy_append _ fun b hb => (below _ later b a (keyed hb) rfl).2

/-- Elements with the same key stay together, in their order. -/
theorem sortBy_eq_flatMap {l : List α} (listed : ∀ a ∈ l, key a ∈ keys) :
    sortBy le l = keys.flatMap fun k => l.filter (key · == k) := by
  induction l with
  | nil => simp [sortBy]
  | cons a rest ih =>
    obtain ⟨here, listed⟩ := List.forall_mem_cons.mp listed
    rw [sortBy, ih listed, insertBy_flatMap key tie rise here]

end

end Conlang
