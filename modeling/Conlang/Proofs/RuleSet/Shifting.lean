import Conlang.Inflection.RuleSet.Moving
import Mathlib.Data.List.Perm.Basic
import Mathlib.Logic.Function.Iterate

/-! Moving a selection within a list.

`Raised` says what moving up by one place does to all selected elements at the same time, and
`liftSelected` does it in one pass (`raised_liftSelected`). The same comes about when neighbours
change places one pair after the other, from the top of the list (`climb_eq`); doing that from the
bottom moves down (`sink_eq`), and is the mirror image. Down undoes up where the first element is
not selected (`lowerSelected_liftSelected`), and moving again and again gathers the selection at one
end (`iterate_liftSelected`). -/
namespace Conlang

variable {α β : Type} {selected : α → Bool}

/-! ### One pass -/

/-- Only whether elements are selected counts. -/
theorem liftSelected_map {f : β → α} {chosen : β → Bool} (same : ∀ b, selected (f b) = chosen b)
    (l : List β) :
    liftSelected selected (l.map f) = (liftSelected chosen l).map f := by
  have past (a : β) (l : List β) : liftPast selected (f a) (l.map f) =
      (liftPast chosen a l).map f := by
    induction l generalizing a with
    | nil => rfl
    | cons b rest ih =>
      simp only [List.map_cons, liftPast, ih, same]
      split <;> rfl
  cases l with
  | nil => rfl
  | cons a rest => exact past a rest

theorem liftPast_perm (a : α) (l : List α) : (liftPast selected a l).Perm (a :: l) := by
  induction l generalizing a with
  | nil => exact .refl _
  | cons b rest ih =>
    rw [liftPast]
    split
    · exact ((ih a).cons b).trans (.swap a b rest)
    · exact (ih b).cons a

theorem liftSelected_perm (l : List α) : (liftSelected selected l).Perm l := by
  cases l with
  | nil => exact .refl _
  | cons a rest => exact liftPast_perm a rest

/-- Elements of which one is selected and one is not change places, so those that are alike keep
their order. -/
theorem filter_liftPast {p : α → Bool}
    (alike : ∀ a b, p a = true → p b = true → selected a = selected b) (a : α) (l : List α) :
    (liftPast selected a l).filter p = (a :: l).filter p := by
  induction l generalizing a with
  | nil => rfl
  | cons b rest ih =>
    rw [liftPast]
    split
    · next moves =>
      rw [List.filter_cons, ih, List.filter_cons, List.filter_cons, List.filter_cons]
      cases pa : p a <;> cases pb : p b <;> simp
      simp [alike a b pa pb] at moves
    · simp only [List.filter_cons, ih]

theorem filter_liftSelected {p : α → Bool}
    (alike : ∀ a b, p a = true → p b = true → selected a = selected b) (l : List α) :
    (liftSelected selected l).filter p = l.filter p := by
  cases l with
  | nil => rfl
  | cons a rest => exact filter_liftPast alike a rest

/-- Among elements that are alike none is in the way of another. -/
theorem liftSelected_eq_self {l : List α} {b : Bool} (alike : ∀ a ∈ l, selected a = b) :
    liftSelected selected l = l := by
  have whole : ∀ a ∈ l, (selected a == b) = true := fun a ha => beq_iff_eq.mpr (alike a ha)
  have moved : ∀ a ∈ liftSelected selected l, (selected a == b) = true := fun a ha =>
    whole a ((liftSelected_perm l).mem_iff.mp ha)
  calc liftSelected selected l
    _ = (liftSelected selected l).filter (selected · == b) := (List.filter_eq_self.mpr moved).symm
    _ = l.filter (selected · == b) := filter_liftSelected (fun a a' ha ha' => by simp_all) l
    _ = l := List.filter_eq_self.mpr whole

/-! ### Where elements come to stand -/

/-- Every selected element that has one above it which is not has moved up by one place, and the
others that are selected have kept theirs. Those that are selected and those that are not have each
kept their order. -/
structure Raised (selected : α → Bool) (before after : List α) : Prop where
  perm : after.Perm before
  rises : ∀ (i : Nat) (b : α), before[i + 1]? = some b → selected b = true →
    (∃ j ≤ i, ∃ a, before[j]? = some a ∧ selected a = false) → after[i]? = some b
  stays : ∀ (i : Nat) (b : α), before[i]? = some b → selected b = true →
    (∀ j < i, ∀ a, before[j]? = some a → selected a = true) → after[i]? = some b
  chosen : after.filter selected = before.filter selected
  others : after.filter (!selected ·) = before.filter (!selected ·)

theorem liftPast_rises {a b : α} {l : List α} {i : Nat} (hb : l[i]? = some b)
    (sb : selected b = true) (above : ∃ j ≤ i, ∃ x, (a :: l)[j]? = some x ∧ selected x = false) :
    (liftPast selected a l)[i]? = some b := by
  induction l generalizing a i with
  | nil => simp at hb
  | cons c rest ih =>
    obtain ⟨j, le, x, hx, sx⟩ := above
    rw [liftPast]
    split
    · next moves =>
      have sa : selected a = false := by simp_all
      cases i with
      | zero => exact hb
      | succ i => exact ih hb ⟨0, Nat.zero_le i, a, rfl, sa⟩
    · next stays =>
      -- what is above `b` and not selected is `a` or stands behind it, and then `c` is next
      have next : ∃ k, k + 1 ≤ max j 1 ∧ ∃ y, (c :: rest)[k]? = some y ∧ selected y = false := by
        cases j with
        | zero =>
          obtain rfl : a = x := by simpa using hx
          exact ⟨0, by omega, c, rfl, by simpa [sx] using stays⟩
        | succ j => exact ⟨j, by omega, x, hx, sx⟩
      obtain ⟨k, within, y, hy, sy⟩ := next
      cases i with
      | zero =>
        obtain rfl : k = 0 := by omega
        simp_all
      | succ i => exact ih hb ⟨k, by omega, y, hy, sy⟩

theorem liftPast_stays {a b : α} {l : List α} {i : Nat} (hb : (a :: l)[i]? = some b)
    (sb : selected b = true) (above : ∀ j < i, ∀ x, (a :: l)[j]? = some x → selected x = true) :
    (liftPast selected a l)[i]? = some b := by
  induction l generalizing a i with
  | nil => exact hb
  | cons c rest ih =>
    have sa : selected a = true := by
      cases i with
      | zero => simp_all
      | succ i => exact above 0 (Nat.succ_pos i) a rfl
    rw [liftPast, if_neg (by simp [sa])]
    cases i with
    | zero => exact hb
    | succ i => exact ih hb fun j lt x hx => above (j + 1) (Nat.succ_lt_succ lt) x hx

theorem raised_liftSelected (l : List α) : Raised selected l (liftSelected selected l) where
  perm := liftSelected_perm l
  rises i b hb sb above := by
    cases l with
    | nil => simp at hb
    | cons a rest => exact liftPast_rises hb sb above
  stays i b hb sb above := by
    cases l with
    | nil => simp at hb
    | cons a rest => exact liftPast_stays hb sb above
  chosen := filter_liftSelected (fun a b ha hb => ha.trans hb.symm) l
  others := filter_liftSelected (fun a b ha hb => by simp_all) l

/-! ### The mirror image -/

theorem lowerSelected_map {f : β → α} {chosen : β → Bool} (same : ∀ b, selected (f b) = chosen b)
    (l : List β) :
    lowerSelected selected (l.map f) = (lowerSelected chosen l).map f := by
  rw [lowerSelected, ← List.map_reverse, liftSelected_map same, ← List.map_reverse, lowerSelected]

theorem lowerSelected_perm (l : List α) : (lowerSelected selected l).Perm l :=
  (List.reverse_perm _).trans ((liftSelected_perm _).trans (List.reverse_perm l))

theorem lowerSelected_eq_self {l : List α} {b : Bool} (alike : ∀ a ∈ l, selected a = b) :
    lowerSelected selected l = l := by
  rw [lowerSelected, liftSelected_eq_self (by simpa using alike), List.reverse_reverse]

theorem raised_lowerSelected (l : List α) :
    Raised selected l.reverse (lowerSelected selected l).reverse := by
  rw [lowerSelected, List.reverse_reverse]
  exact raised_liftSelected l.reverse

/-! ### Exchanging neighbours in place -/

/-- The elements at a place and behind it change places, if they are such as should. -/
def exchange (should : α → α → Bool) (l : List α) (i : Nat) : List α :=
  match l[i]?, l[i + 1]? with
  | some a, some b => if should a b then (l.set i b).set (i + 1) a else l
  | _, _ => l

/-- Goes through the places from the first one; a selected element passes the one before it that is
not. -/
def climb (selected : α → Bool) (l : List α) : List α :=
  (List.range (l.length - 1)).foldl (exchange fun a b => selected b && !selected a) l

/-- Goes through the places from the last one; a selected element passes the one behind it that is
not. -/
def sink (selected : α → Bool) (l : List α) : List α :=
  (List.range (l.length - 1)).reverse.foldl (exchange fun a b => selected a && !selected b) l

theorem exchange_append (should : α → α → Bool) (front : List α) (a b : α) (rest : List α) :
    exchange should (front ++ a :: b :: rest) front.length =
      if should a b then front ++ b :: a :: rest else front ++ a :: b :: rest := by
  have first : (front ++ a :: b :: rest)[front.length]? = some a := by simp
  have second : (front ++ a :: b :: rest)[front.length + 1]? = some b := by simp
  rw [exchange]
  simp only [first, second]
  split
  · simp
  · rfl

theorem foldl_exchange_up (front : List α) (a : α) (rest : List α) :
    (List.range' front.length rest.length).foldl (exchange fun a b => selected b && !selected a)
      (front ++ a :: rest) = front ++ liftPast selected a rest := by
  induction rest generalizing front a with
  | nil => rfl
  | cons b rest ih =>
    rw [List.length_cons, List.range'_succ, List.foldl_cons, exchange_append, liftPast]
    split
    · simpa using ih (front ++ [b]) a
    · simpa using ih (front ++ [a]) b

theorem climb_eq (l : List α) : climb selected l = liftSelected selected l := by
  cases l with
  | nil => rfl
  | cons a rest =>
    rw [climb, List.range_eq_range']
    exact foldl_exchange_up [] a rest

theorem foldl_exchange_down (a : α) (front back : List α) :
    (List.range front.length).reverse.foldl (exchange fun a b => selected a && !selected b)
      (front.reverse ++ a :: back) = (liftPast selected a front).reverse ++ back := by
  induction front generalizing a back with
  | nil => rfl
  | cons b rest ih =>
    have place := exchange_append (fun a b => selected a && !selected b) rest.reverse b a back
    rw [List.length_reverse] at place
    rw [List.length_cons, List.range_succ, List.reverse_append, List.reverse_singleton,
      List.singleton_append, List.foldl_cons, List.reverse_cons, List.append_assoc,
      List.singleton_append, place, liftPast]
    split
    · simpa using ih a (b :: back)
    · simpa using ih b (a :: back)

theorem sink_eq (l : List α) : sink selected l = lowerSelected selected l := by
  obtain ⟨mirror, rfl⟩ : ∃ mirror, l = mirror.reverse := ⟨l.reverse, l.reverse_reverse.symm⟩
  rw [lowerSelected, List.reverse_reverse]
  cases mirror with
  | nil => rfl
  | cons a front =>
    have lowered : _ = (liftPast selected a front).reverse ++ [] := foldl_exchange_down a front []
    rw [List.append_nil, ← List.reverse_cons] at lowered
    rw [sink, List.length_reverse]
    exact lowered

/-! ### The end of a list -/

theorem liftPast_ne_nil (a : α) (l : List α) : liftPast selected a l ≠ [] := by
  intro empty
  have lost : [].Perm (a :: l) := empty ▸ liftPast_perm a l
  exact List.cons_ne_nil a l lost.nil_eq.symm

/-- What is put behind a list stays there, or passes the element that has come to stand last. -/
theorem liftPast_concat {a c : α} {l front : List α} (lifted : liftPast selected a l = front ++ [c])
    (b : α) :
    liftPast selected a (l ++ [b]) = front ++ if selected b && !selected c then [b, c]
      else [c, b] := by
  induction l generalizing a front with
  | nil =>
    have alone : [] ++ [a] = front ++ [c] := lifted
    obtain ⟨rfl, same⟩ := List.append_inj' alone rfl
    cases same
    rfl
  | cons d rest ih =>
    have first {x y : α} (eq : x :: liftPast selected y rest = front ++ [c]) :
        ∃ more, front = x :: more ∧ liftPast selected y rest = more ++ [c] := by
      cases front with
      | nil => exact absurd (List.cons.inj eq).2 (liftPast_ne_nil y rest)
      | cons z more =>
        obtain ⟨rfl, rest⟩ := List.cons.inj eq
        exact ⟨more, rfl, rest⟩
    rw [liftPast] at lifted
    rw [List.cons_append, liftPast]
    split at lifted
    · next moves =>
      obtain ⟨more, rfl, eq⟩ := first lifted
      rw [if_pos moves, ih eq, List.cons_append]
    · next stays =>
      obtain ⟨more, rfl, eq⟩ := first lifted
      rw [if_neg stays, ih eq, List.cons_append]

theorem liftSelected_concat {c : α} {l front : List α}
    (lifted : liftSelected selected l = front ++ [c]) (b : α) :
    liftSelected selected (l ++ [b]) = front ++ if selected b && !selected c then [b, c]
      else [c, b] := by
  cases l with
  | nil => simp [liftSelected] at lifted
  | cons a rest => exact liftPast_concat lifted b

/-- Nothing that is not selected moves up by itself. -/
theorem liftSelected_append_singleton {u : α} (hu : selected u = false) (l : List α) :
    liftSelected selected (l ++ [u]) = liftSelected selected l ++ [u] := by
  rcases List.eq_nil_or_concat' (liftSelected selected l) with empty | ⟨front, c, lifted⟩
  · obtain rfl : l = [] := (empty ▸ liftSelected_perm l).nil_eq.symm
    rfl
  · rw [liftSelected_concat lifted, lifted]
    simp [hu]

/-- The last element that is not selected falls to the end of the list. -/
theorem liftPast_ends {a : α} {l : List α} (some : ∃ x ∈ a :: l, selected x = false) :
    ∃ front u, liftPast selected a l = front ++ [u] ∧ selected u = false := by
  induction l generalizing a with
  | nil =>
    obtain ⟨x, mem, hx⟩ := some
    obtain rfl : x = a := by simpa using mem
    exact ⟨[], x, rfl, hx⟩
  | cons b rest ih =>
    rw [liftPast]
    split
    · next moves =>
      have ha : selected a = false := by simp_all
      obtain ⟨front, u, eq, hu⟩ := ih ⟨a, List.mem_cons_self .., ha⟩
      exact ⟨b :: front, u, by rw [eq, List.cons_append], hu⟩
    · next stays =>
      have behind : ∃ x ∈ b :: rest, selected x = false := by
        obtain ⟨x, mem, hx⟩ := some
        rcases List.mem_cons.mp mem with rfl | mem
        · exact ⟨b, List.mem_cons_self .., by simpa [hx] using stays⟩
        · exact ⟨x, mem, hx⟩
      obtain ⟨front, u, eq, hu⟩ := ih behind
      exact ⟨a :: front, u, by rw [eq, List.cons_append], hu⟩

theorem liftSelected_ends {l : List α} (some : ∃ x ∈ l, selected x = false) :
    ∃ front u, liftSelected selected l = front ++ [u] ∧ selected u = false := by
  cases l with
  | nil => simp at some
  | cons a rest => exact liftPast_ends some

/-! ### Going back -/

theorem liftSelected_reverse_liftPast {a : α} (ha : selected a = false) (l : List α) :
    liftSelected selected (liftPast selected a l).reverse = l.reverse ++ [a] := by
  induction l generalizing a with
  | nil => rfl
  | cons b rest ih =>
    rw [liftPast, List.reverse_cons, List.append_assoc]
    split
    · next moves =>
      rw [List.reverse_cons, liftSelected_concat (ih ha) b, if_pos moves]
      rfl
    · next stays =>
      have hb : selected b = false := by simpa [ha] using stays
      rw [List.reverse_cons, liftSelected_concat (ih hb) a, if_neg (by simp [ha])]
      rfl

/-- Moving down undoes moving up where nothing is in the way of the first selected element. -/
theorem lowerSelected_liftSelected {l : List α}
    (free : ∀ a, l.head? = some a → selected a = false) :
    lowerSelected selected (liftSelected selected l) = l := by
  cases l with
  | nil => rfl
  | cons a rest =>
    rw [lowerSelected, liftSelected, liftSelected_reverse_liftPast (free a rfl)]
    simp

/-! ### Moving again and again -/

theorem iterate_append_singleton {u : α} (hu : selected u = false) (k : Nat) (l : List α) :
    (liftSelected selected)^[k] (l ++ [u]) = (liftSelected selected)^[k] l ++ [u] := by
  induction k generalizing l with
  | zero => rfl
  | succ k ih =>
    rw [Function.iterate_succ_apply, liftSelected_append_singleton hu, ih,
      Function.iterate_succ_apply]

theorem partition_of_all {l : List α} (all : ∀ a ∈ l, selected a = true) :
    l.filter selected ++ l.filter (!selected ·) = l := by
  rw [List.filter_eq_self.mpr all, List.filter_eq_nil_iff.mpr (by simpa using all), List.append_nil]

/-- Each time one more of the elements that are not selected falls to the end, where it stays. -/
theorem iterate_liftSelected {k : Nat} {l : List α} (enough : l.countP (!selected ·) ≤ k) :
    (liftSelected selected)^[k] l = l.filter selected ++ l.filter (!selected ·) := by
  induction k generalizing l with
  | zero =>
    have all : ∀ a ∈ l, selected a = true := by simpa [List.countP_eq_zero] using enough
    exact (partition_of_all all).symm
  | succ k ih =>
    by_cases all : ∀ a ∈ l, selected a = true
    · rw [partition_of_all all]
      exact Function.iterate_fixed (liftSelected_eq_self all) _
    · have some : ∃ a ∈ l, selected a = false := by simpa using all
      obtain ⟨front, u, lifted, hu⟩ := liftSelected_ends some
      have chosen : front.filter selected = l.filter selected := by
        rw [← (raised_liftSelected l).chosen, lifted]
        simp [hu]
      have others : front.filter (!selected ·) ++ [u] = l.filter (!selected ·) := by
        rw [← (raised_liftSelected l).others, lifted]
        simp [hu]
      have fewer : front.countP (!selected ·) ≤ k := by
        have count := congrArg List.length others
        rw [List.length_append, List.length_singleton, ← List.countP_eq_length_filter,
          ← List.countP_eq_length_filter] at count
        omega
      rw [Function.iterate_succ_apply, lifted, iterate_append_singleton hu, ih fewer, chosen,
        ← others, List.append_assoc]

theorem iterate_lowerSelected_eq (k : Nat) (l : List α) :
    (lowerSelected selected)^[k] l = ((liftSelected selected)^[k] l.reverse).reverse := by
  induction k generalizing l with
  | zero => exact l.reverse_reverse.symm
  | succ k ih =>
    rw [Function.iterate_succ_apply, ih, Function.iterate_succ_apply, lowerSelected,
      List.reverse_reverse]

theorem iterate_lowerSelected {k : Nat} {l : List α} (enough : l.countP (!selected ·) ≤ k) :
    (lowerSelected selected)^[k] l = l.filter (!selected ·) ++ l.filter selected := by
  rw [iterate_lowerSelected_eq, iterate_liftSelected (by rwa [List.countP_reverse])]
  simp [List.filter_reverse]

end Conlang
