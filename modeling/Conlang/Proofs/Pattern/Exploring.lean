import Mathlib.Logic.Relation
import Conlang.Proofs.Pattern.States

/-! Searching with an automaton.

A search that enters no state twice at one place still finds a match where there is one
(`Automaton.search_isSome_iff`): what has been seen is kept closed under moves, but for the threads
that are still to be followed, and holds no state that accepts. -/
namespace Conlang.Pattern.Automaton

variable {a : Automaton} {t : Subject}

/-! ### Following a thread -/

abbrev Thread.spot (th : Thread) : Spot := (th.state, th.place)

/-- The threads that a thread leaves at a state, or nothing if it is accepted there. -/
def Thread.onward? (t : Subject) (th : Thread) : Way → Option (List Thread)
  | .accept => none
  | .one chars next =>
    match t[th.place]? with
    | some c =>
      some (if chars.contains c then [{ th with state := next, place := th.place + 1 }] else [])
    | none => some []
  | .split first second => some [{ th with state := first }, { th with state := second }]
  | .mark slot next =>
    some [{ th with state := next, slots := th.slots.setIfInBounds slot (some th.place) }]
  | .place kind next => some (if t.holds th.place kind then [{ th with state := next }] else [])

theorem explore_cons (fuel : Nat) (th : Thread) (rest : List Thread) (seen : Array Bool) :
    a.explore t (fuel + 1) (th :: rest) seen =
      if seen.getD (th.state * (t.size + 1) + th.place) true then a.explore t fuel rest seen
      else
        let seen := seen.setIfInBounds (th.state * (t.size + 1) + th.place) true
        match th.onward? t (a.ways.getD th.state .accept) with
        | none => (some th, seen)
        | some threads => a.explore t fuel (threads ++ rest) seen := by
  rw [explore]
  cases a.ways.getD th.state .accept with
  | accept | split | mark => rfl
  | one chars next =>
    simp only [Thread.onward?]
    split
    · rfl
    · cases t[th.place]? with
      | none => rfl
      | some c =>
        simp only
        split <;> rfl
  | place kind next =>
    simp only [Thread.onward?]
    split
    · rfl
    · split <;> rfl

theorem Thread.onward?_eq_none {th : Thread} {w : Way} (h : th.onward? t w = none) :
    w = .accept := by
  cases w with
  | accept => rfl
  | one =>
    rw [Thread.onward?] at h
    split at h <;> cases h
  | split | mark | place => cases h

theorem Thread.onward?_eq_some {th : Thread} {w : Way} {threads : List Thread}
    (h : th.onward? t w = some threads) :
    w ≠ .accept ∧ threads.length ≤ 2 ∧ ∀ s, w.Moves t th.place s ↔
      ∃ th' ∈ threads, s = th'.spot := by
  cases w with
  | accept => cases h
  | one chars next =>
    refine ⟨by simp, ?_⟩
    rw [Thread.onward?] at h
    cases char : t[th.place]? with
    | none =>
      rw [char] at h
      cases h
      simp [Way.Moves, char]
    | some c =>
      rw [char] at h
      cases h
      by_cases among : chars.contains c <;> simp [Way.Moves, char, among]
  | split first second =>
    cases h
    exact ⟨by simp, Nat.le_refl 2, fun s => by simp [Way.Moves]⟩
  | mark slot next =>
    cases h
    exact ⟨by simp, Nat.le_succ 1, fun s => by simp [Way.Moves]⟩
  | place kind next =>
    refine ⟨by simp, ?_⟩
    cases h
    by_cases holds : t.holds th.place kind <;> simp [Way.Moves, holds]

/-! ### What has been seen -/

/-- The state has been entered at the place, or does not exist. -/
def Seen (t : Subject) (seen : Array Bool) (s : Spot) : Prop :=
  seen.getD (s.1 * (t.size + 1) + s.2) true = true

theorem key_inj {s s' : Spot} (le : s.2 ≤ t.size) (le' : s'.2 ≤ t.size)
    (same : s.1 * (t.size + 1) + s.2 = s'.1 * (t.size + 1) + s'.2) : s = s' := by
  have lt : s.2 < t.size + 1 := Nat.lt_succ_of_le le
  have lt' : s'.2 < t.size + 1 := Nat.lt_succ_of_le le'
  have place := congrArg (· % (t.size + 1)) same
  simp only [Nat.mul_add_mod_self_right, Nat.mod_eq_of_lt lt, Nat.mod_eq_of_lt lt'] at place
  rw [place, Nat.add_right_cancel_iff, Nat.mul_right_cancel_iff (Nat.succ_pos _)] at same
  exact Prod.ext same place

theorem seen_mark {seen : Array Bool} {s s' : Spot} (le : s.2 ≤ t.size) (le' : s'.2 ≤ t.size) :
    Seen t (seen.setIfInBounds (s.1 * (t.size + 1) + s.2) true) s' ↔ s' = s ∨ Seen t seen s' := by
  rw [Seen, Seen, Array.getD_eq_getD_getElem?, Array.getElem?_setIfInBounds,
    Array.getD_eq_getD_getElem?]
  split
  next same =>
    obtain rfl := key_inj le le' same
    simp
    split <;> simp
  next other =>
    have ne : s' ≠ s := fun same => other (by rw [same])
    simp [ne]

theorem key_lt {seen : Array Bool} {s : Spot} (new : ¬ Seen t seen s) :
    s.1 * (t.size + 1) + s.2 < seen.size := by
  refine Nat.lt_of_not_le fun beyond => new ?_
  rw [Seen, Array.getD_eq_getD_getElem?, Array.getElem?_eq_none beyond, Option.getD_none]

theorem count_mark {seen : Array Bool} {s : Spot} (new : ¬ Seen t seen s) :
    (seen.setIfInBounds (s.1 * (t.size + 1) + s.2) true).count false + 1 = seen.count false := by
  have lt := key_lt new
  have here : seen[s.1 * (t.size + 1) + s.2] = false := by
    simpa [Seen, Array.getD, lt] using new
  rw [Array.setIfInBounds_def, dif_pos lt, Array.count_set lt, here]
  have some : 0 < seen.count false := Array.count_pos_iff.mpr (here ▸ Array.getElem_mem lt)
  simp
  omega

/-- From what has been seen every move leads to what has been seen or to a thread, and nothing seen
accepts. -/
def Settled (a : Automaton) (t : Subject) (seen : Array Bool) (threads : List Thread) : Prop :=
  ∀ s : Spot, s.2 ≤ t.size → Seen t seen s → a.ways[s.1]? ≠ some .accept ∧
    ∀ s', Moves a.ways t s s' → Seen t seen s' ∨ ∃ th ∈ threads, s' = th.spot

/-- What a search leaves as seen is as large as the automaton and the text. -/
def Fits (a : Automaton) (t : Subject) (seen : Array Bool) : Prop :=
  seen.size = a.ways.size * (t.size + 1)

theorem state_lt {seen : Array Bool} {s : Spot} (fits : Fits a t seen) (new : ¬ Seen t seen s) :
    s.1 < a.ways.size := by
  have lt := key_lt new
  rw [fits] at lt
  exact Nat.lt_of_mul_lt_mul_right (Nat.lt_of_le_of_lt (Nat.le_add_right _ s.2) lt)

/-- What is new is a state of the automaton. -/
theorem way_of_new {seen : Array Bool} {th : Thread} (fits : Fits a t seen)
    (new : ¬ Seen t seen th.spot) :
    a.ways[th.state]? = some (a.ways.getD th.state .accept) := by
  have within : th.state < a.ways.size := state_lt fits new
  simp [Array.getD, within]

theorem Moves.place_le {W : Array Way} {s s' : Spot} (step : Moves W t s s') (le : s.2 ≤ t.size) :
    s'.2 ≤ t.size := by
  obtain ⟨w, -, moves⟩ := step
  cases w with
  | accept => cases moves
  | one chars next =>
    obtain ⟨⟨c, char, -⟩, rfl⟩ := moves
    exact (Array.getElem?_eq_some_iff.mp char).1
  | split first second =>
    rcases moves with rfl | rfl
    · exact le
    · exact le
  | mark slot next =>
    obtain rfl := moves
    exact le
  | place kind next =>
    obtain ⟨-, rfl⟩ := moves
    exact le

/-- What is settled leads to no state that accepts. -/
theorem Settled.not_accept {seen : Array Bool} (settled : Settled a t seen []) {s s' : Spot}
    (le : s.2 ≤ t.size) (seen_s : Seen t seen s)
    (path : Relation.ReflTransGen (Moves a.ways t) s s') : a.ways[s'.1]? ≠ some .accept := by
  have : s'.2 ≤ t.size ∧ Seen t seen s' := by
    induction path with
    | refl => exact ⟨le, seen_s⟩
    | tail _ step ih =>
      refine ⟨step.place_le ih.1, ?_⟩
      rcases (settled _ ih.1 ih.2).2 _ step with seen | ⟨_, none, _⟩
      · exact seen
      · cases none
  exact (settled s' this.1 this.2).1

/-- A thread that is accepted has come from one of those that were to be followed. -/
theorem explore_sound {fuel : Nat} {threads : List Thread} {seen seen' : Array Bool} {th : Thread}
    (fits : Fits a t seen) (found : a.explore t fuel threads seen = (some th, seen')) :
    a.ways[th.state]? = some .accept ∧
      ∃ first ∈ threads, Relation.ReflTransGen (Moves a.ways t) first.spot th.spot := by
  induction fuel generalizing threads seen with
  | zero => cases found
  | succ fuel ih =>
    cases threads with
    | nil => cases found
    | cons first rest =>
      rw [explore_cons] at found
      split at found
      · obtain ⟨accepts, first', mem, path⟩ := ih fits found
        exact ⟨accepts, first', List.mem_cons_of_mem first mem, path⟩
      next new =>
        have here := way_of_new fits new
        simp only at found
        cases goes : first.onward? t (a.ways.getD first.state .accept) with
        | none =>
          rw [goes] at found
          cases found
          exact ⟨by rw [here, Thread.onward?_eq_none goes], th, List.mem_cons_self, .refl⟩
        | some threads =>
          rw [goes] at found
          obtain ⟨accepts, next, mem, path⟩ := ih (by simpa [Fits] using fits) found
          rcases List.mem_append.mp mem with mem | mem
          · have step := ((Thread.onward?_eq_some goes).2.2 next.spot).mpr ⟨next, mem, rfl⟩
            exact ⟨accepts, first, List.mem_cons_self, .head ((moves_of_here here).mpr step) path⟩
          · exact ⟨accepts, next, List.mem_cons_of_mem first mem, path⟩

/-- A thread that stands where something has been seen is not needed. -/
theorem Settled.skip {seen : Array Bool} {first : Thread} {rest : List Thread}
    (settled : Settled a t seen (first :: rest)) (old : Seen t seen first.spot) :
    Settled a t seen rest := by
  intro s le seen_s
  refine ⟨(settled s le seen_s).1, fun s' step => ?_⟩
  rcases (settled s le seen_s).2 s' step with seen | ⟨th, mem, rfl⟩
  · exact .inl seen
  rcases List.mem_cons.mp mem with rfl | mem
  · exact .inl old
  · exact .inr ⟨th, mem, rfl⟩

/-- A thread may be marked as seen if there are threads for all its moves, and it is not one that is
accepted. -/
theorem Settled.follow {seen : Array Bool} {first : Thread} {threads rest : List Thread}
    (settled : Settled a t seen (first :: rest)) (le : first.place ≤ t.size)
    (quiet : a.ways[first.state]? ≠ some .accept)
    (moves : ∀ s, Moves a.ways t first.spot s → ∃ th ∈ threads, s = th.spot) :
    Settled a t (seen.setIfInBounds (first.state * (t.size + 1) + first.place) true)
      (threads ++ rest) := by
  intro s le' seen_s
  have marked {s : Spot} (le' : s.2 ≤ t.size) :
      Seen t (seen.setIfInBounds (first.state * (t.size + 1) + first.place) true) s ↔
      s = first.spot ∨ Seen t seen s :=
    seen_mark (s := first.spot) le le'
  rcases (marked le').mp seen_s with rfl | old
  · refine ⟨quiet, fun s' step => ?_⟩
    obtain ⟨th, mem, rfl⟩ := moves s' step
    exact .inr ⟨th, List.mem_append_left rest mem, rfl⟩
  refine ⟨(settled s le' old).1, fun s' step => ?_⟩
  rcases (settled s le' old).2 s' step with seen' | ⟨th, mem, rfl⟩
  · exact .inl ((marked (step.place_le le')).mpr (.inr seen'))
  rcases List.mem_cons.mp mem with rfl | mem
  · exact .inl ((marked le).mpr (.inl rfl))
  · exact .inr ⟨th, List.mem_append_right threads mem, rfl⟩

/-- A search that accepts nothing has seen all there is to see. -/
theorem explore_complete {fuel : Nat} {threads : List Thread} {seen seen' : Array Bool}
    (fits : Fits a t seen) (enough : 2 * seen.count false + threads.length ≤ fuel)
    (places : ∀ th ∈ threads, th.place ≤ t.size) (settled : Settled a t seen threads)
    (found : a.explore t fuel threads seen = (none, seen')) :
    Fits a t seen' ∧ Settled a t seen' [] ∧ (∀ s, s.2 ≤ t.size → Seen t seen s → Seen t seen' s) ∧
      ∀ th ∈ threads, Seen t seen' th.spot := by
  induction fuel generalizing threads seen with
  | zero =>
    obtain rfl : threads = [] := List.length_eq_zero_iff.mp (by omega)
    cases found
    exact ⟨fits, settled, fun _ _ => id, nofun⟩
  | succ fuel ih =>
    cases threads with
    | nil =>
      cases found
      exact ⟨fits, settled, fun _ _ => id, nofun⟩
    | cons first rest =>
      rw [List.length_cons] at enough
      obtain ⟨le, places⟩ := List.forall_mem_cons.mp places
      rw [explore_cons] at found
      split at found
      next old =>
        obtain ⟨fits, closed, keeps, all⟩ := ih fits (by omega) places (settled.skip old) found
        exact ⟨fits, closed, keeps, List.forall_mem_cons.mpr ⟨keeps _ le old, all⟩⟩
      next new =>
        have here := way_of_new fits new
        simp only at found
        cases goes : first.onward? t (a.ways.getD first.state .accept) with
        | none =>
          rw [goes] at found
          cases found
        | some threads =>
          rw [goes] at found
          obtain ⟨quiet, few, moves⟩ := Thread.onward?_eq_some goes
          have moves' (s) : Moves a.ways t first.spot s ↔ ∃ th ∈ threads, s = th.spot :=
            (moves_of_here here).trans (moves s)
          have count :
            (seen.setIfInBounds (first.state * (t.size + 1) + first.place) true).count false + 1 =
              seen.count false := count_mark (s := first.spot) new
          have places' : ∀ th ∈ threads, th.place ≤ t.size := fun th mem =>
            ((moves' th.spot).mpr ⟨th, mem, rfl⟩).place_le le
          have follows := settled.follow le (by rw [here]; simpa using quiet) fun s => (moves' s).mp
          obtain ⟨fits, closed, keeps, all⟩ :=
            ih (by simpa [Fits] using fits) (by rw [List.length_append]; omega)
            (List.forall_mem_append.mpr ⟨places', places⟩) follows found
          refine ⟨fits, closed, fun s le' old => ?_,
            List.forall_mem_cons.mpr ⟨?_, (List.forall_mem_append.mp all).2⟩⟩
          · exact keeps s le' ((seen_mark (s := first.spot) le le').mpr (.inr old))
          · exact keeps _ le ((seen_mark (s := first.spot) le le).mpr (.inl rfl))

/-! ### Searching -/

/-- The automaton can come from its start at place `i` to a state that accepts at place `j`. -/
def Accepts (a : Automaton) (t : Subject) (i j : Nat) : Prop :=
  ∃ q, Relation.ReflTransGen (Moves a.ways t) (a.start, i) (q, j) ∧ a.ways[q]? = some .accept

theorem fits_unseen : Fits a t (a.unseen t) := by simp [Fits, unseen]

theorem settled_unseen : Settled a t (a.unseen t) [] := by
  intro s le seen_s
  have outside : a.ways[s.1]? = none := by
    refine Array.getElem?_eq_none (Nat.le_of_not_lt fun within => ?_)
    have lt : s.1 * (t.size + 1) + s.2 < a.ways.size * (t.size + 1) := by
      refine Nat.lt_of_lt_of_le (m := s.1 * (t.size + 1) + (t.size + 1)) (by omega) ?_
      rw [← Nat.succ_mul]
      exact Nat.mul_le_mul_right _ within
    simp [Seen, unseen, Array.getD, lt] at seen_s
  refine ⟨by rw [outside]; nofun, ?_⟩
  rintro s' ⟨w, here, -⟩
  cases here.symm.trans outside

theorem enough_fuel {seen : Array Bool} (fits : Fits a t seen) :
    2 * seen.count false + 1 ≤ a.fuel t := by
  have le : seen.count false ≤ seen.size := Array.count_le_size
  rw [fits] at le
  rw [fuel]
  omega

/-- Threads that start where nothing has been seen are accepted where the automaton accepts. -/
theorem explore_start {seen seen' : Array Bool} {slots : Slots} {place : Nat} (fits : Fits a t seen)
    (settled : Settled a t seen []) (le : place ≤ t.size)
    (found : a.explore t (a.fuel t) [⟨a.start, place, slots⟩] seen = (none, seen')) :
    Fits a t seen' ∧ Settled a t seen' [] ∧ ∀ j, ¬ a.Accepts t place j := by
  have begun : Settled a t seen [⟨a.start, place, slots⟩] := fun s le' seen_s =>
    ⟨(settled s le' seen_s).1, fun s' step => ((settled s le' seen_s).2 s' step).imp_right nofun⟩
  obtain ⟨fits, settled, -, all⟩ := explore_complete fits (enough_fuel fits)
    (fun th mem => by rw [List.mem_singleton.mp mem]; exact le) begun found
  refine ⟨fits, settled, ?_⟩
  rintro j ⟨q, path, accepts⟩
  exact settled.not_accept le (all _ List.mem_cons_self) path accepts

theorem matchAt_some {slots place stop : Nat} {found : Slots}
    (h : a.matchAt slots t place = some (stop, found)) : a.Accepts t place stop := by
  rw [matchAt, Option.map_eq_some_iff] at h
  obtain ⟨th, result, same⟩ := h
  obtain ⟨rfl, -⟩ := Prod.mk.inj same
  obtain ⟨accepts, first, mem, path⟩ := explore_sound fits_unseen (Prod.ext result rfl)
  obtain rfl := List.mem_singleton.mp mem
  exact ⟨th.state, path, accepts⟩

theorem Exits.path {W : Array Way} {low : Nat} {s out : Spot} (h : Exits W t low s out) :
    Relation.ReflTransGen (Moves W t) s out := by
  induction h with
  | stop => exact .refl
  | move _ step _ ih => exact .head step ih

theorem build_ok {sizeLimit : Nat} {node : Node} (built : build sizeLimit node = .ok a) :
    badRepeat? node = none ∧ a = ofNode node := by
  rw [build] at built
  split at built
  · cases built
  next ok =>
    split at built
    · cases built
    · exact ⟨ok, (Except.ok.inj built).symm⟩

end Conlang.Pattern.Automaton
