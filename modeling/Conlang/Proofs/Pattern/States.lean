import Conlang.Proofs.Pattern.Spans

/-! The states of a plain pattern.

The states built for a node lead from where they begin to the state behind them, and to nothing
else, just as far as the node spans (`Automaton.states_lead`). What they do is seen from the states
below, which were there before: `Exits` follows moves until the first such state. -/
namespace Conlang.Pattern
open Text (CharSet)

/-! ### Moves -/

/-- A state and a place. -/
abbrev Spot := Nat × Nat

/-- Where a state lets a search go on that stands at place `i`. -/
def Way.Moves (t : Subject) (i : Nat) (s : Spot) : Way → Prop
  | .one chars next => (∃ c, t[i]? = some c ∧ chars.contains c = true) ∧ s = (next, i + 1)
  | .split first second => s = (first, i) ∨ s = (second, i)
  | .mark _ next => s = (next, i)
  | .place kind next => t.holds i kind = true ∧ s = (next, i)
  | .accept => False

namespace Automaton

variable {t : Subject}

/-- One move among the given states. -/
def Moves (W : Array Way) (t : Subject) (s s' : Spot) : Prop :=
  ∃ w, W[s.1]? = some w ∧ w.Moves t s.2 s'

theorem moves_of_here {W : Array Way} {w : Way} {q i : Nat} {s : Spot} (here : W[q]? = some w) :
    Moves W t (q, i) s ↔ w.Moves t i s := by
  constructor
  · rintro ⟨w', there, moves⟩
    obtain rfl : w = w' := Option.some.inj (here.symm.trans there)
    exact moves
  · exact fun moves => ⟨w, here, moves⟩

theorem choose_moves (greedy : Bool) {inner outer i : Nat} {s : Spot} :
    (choose greedy inner outer).Moves t i s ↔ s = (inner, i) ∨ s = (outer, i) := by
  cases greedy with
  | true => exact Iff.rfl
  | false => exact or_comm

theorem choose_ne_accept (greedy : Bool) (inner outer : Nat) :
    choose greedy inner outer ≠ .accept := by
  cases greedy <;> exact nofun

/-- Moves through states from `low` on, up to the first below. -/
inductive Exits (W : Array Way) (t : Subject) (low : Nat) : Spot → Spot → Prop
  | stop {s : Spot} (below : s.1 < low) : Exits W t low s s
  | move {s next out : Spot} (within : low ≤ s.1) (step : Moves W t s next)
    (rest : Exits W t low next out) :
      Exits W t low s out

namespace Exits

variable {W : Array Way} {low mid : Nat} {s m out : Spot}

theorem ends_below (h : Exits W t low s out) : out.1 < low := by
  induction h with
  | stop below => exact below
  | move _ _ _ ih => exact ih

theorem of_below (below : s.1 < low) : Exits W t low s out ↔ out = s := by
  constructor
  · intro h
    cases h with
    | stop => rfl
    | move within => omega
  · rintro rfl
    exact .stop below

theorem of_within (within : low ≤ s.1) :
    Exits W t low s out ↔ ∃ next, Moves W t s next ∧ Exits W t low next out := by
  constructor
  · intro h
    cases h with
    | stop below => omega
    | move _ step rest => exact ⟨_, step, rest⟩
  · rintro ⟨next, step, rest⟩
    exact .move within step rest

/-- Moves to the first state below `low` pass the first state below `mid` on their way. -/
theorem through (le : low ≤ mid) :
    Exits W t low s out ↔ ∃ m, Exits W t mid s m ∧ Exits W t low m out := by
  constructor
  · intro h
    induction h with
    | stop below => exact ⟨_, .stop (by omega), .stop below⟩
    | @move s next out within step rest ih =>
      by_cases passed : s.1 < mid
      · exact ⟨s, .stop passed, .move within step rest⟩
      · obtain ⟨m, first, last⟩ := ih
        exact ⟨m, .move (by omega) step first, last⟩
  · rintro ⟨m, first, last⟩
    induction first with
    | stop => exact last
    | move within step _ ih => exact .move (by omega) step (ih last)

/-- Turns of a loop: state `low` chooses between a body that leads back to it and the state that
follows. -/
theorem turns {R : Nat → Nat → Prop} {start next : Nat} (below : next < low)
    (inner : ∀ i out, Exits W t (low + 1) (start, i) out ↔ out.1 = low ∧ R i out.2)
    (moves : ∀ i s, Moves W t (low, i) s ↔ s = (start, i) ∨ s = (next, i)) (i : Nat) :
    Exits W t low (low, i) out ↔ out.1 = next ∧ ∃ n, Turns R n i out.2 := by
  constructor
  · intro h
    -- From anywhere, the moves first come to the loop, if they do, and turn from there.
    have turned : ∀ {s out}, Exits W t low s out → ∃ m, Exits W t (low + 1) s m ∧
        (m = out ∨ m.1 = low ∧ out.1 = next ∧ ∃ n, Turns R n m.2 out.2) := by
      intro s out h
      induction h with
      | @stop s below => exact ⟨s, .stop (by omega), .inl rfl⟩
      | @move s step out within moved rest ih =>
        obtain ⟨m, first, last⟩ := ih
        by_cases inside : low + 1 ≤ s.1
        · exact ⟨m, .move inside moved first, last⟩
        obtain ⟨q, i⟩ := s
        obtain rfl : q = low := by
          simp only at within inside
          omega
        refine ⟨(q, i), .stop (Nat.lt_succ_self q), .inr ⟨rfl, ?_⟩⟩
        rcases (moves i step).mp moved with rfl | rfl
        · obtain ⟨back, turn⟩ := (inner i m).mp first
          rcases last with rfl | ⟨-, same, n, turns⟩
          · exact absurd rest.ends_below (by omega)
          · exact ⟨same, n + 1, m.2, turn, turns⟩
        · obtain rfl := (of_below (Nat.lt_succ_of_lt below)).mp first
          rcases last with rfl | ⟨same, -⟩
          · exact ⟨rfl, 0, rfl⟩
          · exact absurd same (Nat.ne_of_lt below)
    obtain ⟨m, first, last⟩ := turned h
    obtain rfl := (of_below (Nat.lt_succ_self low)).mp first
    rcases last with rfl | ⟨-, result⟩
    · exact absurd h.ends_below (Nat.lt_irrefl low)
    · exact result
  · rintro ⟨same, n, turns⟩
    obtain ⟨q, j⟩ := out
    obtain rfl : q = next := same
    induction n generalizing i with
    | zero =>
      obtain rfl : i = j := turns
      exact .move (Nat.le_refl _) ((moves i _).mpr (.inr rfl)) (.stop below)
    | succ n ih =>
      obtain ⟨k, first, rest⟩ := turns
      refine .move (Nat.le_refl _) ((moves i _).mpr (.inl rfl)) ?_
      exact (through (Nat.le_succ low)).mpr ⟨(low, k), (inner i _).mpr ⟨rfl, first⟩, ih k rest⟩

end Exits

/-! ### Growing -/

/-- More states, none of which accepts; those there are stay. -/
structure Extends (A A' : Array Way) : Prop where
  grows : A.size ≤ A'.size
  keeps : ∀ q < A.size, A'[q]? = A[q]?
  quiet : ∀ q, A.size ≤ q → A'[q]? ≠ some .accept

theorem Extends.refl (A : Array Way) : Extends A A :=
  ⟨Nat.le_refl _, fun _ _ => rfl, fun q le => by simp [Array.getElem?_eq_none le]⟩

theorem Extends.trans {A A' A'' : Array Way} (h : Extends A A') (h' : Extends A' A'') :
    Extends A A'' where
  grows := Nat.le_trans h.grows h'.grows
  keeps q lt := (h'.keeps q (Nat.lt_of_lt_of_le lt h.grows)).trans (h.keeps q lt)
  quiet q le := by
    by_cases old : q < A'.size
    · rw [h'.keeps q old]
      exact h.quiet q le
    · exact h'.quiet q (Nat.le_of_not_lt old)

theorem Extends.push (A : Array Way) {w : Way} (quiet : w ≠ .accept) : Extends A (A.push w) where
  grows := by simp
  keeps q lt := by rw [Array.getElem?_push, if_neg (Nat.ne_of_lt lt)]
  quiet q le := by
    rw [Array.getElem?_push]
    split
    · simpa using quiet
    · simp [Array.getElem?_eq_none le]

/-! ### Leading -/

/-- Among states that are those of `A` from `low` on, state `start` leads to `next` and nowhere else
below `low`, between the places that `R` relates. -/
structure Leads (t : Subject) (low : Nat) (A : Array Way) (start next : Nat)
    (R : Nat → Nat → Prop) : Prop where
  start_lt : start < A.size
  exits : ∀ W : Array Way, (∀ q, low ≤ q → q < A.size → W[q]? = A[q]?) →
    ∀ i out, Exits W t low (start, i) out ↔ out.1 = next ∧ R i out.2

namespace Leads

variable {low mid start next turn : Nat} {A A' : Array Way} {R S : Nat → Nat → Prop}

theorem here (below : next < low) (le : low ≤ A.size) : Leads t low A next next (· = ·) where
  start_lt := Nat.lt_of_lt_of_le below le
  exits W _ i out := by
    rw [Exits.of_below below]
    constructor
    · rintro rfl
      exact ⟨rfl, rfl⟩
    · rintro ⟨same, rfl⟩
      exact Prod.ext same rfl

theorem congr (h : Leads t low A start next R) (same : ∀ i j, R i j ↔ S i j) :
    Leads t low A start next S where
  start_lt := h.start_lt
  exits W agrees i out := by rw [h.exits W agrees, same]

theorem agree (h : Leads t low A start next R) (size : A.size ≤ A'.size)
    (same : ∀ q, low ≤ q → q < A.size → A'[q]? = A[q]?) : Leads t low A' start next R where
  start_lt := Nat.lt_of_lt_of_le h.start_lt size
  exits W agrees :=
    h.exits W fun q le lt => (agrees q le (Nat.lt_of_lt_of_le lt size)).trans (same q le lt)

theorem extend (h : Leads t low A start next R) (ext : Extends A A') :
    Leads t low A' start next R :=
  h.agree ext.grows fun q _ => ext.keeps q

/-- What leads to a state that leads on. -/
theorem trans (le : low ≤ mid) (h : Leads t mid A start turn R) (h' : Leads t low A turn next S) :
    Leads t low A start next fun i j => ∃ k, R i k ∧ S k j where
  start_lt := h.start_lt
  exits W agrees i out := by
    rw [Exits.through le]
    constructor
    · rintro ⟨⟨q, k⟩, first, last⟩
      obtain ⟨rfl, step⟩ := (h.exits W (fun q within => agrees q (by omega)) i _).mp first
      obtain ⟨same, rest⟩ := (h'.exits W agrees k out).mp last
      exact ⟨same, k, step, rest⟩
    · rintro ⟨same, k, step, rest⟩
      exact ⟨(turn, k), (h.exits W (fun q within => agrees q (by omega)) i _).mpr ⟨rfl, step⟩,
        (h'.exits W agrees k out).mpr ⟨same, rest⟩⟩

/-- What leads below the lower bound does not mind the states in between. -/
theorem lower (le : low ≤ mid) (size : mid ≤ A.size) (below : next < low)
    (h : Leads t mid A start next R) :
    Leads t low A start next R :=
  (h.trans le (here below (Nat.le_trans le size))).congr fun i j => by simp

/-- A new state whose moves lead to a state that leads on. -/
theorem push (le : low ≤ A.size) (w : Way) (h : Leads t low A turn next S)
    (moves : ∀ i s, w.Moves t i s ↔ s.1 = turn ∧ R i s.2)
    (quiet : w ≠ .accept) : Leads t low (A.push w) A.size next fun i j => ∃ k, R i k ∧ S k j where
  start_lt := by simp
  exits W agrees i out := by
    have here : W[A.size]? = some w := by
      rw [agrees A.size le (by simp), Array.getElem?_push_size]
    rw [Exits.of_within le]
    have exits := (h.extend (.push A quiet)).exits W agrees
    constructor
    · rintro ⟨⟨q, k⟩, step, rest⟩
      obtain ⟨rfl, first⟩ := (moves i _).mp ((moves_of_here here).mp step)
      obtain ⟨same, last⟩ := (exits k out).mp rest
      exact ⟨same, k, first, last⟩
    · rintro ⟨same, k, first, last⟩
      exact ⟨(turn, k), (moves_of_here here).mpr ((moves i _).mpr ⟨rfl, first⟩),
        (exits k out).mpr ⟨same, last⟩⟩

/-- A new state that chooses between two that lead on. -/
theorem choose (greedy : Bool) (le : low ≤ A.size) {inner outer : Nat}
    (h : Leads t low A inner next R) (h' : Leads t low A outer next S) :
    Leads t low (A.push (Automaton.choose greedy inner outer)) A.size next fun i j =>
      R i j ∨ S i j where
  start_lt := by simp
  exits W agrees i out := by
    have here : W[A.size]? = some (Automaton.choose greedy inner outer) := by
      rw [agrees A.size le (by simp), Array.getElem?_push_size]
    have exits := (h.extend (.push A (choose_ne_accept greedy inner outer))).exits W agrees
    have exits' := (h'.extend (.push A (choose_ne_accept greedy inner outer))).exits W agrees
    rw [Exits.of_within le, and_or_left, ← exits, ← exits']
    constructor
    · rintro ⟨s, step, rest⟩
      rcases (choose_moves greedy).mp ((moves_of_here here).mp step) with rfl | rfl
      · exact .inl rest
      · exact .inr rest
    · rintro (rest | rest)
      · exact ⟨_, (moves_of_here here).mpr ((choose_moves greedy).mpr (.inl rfl)), rest⟩
      · exact ⟨_, (moves_of_here here).mpr ((choose_moves greedy).mpr (.inr rfl)), rest⟩

end Leads

/-! ### Building -/

/-- The states of a build, and where they begin. -/
structure Built (t : Subject) (A : Array Way) (next : Nat) (R : Nat → Nat → Prop)
    (result : Nat × Array Way) : Prop where
  extends_ : Extends A result.2
  leads : Leads t A.size result.2 result.1 next R

/-- Before whatever state it is put, the build leads there as `R` does. -/
def Builds (t : Subject) (build : Nat → Build Nat) (R : Nat → Nat → Prop) : Prop :=
  ∀ (A : Array Way) (next : Nat), next < A.size → Built t A next R (build next A)

namespace Builds

variable {build build' : Nat → Build Nat} {R S : Nat → Nat → Prop}

theorem congr (h : Builds t build R) (same : ∀ i j, R i j ↔ S i j) :
    Builds t build S := fun A next lt =>
  ⟨(h A next lt).extends_, (h A next lt).leads.congr same⟩

theorem pure : Builds t Pure.pure (· = ·) := fun A _ lt => ⟨.refl A, .here lt (Nat.le_refl _)⟩

/-- The second is built first, and the first before it. -/
theorem bind (h : Builds t build R) (h' : Builds t build' S) :
    Builds t (fun next => build' next >>= build) fun i j => ∃ k, R i k ∧ S k j := by
  intro A next lt
  have last := h' A next lt
  have first := h _ _ last.leads.start_lt
  exact ⟨last.extends_.trans first.extends_,
    first.leads.trans last.extends_.grows (last.leads.extend first.extends_)⟩

/-- A single state. -/
theorem add {w : Nat → Way} (moves : ∀ next i s, (w next).Moves t i s ↔ s.1 = next ∧ R i s.2)
    (quiet : ∀ next, w next ≠ .accept) : Builds t (fun next => Automaton.add (w next)) R := by
  intro A next lt
  refine ⟨.push A (quiet next), ?_⟩
  exact ((Leads.here lt (Nat.le_refl _)).push (Nat.le_refl _) (w next) (moves next)
    (quiet next)).congr fun i j => by simp

/-- A choice between two builds, the second of which is built first. -/
theorem or (h : Builds t build R) (h' : Builds t build' S) :
    Builds t (fun next => do
      let second ← build' next
      let first ← build next
      Automaton.add (.split first second)) fun i j => R i j ∨ S i j := by
  intro A next lt
  have last := h' A next lt
  have first := h _ next (Nat.lt_of_lt_of_le lt last.extends_.grows)
  have ext := last.extends_.trans first.extends_
  refine ⟨ext.trans (.push _ nofun), ?_⟩
  have lowered := first.leads.lower last.extends_.grows first.extends_.grows lt
  exact lowered.choose true ext.grows (last.leads.extend first.extends_)

/-- A choice between a build and what follows. -/
theorem orSkip (greedy : Bool) (h : Builds t build R) :
    Builds t (fun next => do
      let start ← build next; Automaton.add (choose greedy start next)) fun i j => R i j ∨
        i = j := by
  intro A next lt
  have body := h A next lt
  refine ⟨body.extends_.trans (.push _ (choose_ne_accept greedy _ _)), ?_⟩
  exact body.leads.choose greedy body.extends_.grows (.here lt body.extends_.grows)

theorem copies (h : Builds t build R) (n : Nat) :
    Builds t (Automaton.copies build n) (Turns R n) := by
  induction n with
  | zero => exact .pure
  | succ n ih => exact (ih.bind h).congr fun i j => Turns.succ_last.symm

theorem options (greedy : Bool) (h : Builds t build R) (n : Nat) :
    Builds t (fun next => Automaton.options greedy build next n) fun i j =>
      ∃ m ≤ n, Turns R m i j := by
  induction n with
  | zero => exact pure.congr fun i j => ⟨fun same => ⟨0, Nat.le_refl 0, same⟩, by
      rintro ⟨m, le, turns⟩
      obtain rfl : m = 0 := Nat.le_zero.mp le
      exact turns⟩
  | succ n ih =>
    refine (orSkip greedy (h.bind ih)).congr fun i j => ?_
    constructor
    · rintro (⟨k, first, m, le, rest⟩ | rfl)
      · exact ⟨m + 1, Nat.succ_le_succ le, k, first, rest⟩
      · exact ⟨0, Nat.zero_le _, rfl⟩
    · rintro ⟨m, le, turns⟩
      cases m with
      | zero => exact .inr turns
      | succ m =>
        obtain ⟨k, first, rest⟩ := turns
        exact .inl ⟨k, first, m, Nat.le_of_succ_le_succ le, rest⟩

/-- A loop: its turning state leads on after any number of turns, and its body after at least
one. -/
theorem loop (greedy : Bool) (h : Builds t build R) {A : Array Way} {next : Nat}
    (lt : next < A.size) :
    ∃ A' turn start, Automaton.loop greedy build next A = ((turn, start), A') ∧ Extends A A' ∧
      Leads t A.size A' turn next (fun i j => ∃ n, Turns R n i j) ∧
      Leads t A.size A' start next (fun i j => ∃ n, Turns R (n + 1) i j) := by
  refine ⟨_, _, _, rfl, ?_⟩
  have body := h (A.push (.split next next)) A.size (by simp)
  generalize build A.size (A.push (.split next next)) = built at body
  obtain ⟨start, A₁⟩ := built
  have grows : A.size + 1 ≤ A₁.size := by simpa using body.extends_.grows
  show Extends A (A₁.setIfInBounds A.size (choose greedy start next)) ∧
    Leads t A.size (A₁.setIfInBounds A.size (choose greedy start next)) A.size next _ ∧
    Leads t A.size (A₁.setIfInBounds A.size (choose greedy start next)) start next _
  generalize set : A₁.setIfInBounds A.size (choose greedy start next) = A₂
  have here : A₂[A.size]? = some (choose greedy start next) := by
    rw [← set, Array.getElem?_setIfInBounds_self_of_lt grows]
  have same : ∀ q, q ≠ A.size → A₂[q]? = A₁[q]? := fun q other => by
    rw [← set, Array.getElem?_setIfInBounds_ne other.symm]
  have size : A₂.size = A₁.size := by rw [← set, Array.size_setIfInBounds]
  have inner : Leads t (A.size + 1) A₂ start A.size R := by
    have leads := body.leads
    rw [Array.size_push] at leads
    exact leads.agree (Nat.le_of_eq size.symm) fun q le _ => same q (Nat.ne_of_gt le)
  have turns : Leads t A.size A₂ A.size next (fun i j => ∃ n, Turns R n i j) :=
    { start_lt := by omega
      exits := fun W agrees i out => by
        refine Exits.turns lt (inner.exits W fun q le => agrees q (Nat.le_of_succ_le le))
          (fun i s => ?_) i
        exact (moves_of_here ((agrees A.size (Nat.le_refl _) (by omega)).trans here)).trans
          (choose_moves greedy) }
  refine ⟨?_, turns, (inner.trans (Nat.le_succ _) turns).congr fun i j => ?_⟩
  · constructor
    · omega
    · intro q old
      have kept := body.extends_.keeps q (by simp; omega)
      rw [Array.getElem?_push, if_neg (Nat.ne_of_lt old)] at kept
      rw [same q (Nat.ne_of_lt old), kept]
    · intro q le
      by_cases turn : q = A.size
      · rw [turn, here]
        simpa using choose_ne_accept greedy start next
      · rw [same q turn]
        exact body.extends_.quiet q (by simp; omega)
  · constructor
    · rintro ⟨k, first, n, rest⟩
      exact ⟨n, k, first, rest⟩
    · rintro ⟨n, k, first, rest⟩
      exact ⟨k, first, n, rest⟩

theorem bounded (greedy nullable : Bool) (h : Builds t build R) {least most : Nat}
    (le : least ≤ most) :
    Builds t (Automaton.repetition least (some most) greedy nullable build)
      fun i j => ∃ n, least ≤ n ∧ n ≤ most ∧ Turns R n i j := by
  have split : Automaton.repetition least (some most) greedy nullable build =
      fun next =>
        Automaton.options greedy build next (most - least) >>= Automaton.copies build least := by
    cases least <;> rfl
  rw [split]
  refine ((h.copies least).bind (h.options greedy (most - least))).congr fun i j => ?_
  constructor
  · rintro ⟨k, first, n, few, rest⟩
    exact ⟨least + n, by omega, by omega, Turns.add.mpr ⟨k, first, rest⟩⟩
  · rintro ⟨n, many, few, turns⟩
    rw [← Nat.add_sub_cancel' many] at turns
    obtain ⟨k, first, rest⟩ := Turns.add.mp turns
    exact ⟨k, first, n - least, by omega, rest⟩

/-- A body that may match nothing is left out by a state of its own. -/
theorem endless_zero (greedy nullable : Bool) (h : Builds t build R) :
    Builds t (Automaton.repetition 0 none greedy nullable build) fun i j => ∃ n, Turns R n i j := by
  intro A next lt
  obtain ⟨A', turn, start, looped, ext, turns, once⟩ := h.loop greedy lt
  cases nullable with
  | false =>
    have built : Automaton.repetition 0 none greedy false build next A = (turn, A') := by
      show (let ((turn, _), A') := Automaton.loop greedy build next A; (turn, A')) = _
      rw [looped]
    rw [built]
    exact ⟨ext, turns⟩
  | true =>
    have built : Automaton.repetition 0 none greedy true build next A =
        (A'.size, A'.push (choose greedy start next)) := by
      show (let ((_, start), A') := Automaton.loop greedy build next A; Automaton.add
        (choose greedy start next) A') = _
      rw [looped]
      rfl
    rw [built]
    refine ⟨ext.trans (.push _ (choose_ne_accept greedy _ _)), ?_⟩
    refine (once.choose greedy ext.grows (.here lt ext.grows)).congr fun i j => ?_
    constructor
    · rintro (⟨n, rest⟩ | rfl)
      · exact ⟨n + 1, rest⟩
      · exact ⟨0, rfl⟩
    · rintro ⟨n, rest⟩
      cases n with
      | zero => exact .inr rest
      | succ n => exact .inl ⟨n, rest⟩

theorem endless_succ (least : Nat) (greedy nullable : Bool) (h : Builds t build R) :
    Builds t (Automaton.repetition (least + 1) none greedy nullable build)
      fun i j => ∃ n, least + 1 ≤ n ∧ Turns R n i j := by
  intro A next lt
  obtain ⟨A', turn, start, looped, ext, turns, once⟩ := h.loop greedy lt
  have built : Automaton.repetition (least + 1) none greedy nullable build next A =
      Automaton.copies build least start A' := by
    show (let ((_, start), A') := Automaton.loop greedy build next A; Automaton.copies build least
      start A') = _
    rw [looped]
  rw [built]
  have first := h.copies least A' start once.start_lt
  refine ⟨ext.trans first.extends_, ?_⟩
  refine (first.leads.trans ext.grows (once.extend first.extends_)).congr fun i j => ?_
  constructor
  · rintro ⟨k, before, n, rest⟩
    exact ⟨least + (n + 1), by omega, Turns.add.mpr ⟨k, before, rest⟩⟩
  · rintro ⟨n, many, turns⟩
    obtain ⟨k, before, rest⟩ := Turns.add.mp (show Turns R (least + (n - (least + 1) + 1)) i j by
      rwa [show least + (n - (least + 1) + 1) = n by omega])
    exact ⟨k, before, _, rest⟩

theorem repetition (least : Nat) (most : Option Nat) (greedy nullable : Bool) (h : Builds t build R)
    (order : ∀ m ∈ most, least ≤ m) :
    Builds t (Automaton.repetition least most greedy nullable build)
      fun i j => ∃ n, least ≤ n ∧ (∀ m ∈ most, n ≤ m) ∧ Turns R n i j := by
  cases most with
  | some m => exact (h.bounded greedy nullable (order m rfl)).congr fun i j => by simp
  | none =>
    cases least with
    | zero => exact (h.endless_zero greedy nullable).congr fun i j => by simp
    | succ least => exact (h.endless_succ least greedy nullable).congr fun i j => by simp

end Builds

/-! ### Nodes -/

theorem singleton_contains {c d : Char} : (CharSet.singleton c).contains d = true ↔ d = c := by
  rw [← Char.toNat_inj]
  simp [CharSet.contains, CharSet.containsCode, CharSet.singleton]
  omega

theorem anyChars_contains {newline : Bool} {c : Char} :
    (anyChars newline).contains c = true ↔ newline = true ∨ c ≠ '\n' := by
  have valid : c.toNat < 0xD800 ∨ 0xDFFF < c.toNat ∧ c.toNat < 0x110000 := c.valid
  have code : c = '\n' ↔ c.toNat = 10 := Char.toNat_inj.symm
  rw [ne_eq, code]
  cases newline <;> simp [anyChars, CharSet.contains, CharSet.containsCode] <;> omega

theorem order_of_badRepeat? {least : Nat} {most : Option Nat} {greedy : Bool} {body : Node}
    (ok : badRepeat? (.rep least most greedy body) = none) :
    (∀ m ∈ most, least ≤ m) ∧ badRepeat? body = none := by
  rw [badRepeat?] at ok
  split at ok
  · cases ok
  · rename_i inRange
    refine ⟨fun m same => ?_, ok⟩
    obtain rfl := Option.mem_def.mp same
    simp at inRange
    omega

theorem badRepeats?_cons {part : Node} {parts : List Node} :
    badRepeats? (part :: parts) = none ↔ badRepeat? part = none ∧ badRepeats? parts = none := by
  rw [badRepeats?]
  cases badRepeat? part <;> simp

theorem bounds_order {least : Nat} {most : Option Nat} (body : Node)
    (order : ∀ m ∈ most, least ≤ m) :
    ∀ m ∈ (bounds least most body).2, (bounds least most body).1 ≤ m := by
  rw [bounds]
  split
  · intro m same
    obtain rfl := Option.mem_some_iff.mp same
    cases most with
    | none => exact Nat.min_le_right least 1
    | some m =>
      have le := order m rfl
      simp only [Option.getD_some]
      omega
  · exact order

/-- A body that takes nothing need not be taken more than once. -/
theorem bounds_turns {least : Nat} {most : Option Nat} {body : Node} (order : ∀ m ∈ most, least ≤ m)
    (i j : Nat) :
    (∃ n, (bounds least most body).1 ≤ n ∧ (∀ m ∈ (bounds least most body).2, n ≤ m) ∧
      Turns (body.Spans t) n i j) ↔
      ∃ n, least ≤ n ∧ (∀ m ∈ most, n ≤ m) ∧ Turns (body.Spans t) n i j := by
  rw [bounds]
  split
  next nothing =>
    have still : ∀ i j, body.Spans t i j → i = j := fun _ _ => Node.Spans.still nothing
    cases least with
    | zero =>
      constructor
      · rintro ⟨n, -, -, turns⟩
        exact ⟨0, Nat.le_refl 0, fun _ _ => Nat.zero_le _, Turns.still_of_still still turns⟩
      · rintro ⟨n, -, -, turns⟩
        exact ⟨0, Nat.le_refl 0, fun _ _ => Nat.zero_le _, Turns.still_of_still still turns⟩
    | succ least =>
      have once : min (most.getD 1) 1 = 1 := by
        cases most with
        | none => rfl
        | some m => exact Nat.min_eq_right (Nat.le_trans (Nat.le_add_left 1 least) (order m rfl))
      constructor
      · rintro ⟨n, many, few, turns⟩
        obtain rfl : n = 0 + 1 := by
          have := few 1 (by rw [once, Option.mem_some_iff])
          omega
        exact ⟨least + 1, Nat.le_refl _, order,
          (Turns.of_still still).mpr ((Turns.of_still still).mp turns)⟩
      · rintro ⟨n, many, -, turns⟩
        obtain ⟨n, rfl⟩ : ∃ k, n = k + 1 := ⟨n - 1, by omega⟩
        refine ⟨0 + 1, by simp, fun m same => ?_,
          (Turns.of_still still).mpr ((Turns.of_still still).mp turns)⟩
        rw [once, Option.mem_some_iff] at same
        omega
  next => exact Iff.rfl

mutual

/-- **The states of a plain pattern lead on from where it may begin to where it may end.** -/
theorem states_builds {referred : List Nat} :
    ∀ {node : Node}, node.plain referred = true → badRepeat? node = none →
    Builds t (states node) (node.Spans t)
  | .empty, _, _ => by
    refine Builds.pure.congr fun i j => ?_
    rw [Node.Spans]
  | .lit c, _, _ => by
    refine Builds.add (fun next i s => ?_) (fun _ => nofun)
    simp only [Way.Moves, singleton_contains, Node.Spans, Prod.ext_iff]
    grind
  | .set chars, _, _ => by
    refine Builds.add (fun next i s => ?_) (fun _ => nofun)
    simp only [Way.Moves, Node.Spans, Prod.ext_iff]
    grind
  | .any newline, _, _ => by
    refine Builds.add (fun next i s => ?_) (fun _ => nofun)
    simp only [Way.Moves, anyChars_contains, Node.Spans, Prod.ext_iff]
    grind
  | .assertion kind, _, _ => by
    refine Builds.add (fun next i s => ?_) (fun _ => nofun)
    simp only [Way.Moves, Node.Spans, Prod.ext_iff]
    grind
  | .seq parts, plain, ok => by
    rw [Node.plain] at plain
    rw [badRepeat?] at ok
    refine (row_builds plain ok).congr fun i j => ?_
    rw [Node.Spans]
  | .alt choices, plain, ok => by
    rw [Node.plain] at plain
    rw [badRepeat?] at ok
    refine (choice_builds plain ok).congr fun i j => ?_
    rw [Node.Spans]
  | .group index body, plain, ok => by
    rw [Node.plain, Bool.and_eq_true] at plain
    rw [badRepeat?] at ok
    have mark (slot : Nat) : Builds t (fun next => add (.mark slot next)) (· = ·) := by
      refine Builds.add (fun next i s => ?_) (fun _ => nofun)
      simp only [Way.Moves, Prod.ext_iff]
      grind
    have inner : Builds t (states body) _ := states_builds plain.1 ok
    refine Builds.congr (((mark (2 * index)).bind inner).bind (mark (2 * index + 1))) fun i j => ?_
    rw [Node.Spans]
    simp
  | .rep least most greedy body, plain, ok => by
    rw [Node.plain] at plain
    obtain ⟨order, ok⟩ := order_of_badRepeat? ok
    refine ((states_builds plain ok).repetition _ _ greedy (body.minSize == 0)
      (bounds_order body order)).congr
      fun i j => ?_
    rw [Node.Spans]
    exact bounds_turns order i j

theorem row_builds {referred : List Nat} :
    ∀ {parts : List Node}, Node.allPlain referred parts = true →
    badRepeats? parts = none → Builds t (row parts) (Node.RowSpans t parts)
  | [], _, _ => Builds.pure.congr fun i j => by rw [Node.RowSpans]
  | part :: parts, plain, ok => by
    rw [Node.allPlain, Bool.and_eq_true] at plain
    rw [badRepeats?_cons] at ok
    refine ((states_builds plain.1 ok.1).bind (row_builds plain.2 ok.2)).congr fun i j => ?_
    rw [Node.RowSpans]

theorem choice_builds {referred : List Nat} :
    ∀ {choices : List Node}, Node.allPlain referred choices = true →
    badRepeats? choices = none → Builds t (choice choices) (Node.ChoiceSpans t choices)
  | [], _, _ => Builds.pure.congr fun i j => by rw [Node.ChoiceSpans]
  | [only], plain, ok => by
    rw [Node.allPlain, Bool.and_eq_true] at plain
    rw [badRepeats?_cons] at ok
    refine (states_builds plain.1 ok.1).congr fun i j => ?_
    rw [Node.ChoiceSpans]
  | first :: second :: rest, plain, ok => by
    rw [Node.allPlain, Bool.and_eq_true] at plain
    rw [badRepeats?_cons] at ok
    refine ((states_builds plain.1 ok.1).or (choice_builds plain.2 ok.2)).congr fun i j => ?_
    rw [Node.choiceSpans_cons]

end

end Automaton

end Conlang.Pattern
