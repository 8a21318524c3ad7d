import Conlang.Proofs.Pattern.Placing

/-! The program of a pattern.

It is the code of the pattern (`alone`): in front of it stands what looks for the beginning of a
match, and behind it what records the end. Here is where its instructions stand, what the simplest
of them do, and what a search reports that accepts. -/
namespace Conlang.Pattern.Machine

/-! ### Where the instructions stand -/

/-- What stands before the code of a pattern. -/
def preamble : Array Instruction := #[.split 3 1, .one (anyChars true), .jump 0, .mark 0]

/-- The program of some code. -/
def alone (code : Array Instruction) (registers : Nat) : Program :=
  ⟨preamble ++ shifted 4 code ++ #[.mark 1, .accept], registers⟩

section
variable {code : Array Instruction} (registers : Nat)

theorem alone_preamble {k : Nat} (lt : k < 4) :
    (alone code registers).code[k]? = preamble[k]? := by
  rw [alone, Array.append_assoc, Array.getElem?_append_left lt]

theorem alone_code {k : Nat} (lt : k < code.size) :
    (alone code registers).code[k + 4]? = some (code[k].shift 4) := by
  simp [alone, preamble, shifted, Array.getElem?_append, lt]

theorem alone_mark : (alone code registers).code[code.size + 4]? = some (.mark 1) := by
  simp [alone, preamble, Nat.add_comm]

theorem alone_accept : (alone code registers).code[code.size + 5]? = some .accept := by
  simp [alone, preamble, Nat.add_comm]

end

section
variable {sizeLimit : Nat} {source : Source} {p : Program}

theorem build_eq_ok (built : build sizeLimit source = .ok p) :
    ∃ body, p.code = preamble ++ body ++ #[.mark 1, .accept] ∧
      code true source.node 4 ⟨source.referred, sizeLimit⟩ (2 * (source.groups + 1)) =
        .ok (body, p.registers) := by
  replace built :
      (code true source.node 4 ⟨source.referred, sizeLimit⟩ (2 * (source.groups + 1)) >>=
        fun made => .ok ⟨preamble ++ made.1 ++ #[.mark 1, .accept], made.2⟩) = Except.ok p := built
  cases body : code true source.node 4 ⟨source.referred, sizeLimit⟩ (2 * (source.groups + 1)) with
  | error e =>
    rw [body] at built
    cases built
  | ok x =>
    rw [body] at built
    obtain rfl := Except.ok.inj built
    exact ⟨x.1, rfl, rfl⟩

/-- The program of a pattern is that of the code it has everywhere. -/
theorem build_alone (built : build sizeLimit source = .ok p) :
    ∃ inner registers, StaysIn inner.size inner ∧ p = alone inner registers ∧
      ∀ base, code true source.node base ⟨source.referred, sizeLimit⟩ (2 * (source.groups + 1)) =
        .ok (shifted base inner, registers) := by
  obtain ⟨body, same, once⟩ := build_eq_ok built
  rcases code_placed true source.node ⟨source.referred, sizeLimit⟩ (2 * (source.groups + 1)) with
    ⟨e, fails⟩ | ⟨inner, registers, stays, builds⟩
  · cases (fails 4).symm.trans once
  · obtain ⟨rfl, rfl⟩ := Prod.mk.inj (Except.ok.inj ((builds 4).symm.trans once))
    exact ⟨inner, p.registers, stays, by rw [alone, ← same], builds⟩

end

/-! ### Single steps -/

section
variable {p : Program} {limits : Limits} {t : Subject} {origin : Nat} {skipped : Bool} {s : State}

theorem step_mark {r : Nat} (here : p.code[s.frame.pc]? = some (.mark r)) :
    step p limits t origin skipped s = (s.save r (some s.frame.place)).next := by
  rw [step]
  simp only [Array.getD_eq_getD_getElem?, here, Option.getD_some]

theorem step_split {first second : Nat} (here : p.code[s.frame.pc]? = some (.split first second)) :
    step p limits t origin skipped s = s.fork limits first second := by
  rw [step]
  simp only [Array.getD_eq_getD_getElem?, here, Option.getD_some]

theorem step_jump {target : Nat} (here : p.code[s.frame.pc]? = some (.jump target)) :
    step p limits t origin skipped s = s.goTo target := by
  rw [step]
  simp only [Array.getD_eq_getD_getElem?, here, Option.getD_some]

theorem State.backtrack_cases (limits : Limits) (s : State) :
    s.stack = [] ∧ s.backtrack limits = .stop (.ok none) ∨
      ∃ frame rest, s.stack = frame :: rest ∧
        (s.backtrack limits = .go ⟨frame, rest, s.height - 1, s.backtracks + 1⟩ ∨
          s.backtrack limits = .stop (.error .backtracks)) := by
  rw [State.backtrack]
  cases s.stack with
  | nil => exact .inl ⟨rfl, rfl⟩
  | cons frame rest =>
    refine .inr ⟨frame, rest, rfl, ?_⟩
    simp only
    split
    · exact .inl rfl
    · exact .inr rfl

/-- A search that accepts reports where the match begins and ends, but never that it begins behind
its end. -/
theorem step_reports {start stop : Nat} (here : p.code.getD s.frame.pc .accept = .accept)
    (two : 2 ≤ p.registers) (size : s.frame.slots.size = p.registers)
    (first : s.frame.slots.start? 0 = some start) (last : s.frame.slots.stop? 0 = some stop) :
    ∃ found, step p limits t origin skipped s = .stop (.ok (some found)) ∧
      found.start? 0 = some (min start stop) ∧ found.stop? 0 = some stop := by
  replace first : s.frame.slots[0]?.join = some start := first
  replace last : s.frame.slots[1]?.join = some stop := last
  have whole (value : Option Nat) : (s.frame.slots.setIfInBounds 0 value).extract 0 p.registers =
      s.frame.slots.setIfInBounds 0 value :=
    Array.extract_eq_self_of_le (Nat.le_of_eq ((Array.size_setIfInBounds ..).trans size))
  rw [step]
  simp only [here, first, last, Option.getD_some, whole]
  refine ⟨_, rfl, ?_, ?_⟩
  · rw [Slots.start?, Array.getElem?_setIfInBounds_self_of_lt (by rw [size]; omega)]
    rfl
  · rw [Slots.stop?, Array.getElem?_setIfInBounds_ne (by decide)]
    exact last

end

/-! ### The beginning of a match -/

/-- The beginning of the match is recorded. -/
structure Begun (registers origin : Nat) (slots : Slots) : Prop where
  start : slots.start? 0 = some origin
  size : slots.size = registers

section
variable {registers origin r : Nat} {slots : Slots}

theorem Begun.set (h : Begun registers origin slots) (pos : 0 < r) (value : Option Nat) :
    Begun registers origin (slots.setIfInBounds r value) := by
  refine ⟨?_, by rw [Array.size_setIfInBounds, h.size]⟩
  rw [Slots.start?, Array.getElem?_setIfInBounds_ne (Nat.ne_of_gt pos)]
  exact h.start

theorem Begun.copy (h : Begun registers origin slots) {groups : List Nat}
    (pos : ∀ g ∈ groups, 0 < g) (found : Slots) :
    Begun registers origin (copyGroups slots found groups) := by
  induction groups generalizing slots with
  | nil => exact h
  | cons g groups ih =>
    obtain ⟨first, rest⟩ := List.forall_mem_cons.mp pos
    exact ih ((h.set (by omega) _).set (by omega) _) rest

end

end Conlang.Pattern.Machine
