import Conlang.Pattern.Automaton

/-! What a plain pattern matches.

`Node.Spans` says between which places of a text a pattern matches, whatever a search would prefer:
each choice is open, and a repetition takes as many turns as its bounds let it. Only plain patterns
are described so; any other spans nothing. -/
namespace Conlang.Pattern
open Text (CharSet)

/-! ### Turns -/

/-- `n` turns of a relation between places. -/
def Turns (R : Nat → Nat → Prop) : Nat → Nat → Nat → Prop
  | 0, i, j => i = j
  | n + 1, i, j => ∃ k, R i k ∧ Turns R n k j

namespace Turns

variable {R : Nat → Nat → Prop}

theorem one {i j : Nat} : Turns R 1 i j ↔ R i j := by
  constructor
  · rintro ⟨k, step, rfl⟩
    exact step
  · exact fun step => ⟨j, step, rfl⟩

/-- The last turn may be told apart as well as the first. -/
theorem succ_last {n i j : Nat} : Turns R (n + 1) i j ↔ ∃ k, Turns R n i k ∧ R k j := by
  induction n generalizing i with
  | zero =>
    rw [Turns.one]
    constructor
    · exact fun step => ⟨i, rfl, step⟩
    · rintro ⟨k, rfl, step⟩
      exact step
  | succ n ih =>
    constructor
    · rintro ⟨k, first, rest⟩
      obtain ⟨l, middle, last⟩ := ih.mp rest
      exact ⟨l, ⟨k, first, middle⟩, last⟩
    · rintro ⟨l, ⟨k, first, middle⟩, last⟩
      exact ⟨k, first, ih.mpr ⟨l, middle, last⟩⟩

theorem add {m n i j : Nat} : Turns R (m + n) i j ↔ ∃ k, Turns R m i k ∧ Turns R n k j := by
  induction m generalizing i with
  | zero =>
    rw [Nat.zero_add]
    constructor
    · exact fun turns => ⟨i, rfl, turns⟩
    · rintro ⟨k, rfl, turns⟩
      exact turns
  | succ m ih =>
    rw [Nat.succ_add]
    constructor
    · rintro ⟨k, first, rest⟩
      obtain ⟨l, before, after⟩ := ih.mp rest
      exact ⟨l, ⟨k, first, before⟩, after⟩
    · rintro ⟨l, ⟨k, first, before⟩, after⟩
      exact ⟨k, first, ih.mpr ⟨l, before, after⟩⟩

/-- Turns that do not move on come down to one. -/
theorem of_still (still : ∀ i j, R i j → i = j) {n i j : Nat} : Turns R (n + 1) i j ↔ R i j := by
  induction n generalizing i with
  | zero => exact one
  | succ n ih =>
    constructor
    · rintro ⟨k, first, rest⟩
      obtain rfl := still i k first
      exact ih.mp rest
    · intro step
      obtain rfl := still i j step
      exact ⟨i, step, ih.mpr step⟩

theorem still_of_still (still : ∀ i j, R i j → i = j) {n i j : Nat} (turns : Turns R n i j) :
    i = j := by
  cases n with
  | zero => exact turns
  | succ n => exact still i j ((of_still still).mp turns)

end Turns

/-! ### Patterns -/

namespace Node

variable (t : Subject)

mutual

/-- The pattern matches the text from place `i` to place `j`. -/
def Spans : Node → Nat → Nat → Prop
  | .empty, i, j => i = j
  | .lit c, i, j => t[i]? = some c ∧ j = i + 1
  | .set chars, i, j => (∃ c, t[i]? = some c ∧ chars.contains c = true) ∧ j = i + 1
  | .any newline, i, j => (∃ c, t[i]? = some c ∧ (newline = true ∨ c ≠ '\n')) ∧ j = i + 1
  | .assertion kind, i, j => t.holds i kind = true ∧ i = j
  | .seq parts, i, j => RowSpans parts i j
  | .alt choices, i, j => ChoiceSpans choices i j
  | .group _ body, i, j => body.Spans i j
  | .rep least most _ body, i, j => ∃ n, least ≤ n ∧ (∀ m ∈ most, n ≤ m) ∧ Turns body.Spans n i j
  | _, _, _ => False

def RowSpans : List Node → Nat → Nat → Prop
  | [], i, j => i = j
  | part :: parts, i, j => ∃ k, part.Spans i k ∧ RowSpans parts k j

/-- No alternatives at all are an empty pattern. -/
def ChoiceSpans : List Node → Nat → Nat → Prop
  | [], i, j => i = j
  | [only], i, j => only.Spans i j
  | first :: rest, i, j => first.Spans i j ∨ ChoiceSpans rest i j

end

variable {t}

theorem choiceSpans_cons {first second : Node} {rest : List Node} {i j : Nat} :
    ChoiceSpans t (first :: second :: rest) i j ↔ first.Spans t i j ∨
    ChoiceSpans t (second :: rest) i j := by
  rw [ChoiceSpans]
  exact nofun

mutual

/-- A pattern that takes nothing ends where it begins. -/
theorem Spans.still :
    ∀ {node : Node}, node.takesNothing = true → ∀ {i j : Nat}, node.Spans t i j → i = j
  | .empty, _, _, _, spans => by simpa only [Spans] using spans
  | .assertion _, _, _, _, spans => by
    rw [Spans] at spans
    exact spans.2
  | .seq parts, nothing, _, _, spans => by
    rw [takesNothing] at nothing
    rw [Spans] at spans
    exact RowSpans.still nothing spans
  | .alt choices, nothing, _, _, spans => by
    rw [takesNothing] at nothing
    rw [Spans] at spans
    exact ChoiceSpans.still nothing spans
  | .group _ body, nothing, _, _, spans => by
    rw [takesNothing] at nothing
    rw [Spans] at spans
    exact Spans.still nothing spans
  | .rep least most _ body, nothing, i, j, spans => by
    rw [takesNothing, Bool.or_eq_true, beq_iff_eq] at nothing
    rw [Spans] at spans
    obtain ⟨n, -, few, turns⟩ := spans
    rcases nothing with none | nothing
    · obtain rfl : n = 0 := Nat.le_zero.mp (few 0 (by rw [none, Option.mem_some_iff]))
      exact turns
    · exact Turns.still_of_still (fun _ _ => Spans.still nothing) turns

theorem RowSpans.still : ∀ {parts : List Node}, allTakeNothing parts = true →
    ∀ {i j : Nat}, RowSpans t parts i j → i = j
  | [], _, _, _, spans => by simpa only [RowSpans] using spans
  | part :: parts, nothing, i, j, spans => by
    rw [allTakeNothing, Bool.and_eq_true] at nothing
    rw [RowSpans] at spans
    obtain ⟨k, first, rest⟩ := spans
    exact (Spans.still nothing.1 first).trans (RowSpans.still nothing.2 rest)

theorem ChoiceSpans.still : ∀ {choices : List Node}, allTakeNothing choices = true →
    ∀ {i j : Nat}, ChoiceSpans t choices i j → i = j
  | [], _, _, _, spans => by simpa only [ChoiceSpans] using spans
  | [only], nothing, _, _, spans => by
    rw [allTakeNothing, Bool.and_eq_true] at nothing
    rw [ChoiceSpans] at spans
    exact Spans.still nothing.1 spans
  | first :: second :: rest, nothing, i, j, spans => by
    rw [allTakeNothing, Bool.and_eq_true] at nothing
    rcases choiceSpans_cons.mp spans with spans | spans
    · exact Spans.still nothing.1 spans
    · exact ChoiceSpans.still nothing.2 spans

end

end Node

end Conlang.Pattern
