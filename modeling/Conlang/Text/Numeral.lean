/-! Written numbers.

A numeral is a row of decimal digits, perhaps behind a plus sign, that comes to a number of 32 bits.
Leading zeros count as spelling only, so one number has many numerals; `Numeral.ofNumber` writes the
shortest. -/
namespace Conlang.Text

/-- Why a text is no numeral. -/
inductive NumeralFault where
  | empty
  | invalidDigit
  | tooLarge
  deriving Repr, DecidableEq

namespace NumeralFault

def message : NumeralFault → String
  | .empty => "cannot parse integer from empty string"
  | .invalidDigit => "invalid digit found in string"
  | .tooLarge => "number too large to fit in target type"

end NumeralFault

def digit? (c : Char) : Option Nat := if c.isDigit then some (c.toNat - '0'.toNat) else none

/-- Reads digits behind those that come to `n`. The first character that is no digit, or makes the
number too large, decides. -/
def readDigits (n : Nat) : List Char → Except NumeralFault UInt32
  | [] => .ok (.ofNat n)
  | c :: rest =>
    match digit? c with
    | none => .error .invalidDigit
    | some d => if n * 10 + d < UInt32.size then readDigits (n * 10 + d) rest else .error .tooLarge

/-- A sign stands in front of digits only. -/
def readNumber : List Char → Except NumeralFault UInt32
  | [] => .error .empty
  | ['+'] => .error .invalidDigit
  | '+' :: digits => readDigits 0 digits
  | digits => readDigits 0 digits

/-- A number together with its spelling. -/
structure Numeral where
  chars : List Char
  value : UInt32
  reads : readNumber chars = .ok value
  deriving DecidableEq

namespace Numeral

def read (chars : List Char) : Except NumeralFault Numeral :=
  match h : readNumber chars with
  | .ok value => .ok ⟨chars, value, h⟩
  | .error e => .error e

theorem ext_chars {a b : Numeral} (h : a.chars = b.chars) : a = b := by
  obtain ⟨as, av, ha⟩ := a
  obtain ⟨bs, bv, hb⟩ := b
  subst h
  simp only [ha, Except.ok.injEq] at hb
  subst hb
  rfl

theorem read_chars (n : Numeral) : read n.chars = .ok n := by
  unfold read
  split
  · next value h =>
    rw [n.reads] at h
    cases h
    rfl
  · next e h =>
    rw [n.reads] at h
    cases h

/-! ### What numerals are made of -/

theorem isDigit_of_readDigits {l : List Char} {n : Nat} {value : UInt32}
    (h : readDigits n l = .ok value) :
    ∀ c ∈ l, c.isDigit = true := by
  induction l generalizing n with
  | nil => simp
  | cons c rest ih =>
    rw [readDigits] at h
    by_cases digit : c.isDigit = true
    · simp only [digit?, digit, if_true] at h
      split at h
      · simpa [digit] using ih h
      · cases h
    · simp [digit?, digit] at h

theorem isDigit_or_plus (n : Numeral) : ∀ c ∈ n.chars, c.isDigit = true ∨ c = '+' := by
  have reads := n.reads
  intro c hc
  unfold readNumber at reads
  split at reads
  · cases reads
  · cases reads
  · next digits _ eq =>
    rw [eq] at hc
    rcases List.mem_cons.mp hc with rfl | hc
    · exact .inr rfl
    · exact .inl (isDigit_of_readDigits reads c hc)
  · exact .inl (isDigit_of_readDigits reads c hc)

theorem comma_notMem (n : Numeral) : ',' ∉ n.chars := fun h => by
  rcases n.isDigit_or_plus _ h with h | h
  · exact absurd h (by decide)
  · exact absurd h (by decide)

/-! ### The shortest numeral -/

def decimal (n : Nat) : List Char := Nat.toDigits 10 n

theorem digit?_of_isDigit {c : Char} (h : c.isDigit = true) :
    digit? c = some (c.toNat - '0'.toNat) := by
  simp [digit?, h]

theorem le_ofDigitChars (l : List Char) (n : Nat) : n ≤ Nat.ofDigitChars 10 l n := by
  induction l generalizing n with
  | nil => simp
  | cons c rest ih =>
    rw [Nat.ofDigitChars_cons]
    exact Nat.le_trans (by omega) (ih _)

theorem readDigits_of_isDigit {l : List Char} (digits : ∀ c ∈ l, c.isDigit = true) {n : Nat}
    (fits : Nat.ofDigitChars 10 l n < UInt32.size) :
    readDigits n l = .ok (.ofNat (Nat.ofDigitChars 10 l n)) := by
  induction l generalizing n with
  | nil => simp [readDigits]
  | cons c rest ih =>
    have hc : c.isDigit = true := digits c (by simp)
    rw [Nat.ofDigitChars_cons] at fits ⊢
    have below := Nat.lt_of_le_of_lt (le_ofDigitChars rest _) fits
    rw [Nat.mul_comm] at below
    rw [readDigits, digit?_of_isDigit hc]
    simp only [if_pos below]
    rw [Nat.mul_comm n 10]
    exact ih (fun d hd => digits d (by simp [hd])) fits

theorem readNumber_decimal (n : UInt32) : readNumber (decimal n.toNat) = .ok n := by
  have digits : ∀ c ∈ decimal n.toNat, c.isDigit = true := fun c hc =>
    Nat.isDigit_of_mem_toDigits (by decide) (by decide) hc
  have back : Nat.ofDigitChars 10 (decimal n.toNat) 0 = n.toNat :=
    Nat.ofDigitChars_toDigits (by decide) (by decide)
  have fits : Nat.ofDigitChars 10 (decimal n.toNat) 0 < UInt32.size := by
    rw [back]; exact n.toNat_lt
  have whole := readDigits_of_isDigit digits fits
  rw [back] at whole
  have number : readDigits 0 (decimal n.toNat) = .ok n := by simpa using whole
  have nonempty : decimal n.toNat ≠ [] := Nat.toDigits_ne_nil
  cases h : decimal n.toNat with
  | nil => exact absurd h nonempty
  | cons c rest =>
    have hc : c ≠ '+' := by
      rintro rfl
      exact absurd (digits '+' (by simp [h])) (by decide)
    rw [h] at number
    rw [readNumber]
    · exact number
    · simp
    · intro eq; simp_all
    · intro ds eq; simp_all

/-- The numeral without a sign and without leading zeros. -/
def ofNumber (n : UInt32) : Numeral := ⟨decimal n.toNat, n, readNumber_decimal n⟩

end Numeral

end Conlang.Text
