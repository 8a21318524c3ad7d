import Conlang.Proofs.Paradigm.Encoding
import Conlang.Proofs.Paradigm.Spelling
import Mathlib.Data.Set.List
import Mathlib.Tactic.Lift

/-! Which texts name forms.

A text names a form when it is a comma and numerals with a comma behind each, or a numeral alone.
`Grammatical` says so without reading the text: a numeral is told by its characters and by what its
digits come to (`IsNumeral`). Just these texts are read, and their numbers are found in their places
(`parse_accepts_grammar`).

A form that is written anew from its numbers has the text that it had before if each of them was
spelled without a sign and without zeros in front (`IsTerse`). -/
namespace Conlang

namespace Text

variable {part : List Char}

/-! ### Numerals -/

/-- What stands behind the plus sign, if there is one. -/
def unsigned : List Char → List Char
  | '+' :: digits => digits
  | digits => digits

/-- What the digits of a text come to. -/
def amount (part : List Char) : Nat := Nat.ofDigitChars 10 (unsigned part) 0

/-- One digit or more, perhaps behind a plus sign, that come to a number of 32 bits. -/
structure IsNumeral (part : List Char) : Prop where
  nonempty : unsigned part ≠ []
  digits : ∀ c ∈ unsigned part, c.isDigit = true
  fits : amount part ≤ 4294967295

theorem unsigned_of_ne (bare : ∀ digits, part ≠ '+' :: digits) : unsigned part = part := by
  unfold unsigned
  split
  · exact absurd rfl (bare _)
  · rfl

theorem value_of_readDigits {l : List Char} {n : Nat} {value : UInt32} (below : n < UInt32.size)
    (h : readDigits n l = .ok value) : Nat.ofDigitChars 10 l n = value.toNat := by
  induction l generalizing n with
  | nil =>
    obtain rfl := Except.ok.inj h
    exact (Nat.mod_eq_of_lt below).symm
  | cons c rest ih =>
    have digit : c.isDigit = true := Numeral.isDigit_of_readDigits h c (List.mem_cons_self ..)
    rw [readDigits, Numeral.digit?_of_isDigit digit] at h
    simp only at h
    split at h
    next fits =>
      rw [Nat.ofDigitChars_cons, Nat.mul_comm]
      exact ih fits h
    next => cases h

theorem readNumber_of_ne_nil (h : unsigned part ≠ []) :
    readNumber part = readDigits 0 (unsigned part) := by
  unfold readNumber
  split
  · exact absurd rfl h
  · exact absurd rfl h
  · rfl
  next bare => rw [unsigned_of_ne bare]

theorem readNumber_of_nil (h : unsigned part = []) : ∃ fault, readNumber part = .error fault := by
  unfold unsigned at h
  split at h
  · subst h
    exact ⟨.invalidDigit, rfl⟩
  · subst h
    exact ⟨.empty, rfl⟩

/-- A text is read as a number if it is a numeral, and the number is what its digits come to. -/
theorem readNumber_eq_ok_iff {value : UInt32} :
    readNumber part = .ok value ↔ IsNumeral part ∧ amount part = value.toNat := by
  by_cases empty : unsigned part = []
  · obtain ⟨fault, refused⟩ := readNumber_of_nil empty
    rw [refused]
    exact iff_of_false nofun fun h => h.1.nonempty empty
  · rw [readNumber_of_ne_nil empty]
    constructor
    · intro reads
      have amounts : amount part = value.toNat := value_of_readDigits (by decide) reads
      have below : value.toNat < 4294967296 := value.toNat_lt
      exact ⟨⟨empty, Numeral.isDigit_of_readDigits reads, by omega⟩, amounts⟩
    · intro ⟨numeral, amounts⟩
      have fits : Nat.ofDigitChars 10 (unsigned part) 0 < UInt32.size :=
        Nat.lt_succ_of_le numeral.fits
      rw [Numeral.readDigits_of_isDigit numeral.digits fits]
      show Except.ok (UInt32.ofNat (amount part)) = .ok value
      rw [amounts, UInt32.ofNat_toNat]

/-! ### Spelling -/

/-- No sign, and no zero in front of another digit. -/
structure IsTerse (part : List Char) : Prop where
  unsigned : ∀ rest, part ≠ '+' :: rest
  unpadded : ∀ c rest, part ≠ '0' :: c :: rest

namespace Numeral

theorem isNumeral (n : Numeral) : IsNumeral n.chars := (readNumber_eq_ok_iff.mp n.reads).1

theorem amount_chars (n : Numeral) : amount n.chars = n.value.toNat :=
  (readNumber_eq_ok_iff.mp n.reads).2

instance : CanLift (List Char) Numeral chars IsNumeral where
  prf part numeral := by
    have below : amount part < UInt32.size := Nat.lt_succ_of_le numeral.fits
    have reads : readNumber part = .ok (.ofNat (amount part)) :=
      readNumber_eq_ok_iff.mpr ⟨numeral, (Nat.mod_eq_of_lt below).symm⟩
    exact ⟨⟨part, _, reads⟩, rfl⟩

theorem decimal_zero_cons {n : Nat} {rest : List Char} (h : decimal n = '0' :: rest) :
    rest = [] := by
  induction n using Nat.strongRecOn generalizing rest with
  | ind n ih =>
    by_cases small : n < 10
    · rw [decimal, Nat.toDigits_of_lt_base small] at h
      exact (List.cons.inj h).2.symm
    · -- The digits in front of the last one are those of the tenth part, which is not zero.
      rw [decimal, Nat.toDigits_of_base_le (by decide) (Nat.le_of_not_lt small)] at h
      obtain ⟨c, front, cut⟩ :=
        List.exists_cons_of_ne_nil (Nat.toDigits_ne_nil (n := n / 10) (b := 10))
      rw [cut, List.cons_append] at h
      obtain ⟨rfl, -⟩ := List.cons.inj h
      obtain rfl := ih (n / 10) (by omega) cut
      have none : n / 10 = 0 := by
        rw [← Nat.ofDigitChars_ten_toDigits (n := n / 10), cut]
        rfl
      omega

theorem decimal_digit {c : Char} (digit : c.isDigit = true) :
    c.toNat - 48 < 10 ∧ decimal (c.toNat - 48) = [c] := by
  have bounds : 48 ≤ c.toNat ∧ c.toNat ≤ 57 := by
    simpa [Char.isDigit, UInt32.le_iff_toNat_le] using digit
  have small : c.toNat - 48 < 10 := by omega
  have same : (c.toNat - 48).digitChar.toNat = c.toNat := by
    rw [Nat.toNat_digitChar_of_lt_ten small]
    omega
  exact ⟨small, by rw [decimal, Nat.toDigits_of_lt_base small, Char.toNat_inj.mp same]⟩

/-- Behind a number that is not zero any digits may stand. -/
theorem decimal_append {n : Nat} {l : List Char} (pos : 0 < n)
    (digits : ∀ c ∈ l, c.isDigit = true) :
    decimal n ++ l = decimal (Nat.ofDigitChars 10 l n) := by
  induction l generalizing n with
  | nil => exact List.append_nil _
  | cons c rest ih =>
    obtain ⟨digit, others⟩ := List.forall_mem_cons.mp digits
    obtain ⟨small, single⟩ := decimal_digit digit
    calc decimal n ++ c :: rest
      _ = (decimal n ++ decimal (c.toNat - 48)) ++ rest := by
        rw [single, List.append_assoc, List.singleton_append]
      _ = decimal (10 * n + (c.toNat - 48)) ++ rest := by
        rw [decimal, decimal, decimal, Nat.toDigits_append_toDigits (by decide) pos small]
      _ = decimal (Nat.ofDigitChars 10 (c :: rest) n) := ih (by omega) others

theorem decimal_ofDigitChars {l : List Char} (nonempty : l ≠ [])
    (digits : ∀ c ∈ l, c.isDigit = true) (unpadded : ∀ c rest, l ≠ '0' :: c :: rest) :
    decimal (Nat.ofDigitChars 10 l 0) = l := by
  obtain ⟨c, rest, rfl⟩ := List.exists_cons_of_ne_nil nonempty
  obtain ⟨digit, others⟩ := List.forall_mem_cons.mp digits
  obtain ⟨-, single⟩ := decimal_digit digit
  rw [Nat.ofDigitChars_cons, Nat.mul_zero, Nat.zero_add]
  show decimal (Nat.ofDigitChars 10 rest (c.toNat - 48)) = c :: rest
  rcases Nat.eq_zero_or_pos (c.toNat - 48) with zero | pos
  · obtain rfl : c = '0' := by
      rw [zero] at single
      exact (List.singleton_inj.mp single).symm
    cases rest with
    | nil => rfl
    | cons d rest => exact absurd rfl (unpadded d rest)
  · rw [← decimal_append pos others, single, List.singleton_append]

/-- A numeral is the shortest one of its number if it has no sign and no zeros in front. -/
theorem ofNumber_eq_iff {n : Numeral} : ofNumber n.value = n ↔ IsTerse n.chars := by
  constructor
  · intro same
    have spelled : n.chars = decimal n.value.toNat := (congrArg chars same).symm
    rw [spelled]
    refine ⟨fun rest signed => ?_, fun c rest padded => ?_⟩
    · have digit : '+'.isDigit = true :=
        Nat.isDigit_of_mem_toDigits (b := 10) (by decide) (by decide)
          (signed ▸ List.mem_cons_self ..)
      exact absurd digit (by decide)
    · exact absurd (decimal_zero_cons padded) (List.cons_ne_nil c rest)
  · intro terse
    have bare := unsigned_of_ne terse.unsigned
    have numeral := n.isNumeral
    apply ext_chars
    show decimal n.value.toNat = n.chars
    rw [← n.amount_chars, amount, bare]
    exact decimal_ofDigitChars (bare ▸ numeral.nonempty) (bare ▸ numeral.digits) terse.unpadded

end Numeral

end Text

open Text

/-! ### Combinations -/

/-- Texts with a comma behind each. -/
def closed (parts : List (List Char)) : List Char := parts.flatMap (· ++ [','])

/-- A comma and numerals with a comma behind each, or a numeral alone. -/
inductive Grammatical : List Char → Prop
  | cell {parts} : (∀ part ∈ parts, IsNumeral part) → Grammatical (',' :: closed parts)
  | extra {part} : IsNumeral part → Grammatical part

namespace Combination

theorem slotChars_eq (slots : List Numeral) : slotChars slots = closed (slots.map (·.chars)) := by
  rw [closed, List.flatMap_map]
  rfl

theorem isNumeral_slots (slots : List Numeral) : ∀ part ∈ slots.map (·.chars), IsNumeral part :=
  List.forall_mem_map.mpr fun n _ => n.isNumeral

theorem grammatical_iff {s : List Char} : Grammatical s ↔ ∃ c : Combination, c.chars = s := by
  constructor
  · intro grammatical
    cases grammatical with
    | @cell parts each =>
      lift parts to List Numeral using each
      exact ⟨.cell parts, by rw [chars, slotChars_eq]⟩
    | extra numeral =>
      lift s to Numeral using numeral
      exact ⟨.extra s, rfl⟩
  · intro spelled
    obtain ⟨c, rfl⟩ := spelled
    cases c with
    | cell slots =>
      rw [chars, slotChars_eq]
      exact .cell (isNumeral_slots slots)
    | extra form => exact .extra form.isNumeral

/-- A cell has a comma in front, and one behind each slot. -/
theorem count_comma (slots : List Numeral) :
    (chars (.cell slots)).count ',' = slots.length + 1 := by
  have behind : (slotChars slots).count ',' = slots.length := by
    induction slots with
    | nil => rfl
    | cons n rest ih =>
      rw [slotChars, List.flatMap_cons, List.count_append, List.count_append,
        List.count_eq_zero.mpr n.comma_notMem, List.count_singleton_self, List.length_cons]
      show 0 + 1 + (slotChars rest).count ',' = rest.length + 1
      omega
  rw [chars, List.count_cons_self, behind]

/-- The numbers of a cell spell its text if each slot is spelled in the shortest way. -/
theorem ofValues_eq_iff {slots : List Numeral} :
    ofValues (slots.map (·.value)) = .cell slots ↔ ∀ part ∈ slots.map (·.chars), IsTerse part := by
  rw [ofValues, List.map_map, cell.injEq, List.forall_mem_map]
  calc slots.map (Numeral.ofNumber ∘ (·.value)) = slots
    _ ↔ slots.map (Numeral.ofNumber ∘ (·.value)) = slots.map id := by rw [List.map_id]
    _ ↔ ∀ n ∈ slots, Numeral.ofNumber n.value = n := List.map_inj_left
    _ ↔ ∀ n ∈ slots, IsTerse n.chars := forall₂_congr fun n _ => Numeral.ofNumber_eq_iff

theorem toList_text (c : Combination) : c.text.toList = c.chars := String.toList_ofList

theorem text_eq_iff {c : Combination} {raw : String} : c.text = raw ↔ c.chars = raw.toList := by
  rw [← String.toList_inj, toList_text]

theorem text_inj {c d : Combination} : c.text = d.text ↔ c = d := ⟨text_injective, congrArg text⟩

/-- **Just the texts of the grammar are read, and their numbers are found in their places.** A text
that is read is kept as it is. It has a comma more than the cell has slots, each slot has the number
that is spelled there, and decoding the text passes nothing over. An extra form has the number that
its text spells. Written anew from its numbers, the form has the same text if all of them were
spelled in the shortest way. Any other text is reported. -/
theorem parse_accepts_grammar (raw : String) :
    ((∃ c, parse raw = .ok c) ↔ Grammatical raw.toList) ∧
    (¬Grammatical raw.toList → parse raw = .error ⟨raw⟩) ∧
    ∀ c, parse raw = .ok c →
      c.text = raw ∧ spelledValues raw.toList = c.values ∧ spelledForm? raw.toList = c.form? ∧
      (c.isCell = true → ∃ parts, raw.toList = ',' :: closed parts ∧
        (∀ part ∈ parts, IsNumeral part) ∧
        c.values.length + 1 = raw.toList.count ',' ∧
        (∀ slot, (c.valueAt? slot).map (·.toNat) = parts[slot]?.map amount) ∧
        ((ofValues c.values).text = raw ↔ ∀ part ∈ parts, IsTerse part)) ∧
      (c.isCell = false → ∃ form, c.form? = some form ∧ IsNumeral raw.toList ∧
        form.toNat = amount raw.toList ∧
        ((ofForm form).text = raw ↔ IsTerse raw.toList)) := by
  refine ⟨?_, ?_, ?_⟩
  · rw [grammatical_iff]
    exact exists_congr fun c => parse_eq_ok_iff.trans (eq_comm.trans text_eq_iff)
  · intro other
    rw [parse]
    split
    next c reads => exact absurd (grammatical_iff.mpr ⟨c, chars_of_read reads⟩) other
    next => rfl
  · intro c parsed
    obtain rfl := parse_eq_ok_iff.mp parsed
    rw [toList_text]
    refine ⟨rfl, spelledValues_chars c, spelledForm?_chars c, ?_, ?_⟩
    · intro isCell
      cases c with
      | extra form => cases isCell
      | cell slots =>
        refine ⟨slots.map (·.chars), by rw [chars, slotChars_eq], isNumeral_slots slots, ?_,
          fun slot => ?_, ?_⟩
        · rw [count_comma, values, List.length_map]
        · rw [valueAt?, values, List.getElem?_map, List.getElem?_map, Option.map_map,
            Option.map_map]
          exact congrArg (slots[slot]?.map ·) (funext fun n => n.amount_chars.symm)
        · exact text_inj.trans ofValues_eq_iff
    · intro isExtra
      cases c with
      | cell slots => cases isExtra
      | extra form =>
        refine ⟨form.value, rfl, form.isNumeral, form.amount_chars.symm, ?_⟩
        rw [text_inj, ofForm, extra.injEq]
        exact Numeral.ofNumber_eq_iff

end Combination

end Conlang
