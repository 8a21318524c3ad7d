import Conlang.Proofs.Pattern.Scanning

/-! Finding lookarounds byte by byte.

A scanner may also go through the bytes of a text. It then keeps a flag for an escape and one for a
class, remembers at which byte the members of the class begin, and slices the text to see what
follows a bracket or a parenthesis. Although it knows nothing of characters that have more than one
byte, and skips just one behind a backslash, it is where the scanner for characters is (`Agrees`),
so both find the same, and it slices only between characters (`scanBytes_eq`). -/
namespace Conlang.Pattern.Lookaround

/-- The bytes of a text. -/
def bytes (s : List Char) : List UInt8 := s.flatMap String.utf8EncodeChar

/-- What is known of a text behind some of its bytes. -/
structure Progress where
  escaped : Bool := false
  inClass : Bool := false
  /-- Where the members of the last class begin. -/
  membersAt : Nat := 0

namespace Progress

/-- What is known behind the byte at an offset; `rest` are the bytes that follow it. -/
def next (st : Progress) (offset : Nat) (b : UInt8) (rest : List UInt8) : Progress :=
  if st.escaped then { st with escaped := false }
  else if b = '\\'.toUInt8 then { st with escaped := true }
  else if b = '['.toUInt8 && !st.inClass then
    { st with inClass := true, membersAt := if (bytes ['^']).isPrefixOf rest then offset + 2 else
      offset + 1 }
  else if b = ']'.toUInt8 && st.inClass && st.membersAt < offset then { st with inClass := false }
  else st

/-- The text is sliced behind a byte. -/
def slices (st : Progress) (b : UInt8) : Bool :=
  !st.escaped && !st.inClass && (b = '['.toUInt8 || b = '('.toUInt8)

/-- The scanner reports what opens with a byte. -/
def reports (st : Progress) (b : UInt8) (rest : List UInt8) : Bool :=
  !st.escaped && !st.inClass && b = '('.toUInt8 && openers.any fun opener =>
    (bytes opener).isPrefixOf rest

end Progress

/-- Whether a lookaround is found in the bytes from an offset on, and the offsets at which the text
has been sliced by then. -/
def scanBytes (st : Progress) (offset : Nat) : List UInt8 → Bool × List Nat
  | [] => (false, [])
  | b :: rest =>
    let cut := if st.slices b then [offset + 1] else []
    if st.reports b rest then (true, cut)
    else
      let (found, cuts) := scanBytes (st.next offset b rest) (offset + 1) rest
      (found, cut ++ cuts)

/-! ### Bytes of characters -/

theorem bytes_cons (c : Char) (s : List Char) :
    bytes (c :: s) = String.utf8EncodeChar c ++ bytes s := rfl

theorem bytes_toList (p : String) : p.toByteArray.data.toList = bytes p.toList := by
  rw [← String.utf8Encode_toList, List.utf8Encode, List.data_toByteArray, bytes]

/-- The place lies between two characters, or at an end, of a text that begins at an offset. -/
def IsBetween (offset : Nat) (s : List Char) (place : Nat) : Prop :=
  ∃ front, front <+: s ∧ place = offset + (bytes front).length

section
variable {offset place : Nat} {c : Char} {s : List Char}

theorem isBetween_start : IsBetween offset s offset := ⟨[], List.nil_prefix, rfl⟩

theorem IsBetween.cons (h : IsBetween (offset + c.utf8Size) s place) :
    IsBetween offset (c :: s) place := by
  obtain ⟨front, within, rfl⟩ := h
  refine ⟨c :: front, List.cons_prefix_cons.mpr ⟨rfl, within⟩, ?_⟩
  rw [bytes_cons, List.length_append, String.length_utf8EncodeChar, Nat.add_assoc]

theorem IsBetween.isValid {p : String} (h : IsBetween 0 p.toList place) :
    (⟨place⟩ : String.Pos.Raw).IsValid p := by
  obtain ⟨front, ⟨rest, whole⟩, rfl⟩ := h
  refine String.Pos.Raw.isValid_iff_exists_append.mpr ⟨.ofList front, .ofList rest, ?_, ?_⟩
  · rw [← String.ofList_append, whole, String.ofList_toList]
  · have size := congrArg List.length (bytes_toList (.ofList front))
    rw [String.toList_ofList] at size
    exact String.Pos.Raw.ext ((Nat.zero_add _).trans size.symm)

end

/-- The character has one byte. -/
def Narrow (c : Char) : Prop := c.utf8Size = 1

instance (c : Char) : Decidable (Narrow c) := Nat.decEq c.utf8Size 1

section
variable {c d : Char}

theorem bytes_narrow (narrow : Narrow c) (s : List Char) :
    bytes (c :: s) = c.toUInt8 :: bytes s := by
  rw [bytes_cons, String.utf8EncodeChar_eq_singleton narrow]
  rfl

theorem toNat_le_of_narrow (narrow : Narrow c) : c.toNat ≤ 127 :=
  UInt32.le_iff_toNat_le.mp (Char.utf8Size_eq_one_iff.mp narrow)

theorem toNat_toUInt8 (narrow : Narrow c) : c.toUInt8.toNat = c.toNat := by
  rw [Char.toUInt8, UInt32.toNat_toUInt8]
  exact Nat.mod_eq_of_lt (Nat.lt_of_le_of_lt (toNat_le_of_narrow narrow) (by decide))

theorem toUInt8_inj (narrow : Narrow c) (narrow' : Narrow d) : c.toUInt8 = d.toUInt8 ↔ c = d := by
  rw [← UInt8.toNat_inj, toNat_toUInt8 narrow, toNat_toUInt8 narrow', Char.toNat_inj]

/-- No byte of a wider character stands for one of one byte. -/
theorem high_of_wide (wide : ¬Narrow c) : ∀ b ∈ String.utf8EncodeChar c, 0x80 ≤ b := by
  have high {n : Nat} (least : 0x80 ≤ n) (most : n < 256) : 0x80 ≤ UInt8.ofNat n := by
    rw [UInt8.le_iff_toNat_le, UInt8.toNat_ofNat', Nat.mod_eq_of_lt most]
    exact least
  rw [Narrow, ← String.length_utf8EncodeChar] at wide
  revert wide
  fun_cases String.utf8EncodeChar c with
  | case1 => exact fun wide => absurd rfl wide
  | case2 v =>
    refine fun _ => List.forall_mem_cons.mpr ⟨?_, List.forall_mem_singleton.mpr ?_⟩
    all_goals exact high (by omega) (by omega)
  | case3 v =>
    refine fun _ =>
      List.forall_mem_cons.mpr ⟨?_, List.forall_mem_cons.mpr ⟨?_, List.forall_mem_singleton.mpr ?_⟩⟩
    all_goals exact high (by omega) (by omega)
  | case4 v =>
    refine fun _ =>
      List.forall_mem_cons.mpr ⟨?_,
      List.forall_mem_cons.mpr ⟨?_,
      List.forall_mem_cons.mpr ⟨?_, List.forall_mem_singleton.mpr ?_⟩⟩⟩
    all_goals exact high (by omega) (by omega)

theorem ne_of_high {b : UInt8} (high : 0x80 ≤ b) (narrow : Narrow c) : b ≠ c.toUInt8 := by
  intro same
  have small := toNat_le_of_narrow narrow
  have least : 0x80 ≤ b.toNat := UInt8.le_iff_toNat_le.mp high
  rw [same, toNat_toUInt8 narrow] at least
  omega

end

/-- A text in characters of one byte begins a text as its bytes do. -/
theorem isPrefixOf_bytes {front : List Char} (narrow : ∀ c ∈ front, Narrow c) (s : List Char) :
    (bytes front).isPrefixOf (bytes s) = front.isPrefixOf s := by
  induction front generalizing s with
  | nil => rfl
  | cons c front ih =>
    obtain ⟨first, others⟩ := List.forall_mem_cons.mp narrow
    rw [bytes_narrow first]
    cases s with
    | nil => rfl
    | cons d s =>
      by_cases second : Narrow d
      · rw [bytes_narrow second, List.isPrefixOf, List.isPrefixOf, ih others]
        simp only [toUInt8_inj first second, beq_eq_decide]
      · obtain ⟨b, rest, encoded⟩ :=
          List.exists_cons_of_ne_nil (String.utf8EncodeChar_ne_nil (c := d))
        have other : b ≠ c.toUInt8 :=
          ne_of_high (high_of_wide second b (encoded ▸ List.mem_cons_self)) first
        have other' : c ≠ d := fun same => second (same ▸ first)
        rw [bytes_cons, encoded, List.cons_append, List.isPrefixOf, List.isPrefixOf,
          beq_false_of_ne other.symm, beq_false_of_ne other']
        rfl

theorem opensHere_bytes (s : List Char) :
    (openers.any fun opener => (bytes opener).isPrefixOf (bytes s)) = opensHere s := by
  have narrow : ∀ opener ∈ openers, ∀ c ∈ opener, Narrow c := by
    simp only [openers, List.forall_mem_cons, List.not_mem_nil, false_imp_iff, implies_true,
      and_true]
    decide
  rw [opensHere, Bool.eq_iff_iff, List.any_eq_true, List.any_eq_true]
  exact exists_congr fun opener => and_congr_right fun mem => by
    rw [isPrefixOf_bytes (narrow opener mem)]

/-- The scanner passes wider characters. -/
theorem notMem_marks_of_wide {c : Char} (wide : ¬Narrow c) : c ∉ marks := by
  have narrow : ∀ c ∈ marks, Narrow c := by
    simp only [marks, List.forall_mem_cons, List.not_mem_nil, false_imp_iff, implies_true, and_true]
    decide
  exact fun mark => wide (narrow c mark)

/-! ### Side by side -/

/-- What is known at an offset, where `s` follows, says where the scanner for characters is. -/
def Agrees (st : Progress) (offset : Nat) (s : List Char) : Mode → Prop
  | .text => st.escaped = false ∧ st.inClass = false
  | .escaped => st.escaped = true ∧ st.inClass = false
  | .classStart => st.escaped = false ∧ st.inClass = true ∧
    st.membersAt = if s.head? = some '^' then offset + 1 else offset
  | .classMembers fresh => st.escaped = false ∧ st.inClass = true ∧ st.membersAt ≤ offset ∧
    (st.membersAt < offset ↔ fresh = false)
  | .classEscaped => st.escaped = true ∧ st.inClass = true ∧ st.membersAt < offset

theorem caret_bytes (s : List Char) :
    (bytes ['^']).isPrefixOf (bytes s) = true ↔ s.head? = some '^' := by
  rw [isPrefixOf_bytes (List.forall_mem_singleton.mpr (by decide))]
  cases s with
  | nil => exact iff_of_false nofun nofun
  | cons c s =>
    rw [List.isPrefixOf, List.isPrefixOf, Bool.and_true, beq_iff_eq, List.head?_cons,
      Option.some.injEq]
    exact eq_comm

section
variable {st : Progress} {offset : Nat} {c : Char} {s : List Char} {m : Mode}
  (h : Agrees st offset (c :: s) m)
include h

theorem Agrees.reports (narrow : Narrow c) : st.reports c.toUInt8 (bytes s) = m.reports c s := by
  have paren : c.toUInt8 = '('.toUInt8 ↔ c = '(' := toUInt8_inj narrow (by decide)
  cases m <;> simp_all [Agrees, Progress.reports, Mode.reports, opensHere_bytes]

theorem Agrees.next (narrow : Narrow c) :
    Agrees (st.next offset c.toUInt8 (bytes s)) (offset + 1) s (m.next c) := by
  have backslash : c.toUInt8 = '\\'.toUInt8 ↔ c = '\\' := toUInt8_inj narrow (by decide)
  have opens : c.toUInt8 = '['.toUInt8 ↔ c = '[' := toUInt8_inj narrow (by decide)
  have closes : c.toUInt8 = ']'.toUInt8 ↔ c = ']' := toUInt8_inj narrow (by decide)
  cases m with
  | text =>
    obtain ⟨free, outside⟩ := h
    simp only [Progress.next, free, outside, backslash, opens, caret_bytes, Bool.false_eq_true,
      if_false, Bool.not_false, Bool.and_true, Bool.and_false, Bool.false_and, decide_eq_true_eq,
      Mode.next]
    split_ifs with escapes begins caret
    · exact ⟨rfl, rfl⟩
    · exact ⟨rfl, rfl, (if_pos caret).symm⟩
    · exact ⟨rfl, rfl, (if_neg caret).symm⟩
    · exact ⟨free, outside⟩
  | escaped =>
    obtain ⟨bound, outside⟩ := h
    rw [Progress.next, if_pos bound]
    exact ⟨rfl, outside⟩
  | classStart =>
    obtain ⟨free, inside, members⟩ := h
    simp only [List.head?_cons, Option.some.injEq] at members
    -- A closing bracket would stand where the members begin, and there it is one of them.
    have member : ¬(c = ']' ∧ st.membersAt < offset) := by
      intro closing
      rw [members, closing.1, if_neg (by decide)] at closing
      exact Nat.lt_irrefl offset closing.2
    simp only [Progress.next, free, inside, backslash, closes, member, Bool.false_eq_true, if_false,
      Bool.not_true, Bool.and_true, Bool.and_false, Bool.and_eq_true, decide_eq_true_eq, Mode.next]
    split_ifs with escapes caret caret
    · exact absurd (caret.symm.trans escapes) (by decide)
    · rw [if_neg caret] at members
      exact ⟨rfl, rfl, by show st.membersAt < offset + 1; omega⟩
    · rw [if_pos caret] at members
      exact ⟨free, inside, by omega, iff_of_false (by omega) (by decide)⟩
    · rw [if_neg caret] at members
      exact ⟨free, inside, by omega, iff_of_true (by omega) rfl⟩
  | classMembers fresh =>
    obtain ⟨free, inside, members, behind⟩ := h
    have later : st.membersAt < offset + 1 := by omega
    simp only [Progress.next, free, inside, backslash, opens, closes, behind, Bool.false_eq_true,
      if_false, Bool.not_true, Bool.and_true, Bool.and_false, Bool.and_eq_true, decide_eq_true_eq,
      Mode.next, Bool.not_eq_true']
    split_ifs with escapes ends ends
    · exact absurd (ends.1.symm.trans escapes) (by decide)
    · exact ⟨rfl, rfl, later⟩
    · exact ⟨rfl, rfl⟩
    · exact ⟨free, inside, Nat.le_of_lt later, iff_of_true later rfl⟩
  | classEscaped =>
    obtain ⟨bound, inside, members⟩ := h
    have later : st.membersAt < offset + 1 := by omega
    rw [Progress.next, if_pos bound]
    exact ⟨rfl, inside, Nat.le_of_lt later, iff_of_true later rfl⟩

/-- No flag is set by a wider character. -/
theorem Agrees.next_wide (wide : ¬Narrow c) :
    Agrees { st with escaped := false } (offset + c.utf8Size) s (m.next c) := by
  have other (d : Char) (narrow : Narrow d := by decide) : c ≠ d := fun same => wide (same ▸ narrow)
  have size := c.utf8Size_pos
  cases m with
  | text =>
    rw [Mode.next, if_neg (other '\\'), if_neg (other '[')]
    exact ⟨rfl, h.2⟩
  | escaped => exact ⟨rfl, h.2⟩
  | classStart =>
    obtain ⟨-, inside, members⟩ := h
    rw [List.head?_cons, if_neg (mt Option.some.inj (other '^'))] at members
    rw [Mode.next, if_neg (other '^'), if_neg (other '\\')]
    have behind : st.membersAt < offset + c.utf8Size := by omega
    exact ⟨rfl, inside, Nat.le_of_lt behind, iff_of_true behind rfl⟩
  | classMembers fresh =>
    obtain ⟨-, inside, members, -⟩ := h
    rw [Mode.next, if_neg (by simp [other ']']), if_neg (other '\\')]
    have behind : st.membersAt < offset + c.utf8Size := by omega
    exact ⟨rfl, inside, Nat.le_of_lt behind, iff_of_true behind rfl⟩
  | classEscaped =>
    obtain ⟨-, inside, members⟩ := h
    have behind : st.membersAt < offset + c.utf8Size := by omega
    exact ⟨rfl, inside, Nat.le_of_lt behind, iff_of_true behind rfl⟩

end

/-! ### Whole texts -/

section
variable {st : Progress} {offset : Nat} {b : UInt8} {rest : List UInt8}

theorem scanBytes_high (high : 0x80 ≤ b) :
    scanBytes st offset (b :: rest) = scanBytes { st with escaped := false } (offset + 1) rest := by
  have other (d : Char) (narrow : Narrow d := by decide) : b ≠ d.toUInt8 := ne_of_high high narrow
  have slices : st.slices b = false := by simp [Progress.slices, other '[', other '(']
  have reports : st.reports b rest = false := by simp [Progress.reports, other '(']
  have next : st.next offset b rest = { st with escaped := false } := by
    rcases st with ⟨_ | _, inClass, membersAt⟩ <;>
      simp [Progress.next, other '\\', other '[', other ']']
  simp [scanBytes, slices, reports, next]

theorem scanBytes_highs {bs : List UInt8} (some : bs ≠ []) (high : ∀ b ∈ bs, 0x80 ≤ b) :
    scanBytes st offset (bs ++ rest) =
      scanBytes { st with escaped := false } (offset + bs.length) rest := by
  induction bs generalizing st offset with
  | nil => exact absurd rfl some
  | cons b bs ih =>
    obtain ⟨first, others⟩ := List.forall_mem_cons.mp high
    rw [List.cons_append, scanBytes_high first]
    cases bs with
    | nil => rfl
    | cons b' bs =>
      rw [ih (List.cons_ne_nil b' bs) others]
      simp [Nat.add_assoc, Nat.add_comm]

end

/-- **The scanner for bytes finds what the one for characters finds**, and slices only between
characters. -/
theorem scanBytes_eq {st : Progress} {offset : Nat} {s : List Char} {m : Mode}
    (h : Agrees st offset s m) :
    (scanBytes st offset (bytes s)).1 = scan m s ∧
      ∀ cut ∈ (scanBytes st offset (bytes s)).2, IsBetween offset s cut := by
  induction s generalizing st offset m with
  | nil =>
    rw [scan_nil]
    exact ⟨rfl, nofun⟩
  | cons c s ih =>
    rw [scan_cons]
    by_cases narrow : Narrow c
    · rw [bytes_narrow narrow, scanBytes, h.reports narrow]
      have next := h.next narrow
      rw [← show c.utf8Size = 1 from narrow] at next ⊢
      obtain ⟨found, between⟩ := ih next
      have here : ∀ cut ∈ if st.slices c.toUInt8 then [offset + c.utf8Size] else [],
          IsBetween offset (c :: s) cut := by
        intro cut mem
        split at mem
        · exact List.mem_singleton.mp mem ▸ isBetween_start.cons
        · cases mem
      cases m.reports c s with
      | true => exact ⟨rfl, here⟩
      | false =>
        refine ⟨found, fun cut mem => ?_⟩
        rcases List.mem_append.mp mem with mem | mem
        · exact here cut mem
        · exact (between cut mem).cons
    · obtain ⟨found, between⟩ := ih (h.next_wide narrow)
      rw [bytes_cons, scanBytes_highs String.utf8EncodeChar_ne_nil (high_of_wide narrow),
        String.length_utf8EncodeChar, reports_of_mute m (notMem_marks_of_wide narrow)]
      exact ⟨found, fun cut mem => (between cut mem).cons⟩

/-- The text is sliced behind the bracket and behind the parenthesis, not behind the first byte of a
letter. -/
example : scanBytes {} 0 (bytes "é[^é](?=e)".toList) = (true, [3, 8]) := by decide +kernel

end Conlang.Pattern.Lookaround
