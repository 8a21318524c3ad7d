import Conlang.Proofs.Pattern.Splicing
import Conlang.Proofs.Pattern.Usable

/-! What a template means.

`Means` reads a template from left to right, and knows of no states that a reader is in. A template
can be used if it has a meaning (`parse_eq_ok_iff`), and then its pieces take the place of each
match (`replaceAll_means`). On the way the pieces may be written in the engine's own syntax, which
says the same (`expand_of_expands`).

The engine takes the digits of a reference for a name first. So the reference is to the group of
that number only as long as no other group bears the number as its name
(`replaceAll_number_as_name`). -/
namespace Conlang.Pattern

/-- The groups that a piece refers to are there. -/
def Piece.Declared (groups : Nat) (names : List String) : Piece → Prop
  | .char _ => True
  | .group index => index ≤ groups
  | .name label => label ∈ names

/-- What a piece stands for: a character for itself, and a reference for what its group has
matched. -/
def Piece.text (names : List (String × Nat)) (t : Subject) (m : Slots) : Piece → String
  | .char c => .singleton c
  | .group index => (m.text? t index).getD ""
  | .name label => ((names.lookup label).bind (m.text? t)).getD ""

namespace Template

/-! ### Meaning -/

/-- The number that digits behind others come to. -/
def extended (n : Nat) (digits : List Char) : Nat :=
  digits.foldl (fun n d => n * 10 + (d.toNat - 48)) n

/-- The digits make a number up to the number of a group, and with any more of what follows they
would not. -/
structure Longest (groups n : Nat) (digits rest : List Char) : Prop where
  all : ∀ c ∈ digits, isDigit c = true
  fits : extended n digits ≤ groups
  longest : ∀ more, more ≠ [] → more <+: rest → (∀ c ∈ more, isDigit c = true) →
    groups < extended n (digits ++ more)

/-- What a template means, where a pattern has so many groups and declares these names. -/
inductive Means (groups : Nat) (names : List String) : List Char → List Piece → Prop
  | done : Means groups names [] []
  | plain {c rest pieces} : c ≠ '\\' → c ≠ '$' → Means groups names rest pieces →
      Means groups names (c :: rest) (.char c :: pieces)
  | escaped {c rest pieces} : Means groups names rest pieces →
      Means groups names ('\\' :: c :: rest) (.char c :: pieces)
  | name {label rest pieces} :
    label ≠ [] → '}' ∉ label → String.ofList label ∈ names → Means groups names rest pieces →
      Means groups names ('$' :: '{' :: (label ++ '}' :: rest)) (.name (.ofList label) :: pieces)
  | number {digits rest pieces} :
    digits ≠ [] → Longest groups 0 digits rest → Means groups names rest pieces →
      Means groups names ('$' :: (digits ++ rest)) (.group (digitsValue digits) :: pieces)

variable {groups n : Nat} {names : List String} {digits rest s : List Char} {pieces : List Piece}

theorem le_extended (n : Nat) (digits : List Char) : n ≤ extended n digits := by
  induction digits generalizing n with
  | nil => exact Nat.le_refl n
  | cons d digits ih => exact Nat.le_trans (by omega) (ih (n * 10 + (d.toNat - 48)))

theorem longest_cons {d : Char} (digit : isDigit d = true) :
    Longest groups n (d :: digits) rest ↔ Longest groups (n * 10 + (d.toNat - 48)) digits rest := by
  constructor
  · rintro ⟨all, fits, longest⟩
    exact ⟨(List.forall_mem_cons.mp all).2, fits, longest⟩
  · rintro ⟨all, fits, longest⟩
    exact ⟨List.forall_mem_cons.mpr ⟨digit, all⟩, fits, longest⟩

/-- A number begins with its first digit. -/
theorem longest_first {d : Char} (digit : isDigit d = true) :
    Longest groups 0 (d :: digits) rest ↔ Longest groups (d.toNat - 48) digits rest := by
  rw [longest_cons digit, Nat.zero_mul, Nat.zero_add]

theorem digitsValue_cons (d : Char) (digits : List Char) :
    digitsValue (d :: digits) = extended (d.toNat - 48) digits := by
  rw [digitsValue, List.foldl_cons, Nat.zero_mul, Nat.zero_add, extended]

/-- A number ends where the text ends, and where a digit more would be too much. -/
theorem longest_nil : Longest groups n [] rest ↔
    n ≤ groups ∧ ∀ c s, rest = c :: s → isDigit c = true → groups < n * 10 + (c.toNat - 48) := by
  constructor
  · rintro ⟨-, fits, longest⟩
    refine ⟨fits, ?_⟩
    rintro c s rfl digit
    exact longest [c] (by simp) ⟨s, rfl⟩ (by simpa using digit)
  · rintro ⟨fits, most⟩
    refine ⟨by simp, fits, ?_⟩
    rintro more nonempty ⟨s, rfl⟩ all
    cases more with
    | nil => exact absurd rfl nonempty
    | cons c more => exact Nat.lt_of_lt_of_le (most c _ rfl (all c (by simp))) (le_extended _ more)

/-! ### Reading -/

/-- A number that ends here is followed by what the template is read as from here. -/
theorem parseFrom_number (ends : Longest groups n [] rest) :
    parseFrom groups names (.number n) rest =
      (.group n :: ·) <$> parseFrom groups names .plain rest := by
  obtain ⟨-, most⟩ := longest_nil.mp ends
  cases rest with
  | nil => rfl
  | cons c s =>
    have stops : (isDigit c && decide (n * 10 + (c.toNat - 48) ≤ groups)) = false := by
      cases digit : isDigit c with
      | false => rfl
      | true => simpa using most c s rfl digit
    rw [parseFrom_number_cons, stops, if_neg Bool.false_ne_true]

theorem parseFrom_digits (longest : Longest groups n digits rest) :
    parseFrom groups names (.number n) (digits ++ rest) =
      (.group (extended n digits) :: ·) <$> parseFrom groups names .plain rest := by
  induction digits generalizing n with
  | nil => exact parseFrom_number longest
  | cons d digits ih =>
    have digit := longest.all d (by simp)
    have fits : n * 10 + (d.toNat - 48) ≤ groups := Nat.le_trans (le_extended _ digits) longest.fits
    rw [List.cons_append, parseFrom_number_cons, digit, decide_eq_true fits, Bool.and_self,
      if_pos rfl]
    exact ih ((longest_cons digit).mp longest)

theorem parseFrom_label {label read : List Char} (closes : '}' ∉ label) :
    parseFrom groups names (.name read) (label ++ '}' :: rest) =
      parseFrom groups names (.name (label.reverse ++ read)) ('}' :: rest) := by
  induction label generalizing read with
  | nil => rfl
  | cons c label ih =>
    simp only [List.mem_cons, not_or] at closes
    rw [List.cons_append, parseFrom_name_cons, if_neg (Ne.symm closes.1), ih closes.2,
      List.reverse_cons, List.append_assoc]
    rfl

theorem parseFrom_of_means (h : Means groups names s pieces) :
    parseFrom groups names .plain s = .ok pieces := by
  induction h with
  | done => rfl
  | plain backslash dollar _ ih =>
    rw [parseFrom_plain_cons _ backslash dollar, ih]
    rfl
  | escaped _ ih =>
    rw [parseFrom_backslash, parseFrom_escaped_cons, ih]
    rfl
  | @name label rest pieces nonempty closes declared _ ih =>
    have some : (label.reverse ++ []).isEmpty = false := by
      cases label with
      | nil => exact absurd rfl nonempty
      | cons => simp
    rw [parseFrom_sign, parseFrom_dollar_cons, if_pos rfl, parseFrom_label closes,
      parseFrom_name_cons, if_pos rfl, some, if_neg Bool.false_ne_true, List.append_nil,
      List.reverse_reverse, if_pos (List.contains_iff_mem.mpr declared), ih]
    rfl
  | @number digits rest pieces nonempty longest _ ih =>
    cases digits with
    | nil => exact absurd rfl nonempty
    | cons d digits =>
      have digit := longest.all d (by simp)
      have brace : d ≠ '{' := by
        rintro rfl
        cases digit
      replace longest := (longest_first digit).mp longest
      have fits := Nat.le_trans (le_extended _ digits) longest.fits
      rw [List.cons_append, parseFrom_sign, parseFrom_dollar_cons, if_neg brace, if_pos digit,
        if_pos fits, parseFrom_digits longest, ih, digitsValue_cons]
      rfl

/-- What is left of a template where the reader is on its way. -/
def ReadsOn (groups : Nat) (names : List String) : Mode → List Char → List Piece → Prop
  | .plain, s, pieces => Means groups names s pieces
  | .escaped, s, pieces => Means groups names ('\\' :: s) pieces
  | .dollar, s, pieces => Means groups names ('$' :: s) pieces
  | .name read, s, pieces =>
      '}' ∉ read → Means groups names ('$' :: '{' :: (read.reverse ++ s)) pieces
  | .number n, s, pieces =>
      n ≤ groups → ∃ digits rest behind, s = digits ++ rest ∧ Longest groups n digits rest ∧
      pieces = .group (extended n digits) :: behind ∧ Means groups names rest behind

section
variable {c : Char} (ih : ∀ {pieces : List Piece} (mode : Mode), parseFrom groups names mode s =
  .ok pieces →
  ReadsOn groups names mode s pieces)

include ih

theorem readsOn_plain (h : parseFrom groups names .plain (c :: s) = .ok pieces) :
    Means groups names (c :: s) pieces := by
  by_cases backslash : c = '\\'
  · subst backslash
    rw [parseFrom_backslash] at h
    exact ih .escaped h
  by_cases dollar : c = '$'
  · subst dollar
    rw [parseFrom_sign] at h
    exact ih .dollar h
  rw [parseFrom_plain_cons _ backslash dollar] at h
  obtain ⟨behind, read, rfl⟩ := map_eq_ok_iff.mp h
  exact .plain backslash dollar (ih .plain read)

theorem readsOn_dollar (h : parseFrom groups names .dollar (c :: s) = .ok pieces) :
    Means groups names ('$' :: c :: s) pieces := by
  rw [parseFrom_dollar_cons] at h
  by_cases brace : c = '{'
  · subst brace
    exact ih (.name []) h List.not_mem_nil
  rw [if_neg brace] at h
  by_cases digit : isDigit c = true
  · rw [if_pos digit] at h
    split at h
    next fits =>
      obtain ⟨digits, rest, behind, rfl, longest, rfl, means⟩ := ih (.number (c.toNat - 48)) h fits
      rw [← digitsValue_cons]
      exact .number (List.cons_ne_nil c digits) ((longest_first digit).mpr longest) means
    next => cases h
  · rw [if_neg digit] at h
    cases h

theorem readsOn_name {read : List Char}
    (h : parseFrom groups names (.name read) (c :: s) = .ok pieces) (open' : '}' ∉ read) :
    Means groups names ('$' :: '{' :: (read.reverse ++ c :: s)) pieces := by
  rw [parseFrom_name_cons] at h
  by_cases closes : c = '}'
  · subst closes
    rw [if_pos rfl] at h
    split at h
    next => cases h
    next some =>
      split at h
      next declared =>
        obtain ⟨behind, parsed, rfl⟩ := map_eq_ok_iff.mp h
        refine .name ?_ (fun mem =>
          open' (List.mem_reverse.mp mem)) (List.contains_iff_mem.mp declared)
          (ih .plain parsed)
        simpa using some
      next => cases h
  · rw [if_neg closes] at h
    have means := ih (.name (c :: read)) h (by simp [open', Ne.symm closes])
    rwa [List.reverse_cons, List.append_assoc] at means

theorem readsOn_number (h : parseFrom groups names (.number n) (c :: s) = .ok pieces) :
    ReadsOn groups names (.number n) (c :: s) pieces := by
  intro fits
  by_cases more : isDigit c = true ∧ n * 10 + (c.toNat - 48) ≤ groups
  · rw [parseFrom_number_cons, if_pos (by simpa using more)] at h
    obtain ⟨digits, rest, behind, rfl, longest, rfl, means⟩ :=
      ih (.number (n * 10 + (c.toNat - 48))) h more.2
    exact ⟨c :: digits, rest, behind, rfl, (longest_cons more.1).mpr longest, rfl, means⟩
  -- The character is not one of the number's: it is read as it would be without a number before it.
  have ends : Longest groups n [] (c :: s) := by
    refine longest_nil.mpr ⟨fits, ?_⟩
    rintro _ _ ⟨⟩ digit
    exact Nat.lt_of_not_le fun le => more ⟨digit, le⟩
  rw [parseFrom_number ends] at h
  obtain ⟨behind, parsed, rfl⟩ := map_eq_ok_iff.mp h
  exact ⟨[], c :: s, behind, rfl, ends, rfl, readsOn_plain ih parsed⟩

end

theorem readsOn_of_parseFrom (mode : Mode) (h : parseFrom groups names mode s = .ok pieces) :
    ReadsOn groups names mode s pieces := by
  induction s generalizing mode pieces with
  | nil =>
    cases mode with
    | plain =>
      obtain rfl : [] = pieces := Except.ok.inj h
      exact .done
    | number n =>
      obtain rfl : [.group n] = pieces := Except.ok.inj h
      exact fun fits => ⟨[], [], [], rfl, longest_nil.mpr ⟨fits, nofun⟩, rfl, .done⟩
    | _ => cases h
  | cons c s ih =>
    cases mode with
    | plain => exact readsOn_plain ih h
    | escaped =>
      obtain ⟨behind, read, rfl⟩ := map_eq_ok_iff.mp h
      exact .escaped (ih .plain read)
    | dollar => exact readsOn_dollar ih h
    | name read => exact readsOn_name ih h
    | number n => exact readsOn_number ih h

/-- **A template is read as what it means, and is refused if it means nothing.** -/
theorem parse_eq_ok_iff {template : String} :
    parse groups names template = .ok pieces ↔ Means groups names template.toList pieces :=
  ⟨readsOn_of_parseFrom .plain, parseFrom_of_means⟩

theorem Means.declared (h : Means groups names s pieces) :
    ∀ piece ∈ pieces, piece.Declared groups names := by
  induction h with
  | done => exact fun _ mem => absurd mem List.not_mem_nil
  | plain _ _ _ ih => exact List.forall_mem_cons.mpr ⟨trivial, ih⟩
  | escaped _ ih => exact List.forall_mem_cons.mpr ⟨trivial, ih⟩
  | name _ _ declared _ ih => exact List.forall_mem_cons.mpr ⟨declared, ih⟩
  | number _ longest _ ih => exact List.forall_mem_cons.mpr ⟨longest.fits, ih⟩

/-! ### Texts as they are -/

/-- A text with a backslash before each backslash and dollar. -/
def escape (s : List Char) : List Char :=
  s.flatMap fun c => if c = '\\' ∨ c = '$' then ['\\', c] else [c]

theorem means_escape (groups : Nat) (names : List String) (s : List Char) :
    Means groups names (escape s) (s.map .char) := by
  induction s with
  | nil => exact .done
  | cons c s ih =>
    rw [escape, List.flatMap_cons]
    split
    next => exact .escaped ih
    next plain =>
      rw [not_or] at plain
      exact .plain plain.1 plain.2 ih

theorem join_chars (names : List (String × Nat)) (t : Subject) (m : Slots) (s : List Char) :
    String.join ((s.map Piece.char).map (Piece.text names t m)) = .ofList s := by
  induction s with
  | nil => rfl
  | cons c s ih =>
    rw [List.map_cons, List.map_cons, String.join_cons, ih]
    exact String.ofList_cons.symm

theorem needsGroups_chars (s : List Char) : needsGroups (s.map .char) = true ↔ '$' ∈ s := by
  simp [needsGroups]

/-! ### References -/

/-- No group has the number of another one for its name. -/
def Unmistakable (names : List (String × Nat)) : Prop :=
  ∀ label index n, names.lookup label = some index → readNumber? label.toList = some (n, []) →
    n = index

section
variable {names : List (String × Nat)} {t : Subject} {m : Slots} {label : String} {index : Nat}

theorem digitsValue_eq (digits : List Char) :
    digitsValue digits = Nat.ofDigitChars 10 digits 0 := by
  rw [digitsValue, Nat.ofDigitChars]
  congr 1
  funext n d
  rw [Nat.mul_comm]
  rfl

theorem isDigit_of_mem_toString {c : Char} (h : c ∈ (toString n).toList) : isDigit c = true := by
  have shown : (toString n).toList = Nat.toDigits 10 n := String.toList_ofList
  rw [shown] at h
  exact Nat.isDigit_of_mem_toDigits (by decide) (by decide) h

theorem digitsValue_toString : digitsValue (toString n).toList = n := by
  rw [show (toString n).toList = Nat.toDigits 10 n from String.toList_ofList, digitsValue_eq]
  exact Nat.ofDigitChars_toDigits (by decide) (by decide)

/-- A row of characters of one kind ends before the first character of another. -/
theorem cut_append {p : Char → Bool} {l rest : List Char} (all : ∀ c ∈ l, p c = true)
    (ends : rest.takeWhile p = []) :
    (l ++ rest).takeWhile p = l ∧ (l ++ rest).dropWhile p = rest := by
  have left : rest.dropWhile p = rest := by
    have whole : rest.takeWhile p ++ rest.dropWhile p = rest := List.takeWhile_append_dropWhile
    rwa [ends] at whole
  rw [List.takeWhile_append_of_pos all, List.dropWhile_append_of_pos all, ends, left,
    List.append_nil]
  exact ⟨rfl, rfl⟩

theorem readNumber?_toString (fits : n ≤ maxNumber) :
    readNumber? (toString n).toList = some (n, []) := by
  have nothing : ([] : List Char).takeWhile isDigit = [] := rfl
  obtain ⟨taken, left⟩ := cut_append (fun c => isDigit_of_mem_toString) nothing
  rw [List.append_nil] at taken left
  have some : (toString n).toList.isEmpty = false := by simp
  rw [readNumber?, taken, left, digitsValue_toString, some]
  simp [Nat.not_lt.mpr fits]

theorem labelText_of_number (clear : Unmistakable names)
    (reads : readNumber? label.toList = some (n, [])) :
    labelText names t m label = (m.text? t n).getD "" := by
  rw [labelText, reads]
  cases known : names.lookup label with
  | none => rfl
  | some index =>
    obtain rfl := clear label index n known reads
    rw [Option.bind_some]
    cases text : m.text? t n with
    | some => rfl
    | none =>
      show (m.text? t n).getD "" = _
      rw [text]

theorem labelText_of_name (clear : Unmistakable names) (known : names.lookup label = some index) :
    labelText names t m label = (m.text? t index).getD "" := by
  rw [labelText, known, Option.bind_some]
  cases text : m.text? t index with
  | some => rfl
  | none =>
    split
    next h => cases h
    next =>
      split
      next n reads =>
        obtain rfl := clear label index n known reads
        rw [text]
      next => rfl

theorem expandPiece_eq {piece : Piece} (clear : Unmistakable names) (few : groups ≤ maxNumber)
    (declared : piece.Declared groups (names.map Prod.fst)) :
    expandPiece names t m piece = piece.text names t m := by
  cases piece with
  | char c => rfl
  | group index =>
    exact labelText_of_number clear (readNumber?_toString (Nat.le_trans declared few))
  | name label =>
    rw [expandPiece, Piece.text]
    cases known : names.lookup label with
    | some index => exact labelText_of_name clear known
    | none =>
      obtain ⟨pair, mem, rfl⟩ := List.mem_map.mp declared
      simpa using List.lookup_eq_none_iff.mp known pair mem

theorem expand_eq (clear : Unmistakable names) (few : groups ≤ maxNumber)
    (declared : ∀ piece ∈ pieces, piece.Declared groups (names.map Prod.fst)) :
    expand names t m pieces = String.join (pieces.map (Piece.text names t m)) :=
  congrArg String.join (List.map_congr_left fun piece mem =>
    expandPiece_eq clear few (declared piece mem))

end

/-! ### The syntax of the engine -/

/-- A piece in the syntax of the engine, where a dollar is doubled and a reference stands in
braces. -/
def writtenPiece : Piece → List Char
  | .char c => if c = '$' then ['$', '$'] else [c]
  | .group index => '$' :: '{' :: ((toString index).toList ++ ['}'])
  | .name label => '$' :: '{' :: (label.toList ++ ['}'])

def written (pieces : List Piece) : List Char := pieces.flatMap writtenPiece

/-- What the engine reads in its syntax, as far as that is in use. -/
inductive Expands : List Char → List Piece → Prop
  | done : Expands [] []
  | plain {c : Char} {rest : List Char} {pieces : List Piece} : c ≠ '$' → Expands rest pieces →
      Expands (c :: rest) (.char c :: pieces)
  | dollar {rest : List Char} {pieces : List Piece} : Expands rest pieces →
      Expands ('$' :: '$' :: rest) (.char '$' :: pieces)
  | label {name : String} {s rest : List Char} {pieces : List Piece} :
    readName? '}' false s = some (name, rest) →
      Expands rest pieces → Expands ('$' :: '{' :: s) (.name name :: pieces)

/-- To the engine the number of a group is one more name. -/
def labelled : Piece → Piece
  | .group index => .name (toString index)
  | piece => piece

/-- The name consists of characters that names are made of. -/
def Spelled (name : String) : Prop := name.toList ≠ [] ∧ ∀ c ∈ name.toList, isNameChar c = true

theorem isNameChar_of_isDigit {c : Char} (h : isDigit c = true) : isNameChar c = true := by
  have small : c.toNat < 128 := by
    have le : c.val ≤ '9'.val := (Bool.and_eq_true_iff.mp h).2 |> of_decide_eq_true
    exact Nat.lt_of_le_of_lt le (by decide)
  have digit : c.isDigit = true := h
  simp [isNameChar, Text.isAlphanumeric, small, Char.isAlphanum, digit]

theorem spelled_toString : Spelled (toString n) :=
  ⟨by simp, fun _ mem => isNameChar_of_isDigit (isDigit_of_mem_toString mem)⟩

theorem readName?_append {name : String} (spelled : Spelled name) :
    readName? '}' false (name.toList ++ '}' :: rest) = some (name, rest) := by
  obtain ⟨nonempty, named⟩ := spelled
  have ends : ('}' :: rest).takeWhile isNameChar = [] := List.takeWhile_cons_of_neg (by decide)
  obtain ⟨taken, left⟩ := cut_append named ends
  rw [readName?]
  · simp [taken, left, nonempty]
  · intro _ hyphen
    cases hyphen

theorem Expands.unique {read read' : List Piece} (h : Expands s read) (h' : Expands s read') :
    read = read' := by
  induction h generalizing read' with
  | done =>
    cases h'
    rfl
  | plain _ _ ih =>
    cases h' with
    | plain _ rest => rw [ih rest]
    | dollar => contradiction
    | label => contradiction
  | dollar _ ih =>
    cases h' with
    | plain => contradiction
    | dollar rest => rw [ih rest]
  | label name _ ih =>
    cases h' with
    | plain => contradiction
    | label name' rest =>
      obtain ⟨rfl, rfl⟩ := Prod.mk.inj (Option.some.inj (name.symm.trans name'))
      rw [ih rest]

theorem expands_written (spelled : ∀ name ∈ names, Spelled name)
    (declared : ∀ piece ∈ pieces, piece.Declared groups names) :
    Expands (written pieces) (pieces.map labelled) := by
  induction pieces with
  | nil => exact .done
  | cons piece pieces ih =>
    obtain ⟨here, later⟩ := List.forall_mem_cons.mp declared
    have reference {name : String} (spelled : Spelled name) :
        Expands ('$' :: '{' :: (name.toList ++ ['}']) ++ written pieces)
        (.name name :: pieces.map labelled) := by
      rw [List.cons_append, List.cons_append, List.append_assoc]
      exact .label (readName?_append spelled) (ih later)
    rw [written, List.flatMap_cons, List.map_cons]
    cases piece with
    | char c =>
      by_cases dollar : c = '$'
      · rw [writtenPiece, if_pos dollar, dollar]
        exact .dollar (ih later)
      · rw [writtenPiece, if_neg dollar]
        exact .plain dollar (ih later)
    | group index => exact reference spelled_toString
    | name label => exact reference (spelled label here)

theorem expandPiece_labelled (names : List (String × Nat)) (t : Subject) (m : Slots)
    (piece : Piece) :
    expandPiece names t m (labelled piece) = expandPiece names t m piece := by
  cases piece <;> rfl

/-- **What the engine reads in its own syntax comes to what the pieces come to.** Nothing that
stands for itself is taken for a reference. -/
theorem expand_of_expands {names : List (String × Nat)}
    (spelled : ∀ name ∈ names.map Prod.fst, Spelled name)
    (declared : ∀ piece ∈ pieces, piece.Declared groups (names.map Prod.fst)) {read : List Piece}
    (expands : Expands (written pieces) read) (t : Subject) (m : Slots) :
    expand names t m read = expand names t m pieces := by
  obtain rfl := expands.unique (expands_written spelled declared)
  rw [expand, expand, List.map_map]
  exact congrArg String.join (List.map_congr_left fun piece _ =>
    expandPiece_labelled names t m piece)

/-- The groups are asked for where a dollar is in what the engine is told. -/
theorem needsGroups_iff : needsGroups pieces = true ↔ '$' ∈ written pieces := by
  rw [needsGroups, List.any_eq_true, written]
  simp only [List.mem_flatMap]
  refine exists_congr fun piece => and_congr_right fun _ => ?_
  cases piece with
  | char c =>
    by_cases dollar : c = '$'
    · simp [writtenPiece, dollar]
    · simp [writtenPiece, dollar, Ne.symm dollar]
  | _ => simp [writtenPiece]

end Template

/-! ### Replacing -/

section
open Template

variable {E : Engine} {p : Pattern} {program : E.Program} {template text : String}
  {pieces : List Piece}
variable {found captured : List Slots}

theorem replaceAll_of_error {fault : TemplateFault} (compiled : p.compile E = .ok program)
    (refused : parse (E.groups program) ((E.names program).map Prod.fst) template = .error fault)
    (text : String) :
    p.replaceAll E template text = .error (.replacement template fault) := by
  rw [replaceAll, compiled]
  show p.replaceAllWith E program template text = _
  rw [replaceAllWith, parseTemplate, refused]
  rfl

theorem replaceAll_of_ok (compiled : p.compile E = .ok program)
    (parsed : parse (E.groups program) ((E.names program).map Prod.fst) template = .ok pieces)
    (listed : (if needsGroups pieces then E.captured program (.ofString text)
      else E.found program (.ofString text)) = .ok found) :
    p.replaceAll E template text = .ok (rewritten (.ofString text) found
      (found.map fun m => expand (E.names program) (.ofString text) m pieces)) := by
  rw [replaceAll, compiled]
  show p.replaceAllWith E program template text = _
  rw [replaceAllWith, parseTemplate, parsed]
  show p.substitute E program pieces (.ofString text) = _
  rw [substitute, listed, ← splice_map]
  rfl

/-- **A replacement means what its syntax says.** It can be used where the template has a meaning.
Then what its pieces stand for takes the place of each match, and a text in which backslashes and
dollars are escaped stands for itself. A template without a meaning is refused whatever the text. -/
theorem replaceAll_means (compiled : p.compile E = .ok program) (few : E.groups program ≤ maxNumber)
    (clear : Unmistakable (E.names program)) (lists : E.found program (.ofString text) = .ok found)
    (captures : E.captured program (.ofString text) = .ok captured) :
    let Meaning := Means (E.groups program) ((E.names program).map Prod.fst)
    let listed (pieces : List Piece) := if needsGroups pieces then captured else found
    (∀ template : String, (∃ result, p.replaceAll E template text = .ok result) ↔
      ∃ pieces, Meaning template.toList pieces) ∧
    (∀ (template : String) (pieces : List Piece), Meaning template.toList pieces →
      p.replaceAll E template text =
      .ok (rewritten (.ofString text) (listed pieces) ((listed pieces).map fun m =>
        String.join (pieces.map (Piece.text (E.names program) (.ofString text) m))))) ∧
    (∀ template : String, (∀ pieces, ¬ Meaning template.toList pieces) →
      ∃ fault, ∀ text, p.replaceAll E template text = .error (.replacement template fault)) ∧
    ∀ plain : String, p.replaceAll E (.ofList (escape plain.toList)) text =
      .ok (rewritten (.ofString text)
      (if '$' ∈ plain.toList then captured else found)
      ((if '$' ∈ plain.toList then captured else found).map fun _ => plain)) := by
  intro Meaning listed
  have means (template : String) (pieces : List Piece) (h : Meaning template.toList pieces) :
      p.replaceAll E template text =
      .ok (rewritten (.ofString text) (listed pieces) ((listed pieces).map fun m =>
        String.join (pieces.map (Piece.text (E.names program) (.ofString text) m)))) := by
    have parsed := parse_eq_ok_iff.mpr h
    have listing : (if needsGroups pieces then E.captured program (.ofString text)
        else E.found program (.ofString text)) = .ok (listed pieces) := by
      dsimp only [listed]
      split
      next => exact captures
      next => exact lists
    rw [replaceAll_of_ok compiled parsed listing]
    refine congrArg (Except.ok <| rewritten _ _ ·) (List.map_congr_left fun m _ => ?_)
    exact expand_eq clear few h.declared
  have refused (template : String) (none : ∀ pieces, ¬ Meaning template.toList pieces) :
      ∃ fault, ∀ text, p.replaceAll E template text = .error (.replacement template fault) := by
    cases parsed : parse (E.groups program) ((E.names program).map Prod.fst) template with
    | ok pieces => exact absurd (parse_eq_ok_iff.mp parsed) (none pieces)
    | error fault => exact ⟨fault, replaceAll_of_error compiled parsed⟩
  refine ⟨fun template => ⟨?_, ?_⟩, means, refused, fun plain => ?_⟩
  · rintro ⟨result, replaced⟩
    refine Classical.not_forall_not.mp fun none => ?_
    obtain ⟨fault, fails⟩ := refused template none
    cases (fails text).symm.trans replaced
  · rintro ⟨pieces, h⟩
    exact ⟨_, means template pieces h⟩
  · have h : Meaning (String.ofList (escape plain.toList)).toList (plain.toList.map .char) := by
      rw [String.toList_ofList]
      exact means_escape _ _ plain.toList
    have same : listed (plain.toList.map .char) = if '$' ∈ plain.toList then captured
        else found := by
      simp only [listed, needsGroups_chars]
    rw [means _ _ h, same]
    simp only [join_chars, String.ofList_toList]

theorem of_compile {α : Type} {f : E.Program → α} {a : α} (compiled : p.compile E = .ok program)
    (h : (p.compile E).toOption.map f = some a) : f program = a := by
  rw [compiled] at h
  exact Option.some.inj h

theorem ok_of_compile {ε α : Type} {f : E.Program → Except ε α} {a : α}
    (compiled : p.compile E = .ok program)
    (h : ((p.compile E).toOption.map fun program => (f program).toOption) = some (some a)) :
    f program = .ok a :=
  toOption_eq_some_iff.mp (of_compile (f := fun program => (f program).toOption) compiled h)

/-- A template with a name, a number that stops before more digits, an escaped dollar and a group
without a match; and one that asks for a group too many. -/
theorem replaceAll_seven :
    let E := Engine.standard ⟨1000000, 10485760⟩
    let p : Pattern := ⟨"(?<day>7)(x)?", false⟩
    p.replaceAll E "${day}$12\\$2.$2" "a7b" = .ok "a772$2.b" ∧
      ∃ fault, p.replaceAll E "$3" "a7b" = .error (.replacement "$3" fault) := by
  intro E p
  obtain ⟨program, compiled⟩ := isLegal_iff.mp (show p.isLegal E = true by decide +kernel)
  have groups : E.groups program = 2 := of_compile (f := E.groups) compiled (by decide +kernel)
  have names : E.names program = [("day", 1)] :=
    of_compile (f := E.names) compiled (by decide +kernel)
  have found : E.found program (.ofString "a7b") =
      .ok [#[some 1, some 2, some 1, some 2, none, none]] :=
    ok_of_compile (f := (E.found · _)) compiled (by decide +kernel)
  have captured : E.captured program (.ofString "a7b") =
      .ok [#[some 1, some 2, some 1, some 2, none, none]] :=
    ok_of_compile (f := (E.captured · _)) compiled (by decide +kernel)
  have clear : Unmistakable (E.names program) := by
    rw [names]
    intro label index n known number
    obtain rfl : label = "day" := by
      by_cases same : label = "day"
      · exact same
      · have unknown : [("day", 1)].lookup label = none :=
          List.lookup_eq_none_iff.mpr (by simpa using same)
        cases known.symm.trans unknown
    cases number
  have few : E.groups program ≤ maxNumber := by
    rw [groups]
    decide
  obtain ⟨-, means, refused, -⟩ := replaceAll_means compiled few clear found captured
  rw [groups, names] at means refused
  have reads : (parse 2 ["day"] "${day}$12\\$2.$2").toOption =
      some [.name "day", .group 1, .char '2', .char '$', .char '2', .char '.', .group 2] := by
        decide +kernel
  have unread : (parse 2 ["day"] "$3").toOption = none := by decide +kernel
  refine ⟨(means _ _ (parse_eq_ok_iff.mp (toOption_eq_some_iff.mp reads))).trans ?_, ?_⟩
  · exact congrArg Except.ok (by decide +kernel)
  · obtain ⟨fault, fails⟩ := refused "$3" fun pieces meaning => by
      have parsed : parse 2 ["day"] "$3" = .ok pieces := parse_eq_ok_iff.mpr meaning
      rw [parsed] at unread
      cases unread
    exact ⟨fault, fails "a7b"⟩

/-- **The number of a group is taken for a name.** In `(?<2>a)(b)` the second group has matched `b`,
but `$2` puts the first one there, whose name is `2`. -/
theorem replaceAll_number_as_name :
    let E := Engine.standard ⟨1000000, 10485760⟩
    let p : Pattern := ⟨"(?<2>a)(b)", false⟩
    let t := Subject.ofString "ab"
    ∃ program m, p.compile E = .ok program ∧ E.captured program t = .ok [m] ∧
      m.text? t 2 = some "b" ∧
      Means (E.groups program) ((E.names program).map Prod.fst) "[$2]".toList
        [.char '[', .group 2, .char ']'] ∧
      p.replaceAll E "[$2]" "ab" = .ok "[a]" := by
  intro E p t
  obtain ⟨program, compiled⟩ := isLegal_iff.mp (show p.isLegal E = true by decide +kernel)
  have groups : E.groups program = 2 := of_compile (f := E.groups) compiled (by decide +kernel)
  have names : E.names program = [("2", 1)] :=
    of_compile (f := E.names) compiled (by decide +kernel)
  have captured : E.captured program t = .ok [#[some 0, some 2, some 0, some 1, some 1, some 2]] :=
    ok_of_compile (f := (E.captured · _)) compiled (by decide +kernel)
  have reads : (parse 2 ["2"] "[$2]").toOption = some [.char '[', .group 2, .char ']'] := by
    decide +kernel
  refine ⟨program, _, compiled, captured, by decide +kernel, ?_,
    toOption_eq_some_iff.mp (by decide +kernel)⟩
  rw [groups, names]
  exact parse_eq_ok_iff.mp (toOption_eq_some_iff.mp reads)

end

end Conlang.Pattern
