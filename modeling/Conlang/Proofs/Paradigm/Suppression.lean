import Conlang.Inflection.RuleSet.Forms
import Conlang.Proofs.Paradigm.Forms

/-! Hidden forms, written and read.

An entry is made of digits, plus signs and commas, so neither the semicolons between entries nor the
blanks around them are ever part of one, and its first comma stands behind the type id. Hence a set
reads back as it was written, and a text is read entry by entry, whatever its other entries are
(`parse_by_entry`). -/
namespace Conlang
open Std Text

/-! ### One entry -/

namespace TypedForm

/-- The characters that entries are made of. -/
def isEntryChar (c : Char) : Bool := c.isDigit || c = '+' || c = ','

theorem isEntryChar_of_mem_chars (f : TypedForm) : ∀ c ∈ f.chars, isEntryChar c = true := by
  have numeral (n : Numeral) : ∀ c ∈ n.chars, isEntryChar c = true := fun c hc => by
    rcases n.isDigit_or_plus c hc with digit | plus <;> simp [isEntryChar, *]
  intro c hc
  rw [TypedForm.chars, List.mem_append, List.mem_cons] at hc
  rcases hc with hc | rfl | hc
  · exact numeral (.ofNumber f.type) c hc
  · rfl
  · cases form : f.combination with
    | cell slots =>
      simp only [form, Combination.chars, Combination.slotChars, List.mem_cons, List.mem_flatMap,
        List.mem_append, List.not_mem_nil, or_false] at hc
      rcases hc with rfl | ⟨n, -, hc | rfl⟩
      · rfl
      · exact numeral n c hc
      · rfl
    | extra n =>
      rw [form] at hc
      exact numeral n c hc

theorem isBlank_of_isEntryChar {c : Char} (h : isEntryChar c = true) : isBlank c = false := by
  simp only [isEntryChar, Bool.or_eq_true, decide_eq_true_eq] at h
  rcases h with (digit | rfl) | rfl
  · have within : '0'.toNat ≤ c.toNat ∧ c.toNat ≤ '9'.toNat := by
      simpa [Char.isDigit, UInt32.le_iff_toNat_le] using digit
    have apart : ∀ r ∈ blankChars.ranges, r.2 < '0'.toNat ∨ '9'.toNat < r.1 := by decide
    refine List.any_eq_false.mpr fun r hr => ?_
    have := apart r hr
    simp only [Bool.and_eq_true, decide_eq_true_eq]
    omega
  · decide
  · decide

theorem semicolon_notMem (f : TypedForm) : ';' ∉ f.chars := fun h =>
  absurd (f.isEntryChar_of_mem_chars _ h) (by decide)

theorem trimChars_chars (f : TypedForm) : trimChars f.chars = f.chars :=
  trimChars_eq_self fun c hc => isBlank_of_isEntryChar (f.isEntryChar_of_mem_chars c hc)

theorem read_chars (f : TypedForm) : read f.chars = .ok f := by
  have type : Numeral.decimal f.type.toNat = (Numeral.ofNumber f.type).chars := rfl
  have number := Numeral.readNumber_decimal f.type
  have combination : Combination.parse (.ofList f.combination.chars) = .ok f.combination :=
    Combination.parse_text f.combination
  have trimmed : trimChars (Numeral.decimal f.type.toNat) = Numeral.decimal f.type.toNat := by
    refine trimChars_eq_self fun c hc => isBlank_of_isEntryChar (f.isEntryChar_of_mem_chars c ?_)
    exact List.mem_append_left _ hc
  rw [read, chars, before?_append (type ▸ Numeral.comma_notMem _)]
  simp only [trimmed, number, combination]
  rfl

end TypedForm

namespace Suppression

/-! ### Many entries -/

theorem entries_append_cons (a b : List Char) :
    entries (a ++ ';' :: b) = entries a ++ entries b := by
  rw [entries, fields_append_cons, List.map_append, List.filter_append]
  rfl

/-- A text without a semicolon is one entry, or none when it is blank. -/
theorem entries_of_notMem {a : List Char} (h : ';' ∉ a) :
    entries a = if (trimChars a).isEmpty then [] else [trimChars a] := by
  rw [entries, fields_of_notMem h, List.map_singleton, List.filter_singleton]
  cases (trimChars a).isEmpty <;> rfl

theorem entries_chars (f : TypedForm) : entries f.chars = [f.chars] := by
  rw [entries_of_notMem f.semicolon_notMem, f.trimChars_chars]
  simp [TypedForm.chars]

/-- Between semicolons every form is an entry of its own. -/
theorem entries_encode (s : Suppression) :
    entries s.encode.toList = s.toList.map TypedForm.chars := by
  have texts : (s.toList.map fun f => String.ofList f.chars).map String.toList =
      s.toList.map TypedForm.chars := by
    simp [Function.comp_def]
  rw [encode, String.toList_intercalate, texts]
  induction s.toList with
  | nil => rfl
  | cons f rest ih =>
    cases rest with
    | nil => simpa using entries_chars f
    | cons g rest =>
      rw [List.map_cons, List.map_cons, List.intercalate_cons_cons, List.append_assoc]
      show entries (f.chars ++ ';' :: [';'].intercalate (g.chars :: rest.map TypedForm.chars)) = _
      rw [entries_append_cons, entries_chars]
      exact congrArg (f.chars :: ·) ih

/-! ### Reading -/

theorem ofList_append (a b : List TypedForm) :
    (ExtTreeSet.ofList (a ++ b) : ExtTreeSet TypedForm) =
      ExtTreeSet.ofList a ∪ ExtTreeSet.ofList b :=
  ExtTreeSet.ext_mem fun f => by simp [ExtTreeSet.mem_ofList, ExtTreeSet.mem_union_iff]

theorem ofList_toList (s : ExtTreeSet TypedForm) : ExtTreeSet.ofList s.toList = s :=
  ExtTreeSet.ext_mem fun f => by simp [ExtTreeSet.mem_ofList]

theorem parse_encode (s : Suppression) : parse s.encode = (s, []) := by
  have forms : (s.toList.map TypedForm.chars).filterMap readForm? = s.toList := by
    rw [List.filterMap_map]
    refine (List.filterMap_congr fun f _ => ?_).trans List.filterMap_some
    rw [Function.comp_apply, readForm?, f.read_chars]
    rfl
  have none : (s.toList.map TypedForm.chars).filterMap rejected? = [] := by
    rw [List.filterMap_map]
    refine List.filterMap_eq_nil_iff.mpr fun f _ => ?_
    rw [Function.comp_apply, rejected?, f.read_chars]
  rw [parse]
  simp only [entries_encode, forms, none]
  rw [toList, ofList_toList]

theorem parse_append (a b : String) :
    parse (a ++ ";" ++ b) =
      (⟨(parse a).1.forms ∪ (parse b).1.forms⟩, (parse a).2 ++ (parse b).2) := by
  have cut : entries (a ++ ";" ++ b).toList = entries a.toList ++ entries b.toList := by
    rw [String.toList_append, String.toList_append, List.append_assoc]
    exact entries_append_cons a.toList b.toList
  rw [parse]
  simp only [cut, List.filterMap_append, ofList_append]
  rfl

/-- An entry that can not be read gives no form and one report. -/
theorem parse_malformed {entry : String} {fault : TypedForm.Fault} (single : ';' ∉ entry.toList)
    (written : trimChars entry.toList ≠ []) (malformed : TypedForm.read (trimChars entry.toList) =
      .error fault) :
    parse entry = (empty, [⟨trim entry, fault⟩]) := by
  have alone : entries entry.toList = [trimChars entry.toList] := by
    rw [entries_of_notMem single, if_neg (by simpa using written)]
  rw [parse]
  simp only [alone, List.filterMap_cons, List.filterMap_nil, readForm?, rejected?, malformed]
  rfl

/-- **Hidden forms are read entry by entry, and read back as they were written.** Every set of
hidden forms that is written reads back as itself, without a report, and so does that of a rule set.
Two texts with a semicolon between them hide what either of them hides, and what can not be read is
reported for the first and then for the second. So an entry that can not be read only adds its
report: all others hide what they hide without it. -/
theorem parse_by_entry :
    (∀ s : Suppression, parse s.encode = (s, [])) ∧
      (∀ s : RuleSet, s.loadSuppressed s.suppressed.encode = (s, [])) ∧
      (∀ a b : String,
        (parse (a ++ ";" ++ b)).1.forms = (parse a).1.forms ∪ (parse b).1.forms ∧
          (parse (a ++ ";" ++ b)).2 = (parse a).2 ++ (parse b).2) ∧
      ∀ (a entry b : String) (fault : TypedForm.Fault), ';' ∉ entry.toList →
      trimChars entry.toList ≠ [] →
        TypedForm.read (trimChars entry.toList) = .error fault →
          (parse (a ++ ";" ++ entry ++ ";" ++ b)).1 = (parse (a ++ ";" ++ b)).1 ∧
            (parse (a ++ ";" ++ entry ++ ";" ++ b)).2 =
              (parse a).2 ++ ⟨trim entry, fault⟩ :: (parse b).2 := by
  refine ⟨parse_encode, fun s => ?_, fun a b => ?_,
    fun a entry b fault single written malformed => ?_⟩
  · rw [RuleSet.loadSuppressed, parse_encode]
  · rw [parse_append]
    exact ⟨rfl, rfl⟩
  · have nothing : (parse a).1.forms ∪ empty.forms = (parse a).1.forms :=
      ExtTreeSet.ext_mem fun f => by simp [empty, ExtTreeSet.mem_union_iff]
    rw [parse_append, parse_append, parse_append, parse_malformed single written malformed]
    simp only [nothing, List.append_assoc, List.cons_append, List.nil_append, and_self]

/-- The entry in the middle has no comma. -/
theorem parse_by_entry_garbage :
    ';' ∉ "garbage".toList ∧ trimChars "garbage".toList ≠ [] ∧
      TypedForm.read (trimChars "garbage".toList) = .error .noComma ∧
      (parse ("1,,2,1," ++ ";" ++ "garbage" ++ ";" ++ "3,+5")).1 =
        (parse ("1,,2,1," ++ ";" ++ "3,+5")).1 ∧
      (parse ("1,,2,1," ++ ";" ++ "garbage" ++ ";" ++ "3,+5")).2 = [⟨"garbage", .noComma⟩] := by
  have single : ';' ∉ "garbage".toList := by decide
  have written : trimChars "garbage".toList ≠ [] := by decide
  have malformed : TypedForm.read (trimChars "garbage".toList) = .error .noComma := by rfl
  have read := parse_by_entry.2.2.2 "1,,2,1," "garbage" "3,+5" .noComma single written malformed
  refine ⟨single, written, malformed, read.1, read.2.trans ?_⟩
  decide

end Suppression

end Conlang
