import Conlang.Paradigm.Suppression
import Conlang.Proofs.Paradigm.Forms
import Conlang.Proofs.Results

/-! What texts name forms.

A text that reads as a combination is the text of that combination (`Combination.parse_eq_ok_iff`),
so it can be told without reading what texts those are. Likewise for an entry among hidden forms: it
`Denotes` a form, or it is malformed, and then it is reported (`Suppression.entries_rejected`). -/
namespace Conlang

/-! ### Fields -/

namespace Text

/-- Every field but the last one is closed by a separator. -/
theorem closed_fields (separator : Char) (s : List Char) :
    ((fields separator s).dropLast.flatMap (· ++ [separator])) ++
      (fields separator s).getLast (fields_ne_nil separator s) = s := by
  induction s with
  | nil => rfl
  | cons c rest ih =>
    obtain ⟨field, more, cut⟩ := List.exists_cons_of_ne_nil (fields_ne_nil separator rest)
    simp only [cut] at ih
    simp only [fields, cut]
    split
    · next here =>
      subst here
      simp only [List.dropLast_cons_of_ne_nil (List.cons_ne_nil field more), List.flatMap_cons,
        List.nil_append, List.getLast_cons (List.cons_ne_nil field more), List.singleton_append]
      exact congrArg (c :: ·) ih
    · cases more with
      | nil => simpa using ih
      | cons next more => simpa using ih

theorem before?_eq_some_iff {separator : Char} {s a b : List Char} :
    before? separator s = some (a, b) ↔ s = a ++ separator :: b ∧ separator ∉ a := by
  constructor
  · intro cut
    rw [before?] at cut
    split at cut
    · cases cut
    · next c rest behind =>
      cases cut
      have found : (c != separator) = false := by
        have first := List.head?_dropWhile_not (· != separator) s
        rw [behind] at first
        simpa using first
      obtain rfl : c = separator := by simpa using found
      refine ⟨?_, fun mem => ?_⟩
      · rw [← behind, List.takeWhile_append_dropWhile]
      · simpa using List.all_eq_true.mp List.all_takeWhile _ mem
  · rintro ⟨rfl, first⟩
    exact before?_append first b

theorem Numeral.chars_of_read {part : List Char} {n : Numeral} (read : Numeral.read part = .ok n) :
    n.chars = part := by
  unfold Numeral.read at read
  split at read
  · cases read
    rfl
  · cases read

end Text

open Text

/-! ### Combinations -/

namespace Combination

theorem slotChars_of_mapM {parts : List (List Char)} {slots : List Numeral}
    (read : parts.mapM (fun part => (Numeral.read part).toOption) = some slots) :
    parts.flatMap (· ++ [',']) = slotChars slots := by
  induction parts generalizing slots with
  | nil =>
    cases read
    rfl
  | cons part rest ih =>
    rw [List.mapM_cons] at read
    simp only [Option.bind_eq_bind, Option.bind_eq_some_iff] at read
    obtain ⟨n, first, more, others, last⟩ := read
    cases last
    have spelled : n.chars = part := Numeral.chars_of_read (toOption_eq_some_iff.mp first)
    rw [List.flatMap_cons, ih others, slotChars, slotChars, List.flatMap_cons, spelled]

theorem slotChars_of_readSlots {s : List Char} {slots : List Numeral}
    (read : readSlots s = some slots) :
    slotChars slots = s := by
  rw [readSlots] at read
  split at read
  · next last =>
    have closed := closed_fields ',' s
    rw [List.getLast?_eq_some_getLast (fields_ne_nil ',' s), Option.some.injEq] at last
    rw [last, List.append_nil] at closed
    rw [← slotChars_of_mapM read, closed]
  · cases read

theorem chars_of_read {s : List Char} {c : Combination} (h : read s = some c) : c.chars = s := by
  unfold read at h
  split at h
  · next slots =>
    obtain ⟨numerals, read, rfl⟩ := Option.map_eq_some_iff.mp h
    rw [chars, slotChars_of_readSlots read]
  · obtain ⟨n, read, rfl⟩ := Option.map_eq_some_iff.mp h
    exact Numeral.chars_of_read (toOption_eq_some_iff.mp read)

/-- A text reads as a combination exactly when it is the text of that combination. -/
theorem parse_eq_ok_iff {text : String} {c : Combination} : parse text = .ok c ↔ text = c.text := by
  constructor
  · intro h
    rw [parse] at h
    split at h
    · next read =>
      cases h
      rw [Combination.text, chars_of_read read, String.ofList_toList]
    · cases h
  · rintro rfl
    exact parse_text c

end Combination

/-! ### Hidden forms -/

/-- An entry gives a part of speech, which may have blanks around it, and behind the first comma a
form. -/
def TypedForm.Denotes (entry : List Char) (f : TypedForm) : Prop :=
  ∃ type, entry = type ++ ',' :: f.combination.chars ∧ ',' ∉ type ∧
    readNumber (trimChars type) = .ok f.type

theorem TypedForm.read_eq_ok_iff {entry : List Char} {f : TypedForm} :
    read entry = .ok f ↔ Denotes entry f := by
  constructor
  · intro h
    rw [read] at h
    cases cut : before? ',' entry with
    | none => simp only [cut] at h; cases h
    | some halves =>
      obtain ⟨type, rest⟩ := halves
      obtain ⟨rfl, first⟩ := before?_eq_some_iff.mp cut
      simp only [cut] at h
      cases number : readNumber (trimChars type) with
      | error fault => simp only [number] at h; cases h
      | ok id =>
        cases combination : Combination.parse (.ofList rest) with
        | error malformed => simp only [number, combination] at h; cases h
        | ok c =>
          simp only [number, combination] at h
          cases h
          have spelled := congrArg String.toList (Combination.parse_eq_ok_iff.mp combination)
          rw [Combination.text, String.toList_ofList, String.toList_ofList] at spelled
          exact ⟨type, by rw [spelled], first, number⟩
  · rintro ⟨type, rfl, first, number⟩
    rw [read, before?_append first]
    have combination : Combination.parse (.ofList f.combination.chars) = .ok f.combination :=
      Combination.parse_text f.combination
    simp only [number, combination]
    rfl

namespace Suppression

/-- An entry that denotes no form. -/
def Malformed (entry : List Char) : Prop := ∀ f, ¬TypedForm.Denotes entry f

theorem readForm?_eq_some_iff {entry : List Char} {f : TypedForm} :
    readForm? entry = some f ↔ TypedForm.Denotes entry f := by
  rw [readForm?, toOption_eq_some_iff, TypedForm.read_eq_ok_iff]

theorem readForm?_eq_none_iff {entry : List Char} : readForm? entry = none ↔ Malformed entry := by
  rw [Option.eq_none_iff_forall_ne_some]
  exact forall_congr' fun f => not_congr readForm?_eq_some_iff

instance : DecidablePred Malformed := fun _ => decidable_of_iff _ readForm?_eq_none_iff

/-- An entry is reported when it is malformed. -/
theorem entry_rejected? (entry : List Char) :
    (rejected? entry).map (·.entry) = if Malformed entry then some (.ofList entry) else none := by
  rw [if_congr readForm?_eq_none_iff.symm rfl rfl, rejected?, readForm?]
  cases TypedForm.read entry <;> rfl

theorem entries_rejected (raw : String) :
    (parse raw).2.map (·.entry) = ((entries raw.toList).filter (Malformed ·)).map .ofList := by
  show ((entries raw.toList).filterMap rejected?).map (·.entry) = _
  induction entries raw.toList with
  | nil => rfl
  | cons entry rest ih =>
    have told := entry_rejected? entry
    rw [List.filterMap_cons, List.filter_cons]
    by_cases malformed : Malformed entry
    · rw [if_pos malformed, Option.map_eq_some_iff] at told
      obtain ⟨r, read, same⟩ := told
      simp only [read, malformed, decide_true, if_true, List.map_cons, same, ih]
    · rw [if_neg malformed, Option.map_eq_none_iff] at told
      simp only [told, malformed, decide_false, Bool.false_eq_true, if_false, ih]

/-- The forms that are hidden are those that some entry denotes. -/
theorem contains_parse_iff {raw : String} {type : Id} {c : Combination} :
    (parse raw).1.contains type c = true ↔
      ∃ entry ∈ entries raw.toList, TypedForm.Denotes entry ⟨type, c⟩ := by
  show (Std.ExtTreeSet.ofList ((entries raw.toList).filterMap readForm?)).contains _ = true ↔ _
  rw [Std.ExtTreeSet.contains_iff_mem, Std.ExtTreeSet.mem_ofList, List.contains_iff_mem,
    List.mem_filterMap]
  simp only [readForm?_eq_some_iff]

end Suppression

end Conlang
