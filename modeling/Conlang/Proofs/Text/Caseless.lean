import Conlang.Proofs.Text.Replacing
import Mathlib.Logic.Function.Iterate

/-! Replacing a text without regard to case.

A run of characters is an occurrence if the lower case forms of its characters, one behind the
other, are those of the sought text (`Spells`). A character may have a lower case form of several
characters, so an occurrence need not be as long as the sought text. Every character has some lower
case form, though, so at most one occurrence begins at a place, and it is not empty.

`Rewritten` tells what comes of a text when runs of a kind are replaced, and `turn` is one turn of
the scan that looks for them. The scan gets on with every turn and ends with the text that
`Rewritten` tells (`replaceLiteral_caseless`). -/
namespace Conlang.Text

/-! ### The scan -/

/-- One turn of the scan: what is left of the text, and what has been written. -/
def turn (length? : List Char → Option Nat) (new : List Char) :
    List Char × List Char → List Char × List Char
  | ([], out) => ([], out)
  | (c :: rest, out) =>
    match length? (c :: rest) with
    | some n => ((c :: rest).drop n, out ++ new)
    | none => (rest, out ++ [c])

section
variable {isRun : List Char → Prop} {length? : List Char → Option Nat}
  (measures : Measures isRun length?) (new : List Char)
include measures

/-- A turn replaces the run in front, or passes over one character where there is none. -/
theorem turn_cases (c : Char) (rest out : List Char) :
    (∃ run behind, c :: rest = run ++ behind ∧ isRun run ∧
      turn length? new (c :: rest, out) = (behind, out ++ new)) ∨
    ((∀ run, run <+: c :: rest → ¬isRun run) ∧
      turn length? new (c :: rest, out) = (rest, out ++ [c])) := by
  cases found : length? (c :: rest) with
  | some n =>
    obtain ⟨run, behind, whole, h, rfl⟩ := measures.run found
    refine .inl ⟨run, behind, whole, h, ?_⟩
    rw [turn, found]
    show ((c :: rest).drop run.length, out ++ new) = (behind, out ++ new)
    rw [whole, List.drop_left]
  | none =>
    refine .inr ⟨measures.eq_none_iff.mp found, ?_⟩
    rw [turn, found]

theorem turn_shorter {place : List Char} (left : place ≠ []) (out : List Char) :
    (turn length? new (place, out)).1.length < place.length := by
  obtain ⟨c, rest, rfl⟩ := List.exists_cons_of_ne_nil left
  rcases turn_cases measures new c rest out with ⟨run, behind, whole, h, turned⟩ | ⟨-, turned⟩
  · have pos := List.length_pos_iff.mpr (measures.nonempty h)
    rw [turned, whole, List.length_append]
    exact Nat.lt_add_of_pos_left pos
  · rw [turned]
    exact Nat.lt_succ_self rest.length

/-- What has been written and what will come of the rest stay the same together. -/
theorem turn_keeps (place out : List Char) :
    (turn length? new (place, out)).2 ++
      replaceOccurrences length? new 0 (turn length? new (place, out)).1 =
      out ++ replaceOccurrences length? new 0 place := by
  cases place with
  | nil => rfl
  | cons c rest =>
    rcases turn_cases measures new c rest out with ⟨run, behind, whole, h, turned⟩ | ⟨other, turned⟩
    · rw [turned, whole, replaceOccurrences_run measures h, List.append_assoc]
    · rw [turned, replaceOccurrences_char measures other, List.append_assoc, List.singleton_append]

/-- The scan ends after so many turns as there are characters, or fewer. -/
theorem turns (place out : List Char) : ∃ n ≤ place.length,
    (turn length? new)^[n] (place, out) = ([], out ++ replaceOccurrences length? new 0 place) := by
  induction h : place.length using Nat.strongRecOn generalizing place out with
  | ind size ih =>
    by_cases done : place = []
    · subst done
      exact ⟨0, Nat.zero_le _, by rw [replaceOccurrences, List.append_nil]; rfl⟩
    · have shorter := turn_shorter measures new done out
      obtain ⟨n, le, ends⟩ :=
        ih _ (h ▸ shorter) (turn length? new (place, out)).1 (turn length? new (place, out)).2 rfl
      refine ⟨n + 1, by omega, ?_⟩
      rw [Function.iterate_succ_apply, ends, turn_keeps measures new]

end

/-! ### Lower case -/

/-- The lower case forms of the characters, one behind the other. -/
def lowered (s : List Char) : List Char := s.flatMap lowercase

/-- One turn of the scan for a text without regard to case. -/
def caselessTurn (sought new : String) : List Char × List Char → List Char × List Char :=
  turn (caselessLength? (lowered sought.toList)) new.toList

/-- A run is an occurrence of a text when both have the same lower case forms. -/
def Spells (sought run : List Char) : Prop := lowered run = lowered sought

theorem lowered_eq_nil_iff {s : List Char} : lowered s = [] ↔ s = [] := by
  cases s with
  | nil => exact iff_of_true rfl rfl
  | cons c rest =>
    have here (empty : lowered (c :: rest) = []) : lowercase c = [] :=
      (List.append_eq_nil_iff.mp empty).1
    exact iff_of_false (fun empty => lowercase_ne_nil c (here empty)) (List.cons_ne_nil c rest)

theorem lowered_eq_self {s : List Char} (own : ∀ c ∈ s, lowercase c = [c]) : lowered s = s := by
  induction s with
  | nil => rfl
  | cons c rest ih =>
    obtain ⟨here, others⟩ := List.forall_mem_cons.mp own
    rw [lowered, List.flatMap_cons, here]
    exact congrArg (c :: ·) (ih others)

theorem caselessLength?_eq_some_iff {goal s : List Char} {n : Nat} :
    caselessLength? goal s = some n ↔ n ≤ s.length ∧ lowered (s.take n) = goal := by
  induction s generalizing goal n with
  | nil =>
    cases goal with
    | nil => simp [caselessLength?, lowered, eq_comm]
    | cons g goal => simp [caselessLength?, lowered]
  | cons c rest ih =>
    cases goal with
    | nil =>
      rw [caselessLength?, Option.some.injEq, lowered_eq_nil_iff, List.take_eq_nil_iff]
      constructor
      · intro zero
        exact ⟨by omega, .inl zero.symm⟩
      · intro h
        exact (h.2.resolve_right (List.cons_ne_nil c rest)).symm
    | cons g goal =>
      rw [caselessLength?]
      cases n with
      | zero =>
        refine iff_of_false (fun h => ?_) fun h => List.cons_ne_nil g goal h.2.symm
        split at h
        · obtain ⟨m, -, succ⟩ := Option.map_eq_some_iff.mp h
          exact Nat.succ_ne_zero m succ
        · cases h
      | succ n =>
        have front : lowered ((c :: rest).take (n + 1)) = lowercase c ++ lowered (rest.take n) :=
          rfl
        rw [front, List.length_cons, Nat.add_le_add_iff_right]
        split
        next isPrefix =>
          obtain ⟨more, whole⟩ := List.isPrefixOf_iff_prefix.mp isPrefix
          rw [← whole, List.drop_left, List.append_cancel_left_eq, ← ih, Option.map_eq_some_iff]
          simp
        next other =>
          refine iff_of_false nofun fun h => other (List.isPrefixOf_iff_prefix.mpr ?_)
          rw [← h.2]
          exact List.prefix_append _ _

section
variable {sought : List Char} (nonempty : sought ≠ [])
include nonempty

theorem measures_spells : Measures (Spells sought) (caselessLength? (lowered sought)) where
  nonempty {run} h empty := by
    rw [Spells, empty] at h
    exact nonempty (lowered_eq_nil_iff.mp h.symm)
  front {run} rest h := by
    rw [caselessLength?_eq_some_iff, List.take_left]
    exact ⟨by rw [List.length_append]; exact Nat.le_add_right _ _, h⟩
  run {s n} found := by
    obtain ⟨le, h⟩ := caselessLength?_eq_some_iff.mp found
    exact ⟨s.take n, s.drop n, (List.take_append_drop n s).symm, h, List.length_take_of_le le⟩

theorem replaceChars_caseless (new s : List Char) :
    replaceChars sought new true s =
      replaceOccurrences (caselessLength? (lowered sought)) new 0 s := by
  rw [replaceChars, if_neg (by simpa using nonempty), if_pos rfl, lowered]

/-- In texts without case the occurrences of a text are that text itself. -/
theorem Rewritten.replaces {new s s' : List Char} (own : ∀ c ∈ s, lowercase c = [c])
    (own' : ∀ c ∈ sought, lowercase c = [c]) (h : Rewritten (Spells sought) new s s') :
    Replaces sought new s s' := by
  induction h with
  | nil => exact .nil
  | @found run rest rest' h _ ih =>
    have here := lowered_eq_self fun c mem => own c (List.mem_append_left rest mem)
    obtain rfl : run = sought := by rw [← here, h, lowered_eq_self own']
    exact .found (ih fun c mem => own c (List.mem_append_right run mem))
  | passed other _ ih =>
    exact .passed (fun front => other sought front rfl) (ih (List.forall_mem_cons.mp own).2)

end

/-- **Without regard to case the occurrences are replaced from left to right.** What comes of a text
is told by `Rewritten` and by nothing else: an occurrence in front is replaced, and there is at most
one, and where there is none a character is passed over. The scan for them gets on with every turn,
and ends. Two texts with the same lower case forms have the same occurrences. Where no character has
another lower case form, case makes no difference. -/
theorem replaceLiteral_caseless {sought : String} (nonempty : sought ≠ "") (new s : String) :
    (∀ s' : String, Rewritten (Spells sought.toList) new.toList s.toList s'.toList ↔
      s' = replaceLiteral sought new true s) ∧
    (∀ run run' rest rest', run ++ rest = run' ++ rest' → Spells sought.toList run →
      Spells sought.toList run' →
      run = run') ∧
    (∀ place out, place ≠ [] → (caselessTurn sought new (place, out)).1.length < place.length) ∧
    (∃ n ≤ s.length, (caselessTurn sought new)^[n] (s.toList, []) =
      ([], (replaceLiteral sought new true s).toList)) ∧
    (∀ sought' : String, lowered sought'.toList = lowered sought.toList →
      replaceLiteral sought' new true s = replaceLiteral sought new true s) ∧
    ((∀ c ∈ s.toList, lowercase c = [c]) → (∀ c ∈ sought.toList, lowercase c = [c]) →
      replaceLiteral sought new true s = replaceLiteral sought new false s) := by
  have chars : sought.toList ≠ [] := fun empty => nonempty (String.toList_eq_nil_iff.mp empty)
  have measures : Measures (Spells sought.toList) (caselessLength? (lowered sought.toList)) :=
    measures_spells chars
  have replaced : (replaceLiteral sought new true s).toList =
      replaceOccurrences (caselessLength? (lowered sought.toList)) new.toList 0 s.toList := by
    rw [replaceLiteral, String.toList_ofList, replaceChars_caseless chars]
  have told : Rewritten (Spells sought.toList) new.toList s.toList
      (replaceLiteral sought new true s).toList :=
    replaced ▸ rewritten_replaceOccurrences measures s.toList
  refine ⟨fun s' => ⟨fun h => ?_, fun same => same ▸ told⟩, ?_, ?_, ?_, ?_, ?_⟩
  · rw [← String.toList_inj, replaced]
    exact h.eq measures
  · intro run run' rest rest' same h h'
    exact measures.unique same h h'
  · intro place out left
    exact turn_shorter measures new.toList left out
  · obtain ⟨n, le, ends⟩ := turns measures new.toList s.toList []
    rw [List.nil_append, ← replaced] at ends
    exact ⟨n, String.length_toList ▸ le, ends⟩
  · intro sought' same
    have chars' : sought'.toList ≠ [] := fun empty => by
      rw [empty] at same
      exact chars (lowered_eq_nil_iff.mp same.symm)
    rw [replaceLiteral, replaceLiteral, replaceChars_caseless chars, replaceChars_caseless chars',
      same]
  · intro own own'
    exact (replaces_iff nonempty).mp (told.replaces chars own own')

/-- Both spellings of `ab` are replaced, however the sought text is spelled. -/
theorem replaceLiteral_caseless_ab :
    "Ab" ≠ "" ∧ replaceLiteral "Ab" "-" true "xaBABy" = "x--y" ∧
      replaceLiteral "aB" "-" true "xaBABy" = replaceLiteral "Ab" "-" true "xaBABy" ∧
      replaceLiteral "ab" "-" true "xabab" = replaceLiteral "ab" "-" false "xabab" := by
  have nonempty : "Ab" ≠ "" := by decide
  have own (s : List Char) (each : s.all (fun c => lowercase c == [c]) = true) : ∀ c ∈ s,
      lowercase c = [c] :=
    fun c mem => eq_of_beq (List.all_eq_true.mp each c mem)
  obtain ⟨-, -, -, -, forms, -⟩ := replaceLiteral_caseless nonempty "-" "xaBABy"
  obtain ⟨-, -, -, -, -, plain⟩ := replaceLiteral_caseless (show "ab" ≠ "" by decide) "-" "xabab"
  refine ⟨nonempty, by decide +kernel, forms "aB" (by decide), plain (own _ ?_) (own _ ?_)⟩
  · decide
  · decide

end Conlang.Text
