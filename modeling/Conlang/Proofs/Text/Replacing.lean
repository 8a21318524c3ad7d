import Conlang.Text.Literal

/-! Replacing a text by another.

`Rewritten` tells what comes of a text when every run of a kind is replaced, without saying how
these are looked for: from left to right, what stands at the front is replaced if it is such a run,
and otherwise one character is passed over. A scan comes to this and to nothing else if it measures
the runs (`rewritten_replaceOccurrences`, `Rewritten.eq`).

`Replaces` is the same for the occurrences of a text, and just one text comes of it
(`replaces_iff`). What has been replaced by a character that stands nowhere else can be put back
again (`Replaces.undo`), for the character then stands just where the sought text stood. -/
namespace Conlang.Text

/-! ### Runs of a kind -/

inductive Rewritten (isRun : List Char → Prop) (new : List Char) :
    List Char → List Char → Prop where
  | nil : Rewritten isRun new [] []
  | found {run rest rest'} : isRun run → Rewritten isRun new rest rest' →
      Rewritten isRun new (run ++ rest) (new ++ rest')
  | passed {c rest rest'} : (∀ run, run <+: c :: rest → ¬isRun run) →
    Rewritten isRun new rest rest' →
      Rewritten isRun new (c :: rest) (c :: rest')

/-- No run is empty, and `length?` finds the run at the front of a text. -/
structure Measures (isRun : List Char → Prop) (length? : List Char → Option Nat) : Prop where
  nonempty : ∀ {run}, isRun run → run ≠ []
  front : ∀ {run} rest, isRun run → length? (run ++ rest) = some run.length
  run : ∀ {s n}, length? s = some n → ∃ run rest, s = run ++ rest ∧ isRun run ∧ run.length = n

theorem replaceOccurrences_skip (length? : List Char → Option Nat) (new : List Char) (skip : Nat)
    (s : List Char) :
    replaceOccurrences length? new skip s = replaceOccurrences length? new 0 (s.drop skip) := by
  induction s generalizing skip with
  | nil => cases skip <;> rfl
  | cons c rest ih =>
    cases skip with
    | zero => rfl
    | succ skip => exact ih skip

section
variable {isRun : List Char → Prop} {length? : List Char → Option Nat}
  (measures : Measures isRun length?) {new s s' : List Char}
include measures

/-- At most one run begins at a place. -/
theorem Measures.unique {run run' rest rest' : List Char} (same : run ++ rest = run' ++ rest')
    (h : isRun run) (h' : isRun run') : run = run' := by
  have first := measures.front rest h
  rw [same, measures.front rest' h', Option.some.injEq] at first
  exact (List.append_inj same first.symm).1

theorem Measures.eq_none_iff : length? s = none ↔ ∀ run, run <+: s → ¬isRun run := by
  rw [Option.eq_none_iff_forall_ne_some]
  constructor
  · intro none run ⟨rest, whole⟩ h
    exact none run.length (whole ▸ measures.front rest h)
  · intro other n found
    obtain ⟨run, rest, rfl, h, -⟩ := measures.run found
    exact other run (List.prefix_append run rest) h

theorem replaceOccurrences_run {run : List Char} (h : isRun run) (rest : List Char) :
    replaceOccurrences length? new 0 (run ++ rest) =
      new ++ replaceOccurrences length? new 0 rest := by
  have here := measures.front rest h
  obtain ⟨c, tail, rfl⟩ := List.exists_cons_of_ne_nil (measures.nonempty h)
  rw [List.cons_append] at here ⊢
  rw [replaceOccurrences, here]
  simp [replaceOccurrences_skip _ _ tail.length]

theorem replaceOccurrences_char {c : Char} {rest : List Char}
    (other : ∀ run, run <+: c :: rest → ¬isRun run) :
    replaceOccurrences length? new 0 (c :: rest) = c :: replaceOccurrences length? new 0 rest := by
  rw [replaceOccurrences, measures.eq_none_iff.mpr other]

theorem Rewritten.eq (h : Rewritten isRun new s s') : s' = replaceOccurrences length? new 0 s := by
  induction h with
  | nil => rfl
  | found h _ ih => rw [replaceOccurrences_run measures h, ih]
  | passed other _ ih => rw [replaceOccurrences_char measures other, ih]

theorem rewritten_replaceOccurrences (s : List Char) :
    Rewritten isRun new s (replaceOccurrences length? new 0 s) := by
  match s with
  | [] => exact .nil
  | c :: rest =>
    by_cases front : ∃ run, run <+: c :: rest ∧ isRun run
    · obtain ⟨run, ⟨behind, whole⟩, h⟩ := front
      have shorter : behind.length < (c :: rest).length := by
        have := List.length_pos_iff.mpr (measures.nonempty h)
        rw [← whole, List.length_append]
        omega
      rw [← whole, replaceOccurrences_run measures h]
      exact .found h (rewritten_replaceOccurrences behind)
    · have other (run : List Char) (isPrefix : run <+: c :: rest) : ¬isRun run := fun h =>
        front ⟨run, isPrefix, h⟩
      rw [replaceOccurrences_char measures other]
      exact .passed other (rewritten_replaceOccurrences rest)
termination_by s.length
decreasing_by
  · exact shorter
  · exact Nat.lt_succ_self rest.length

end

/-! ### Occurrences of a text -/

inductive Replaces (sought new : List Char) : List Char → List Char → Prop where
  | nil : Replaces sought new [] []
  | found {rest rest'} : Replaces sought new rest rest' →
    Replaces sought new (sought ++ rest) (new ++ rest')
  | passed {c rest rest'} : ¬sought <+: c :: rest → Replaces sought new rest rest' →
      Replaces sought new (c :: rest) (c :: rest')

section
variable {sought new : List Char}

/-- An occurrence of a text is that text itself. -/
theorem rewritten_iff_replaces {s s' : List Char} :
    Rewritten (· = sought) new s s' ↔ Replaces sought new s s' := by
  constructor
  · intro h
    induction h with
    | nil => exact .nil
    | found same _ ih =>
      subst same
      exact .found ih
    | passed other _ ih => exact .passed (fun front => other sought front rfl) ih
  · intro h
    induction h with
    | nil => exact .nil
    | found _ ih => exact .found rfl ih
    | passed other _ ih => exact .passed (fun run front same => other (same ▸ front)) ih

variable (nonempty : sought ≠ [])
include nonempty

theorem measures_exact : Measures (· = sought) (exactLength? sought) where
  nonempty same := same ▸ nonempty
  front {run} rest same := by
    subst same
    exact if_pos (List.isPrefixOf_iff_prefix.mpr (List.prefix_append run rest))
  run {s n} found := by
    rw [exactLength?] at found
    split at found
    next front =>
      obtain ⟨rest, rfl⟩ := List.isPrefixOf_iff_prefix.mp front
      exact ⟨sought, rest, rfl, rfl, Option.some.inj found⟩
    · cases found

theorem replaceChars_exact (new s : List Char) :
    replaceChars sought new false s = replaceOccurrences (exactLength? sought) new 0 s := by
  rw [replaceChars, if_neg (by simpa using nonempty), if_neg Bool.false_ne_true]

end

/-- Replacing has one outcome. -/
theorem replaces_iff {sought new s s' : String} (nonempty : sought ≠ "") :
    Replaces sought.toList new.toList s.toList s'.toList ↔
      s' = replaceLiteral sought new false s := by
  have chars : sought.toList ≠ [] := fun h => nonempty (String.toList_eq_nil_iff.mp h)
  have measures := measures_exact chars
  rw [← rewritten_iff_replaces, replaceLiteral, replaceChars_exact chars]
  constructor
  · intro h
    rw [← h.eq measures, String.ofList_toList]
  · rintro rfl
    rw [String.toList_ofList]
    exact rewritten_replaceOccurrences measures s.toList

/-! ### Putting back what has been replaced -/

section
variable {x : Char} {s : List Char} (fresh : x ∉ s)
include fresh

/-- The character stands just where the sought text stood. -/
theorem Replaces.undo {sought s' : List Char} (h : Replaces sought [x] s s') :
    Replaces [x] sought s' s := by
  induction h with
  | nil => exact .nil
  | found _ ih => exact .found (ih fun later => fresh (List.mem_append_right _ later))
  | passed _ _ ih =>
    rw [List.mem_cons, not_or] at fresh
    refine .passed (fun front => fresh.1 ?_) (ih fresh.2)
    exact (List.cons_prefix_cons.mp front).1

/-- Nothing is replaced where the sought character does not occur. -/
theorem Replaces.of_notMem (new : List Char) : Replaces [x] new s s := by
  induction s with
  | nil => exact .nil
  | cons c rest ih =>
    rw [List.mem_cons, not_or] at fresh
    exact .passed (fun front => fresh.1 (List.cons_prefix_cons.mp front).1) (ih fresh.2)

end

end Conlang.Text
