/-! Text cut at a separator.

`fields` gives the stretches between the separators, empty ones included, so there is one more of
them than there are separators; `before?` cuts at the first separator only. -/
namespace Conlang.Text

def fields (separator : Char) : List Char → List (List Char)
  | [] => [[]]
  | c :: rest =>
    if c = separator then [] :: fields separator rest
    else match fields separator rest with
      | [] => [[c]]
      | field :: more => (c :: field) :: more

/-- What stands before the first separator, and what stands behind it. -/
def before? (separator : Char) (s : List Char) : Option (List Char × List Char) :=
  match s.dropWhile (· != separator) with
  | [] => none
  | _ :: rest => some (s.takeWhile (· != separator), rest)

theorem fields_ne_nil (separator : Char) (s : List Char) : fields separator s ≠ [] := by
  cases s with
  | nil => simp [fields]
  | cons c rest =>
    rw [fields]
    split
    · simp
    · split <;> simp

/-- A separator ends a field, whatever stands before it and behind it. -/
theorem fields_append_cons (separator : Char) (a b : List Char) :
    fields separator (a ++ separator :: b) = fields separator a ++ fields separator b := by
  induction a with
  | nil => simp [fields]
  | cons c rest ih =>
    rw [List.cons_append, fields, fields, ih]
    split
    · rfl
    · cases h : fields separator rest with
      | nil => exact absurd h (fields_ne_nil separator rest)
      | cons field more => rfl

theorem fields_of_notMem {separator : Char} {a : List Char} (h : separator ∉ a) :
    fields separator a = [a] := by
  induction a with
  | nil => rfl
  | cons c rest ih =>
    obtain ⟨ne, absent⟩ := not_or.mp (mt List.mem_cons.mpr h)
    rw [fields, if_neg (Ne.symm ne), ih absent]

theorem fields_append {separator : Char} {a : List Char} (h : separator ∉ a) (b : List Char) :
    fields separator (a ++ separator :: b) = a :: fields separator b := by
  rw [fields_append_cons, fields_of_notMem h]
  rfl

theorem before?_append {separator : Char} {a : List Char} (h : separator ∉ a) (b : List Char) :
    before? separator (a ++ separator :: b) = some (a, b) := by
  have passes : ∀ c ∈ a, (c != separator) = true := fun c hc => bne_iff_ne.mpr fun eq => h (eq ▸ hc)
  rw [before?, List.dropWhile_append_of_pos passes, List.takeWhile_append_of_pos passes]
  simp

end Conlang.Text
