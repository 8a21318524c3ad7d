import Conlang.Text.Fields
import Conlang.Text.Numeral

/-! Which form of a word is meant.

A `Combination` names a cell of the grid that the dimensions span, by one value id for each
dimension, or an extra form beside the grid. A cell is written with a comma around every id, as in
`,2,3,`, and an extra form as its bare id. A combination keeps how its numbers are spelled:
combinations are the same when their texts are (`chars_injective`), and they are ordered by their
texts. -/
namespace Conlang
open Text

inductive Combination where
  | cell (slots : List Numeral)
  | extra (form : Numeral)
  deriving DecidableEq

namespace Combination

def ofValues (values : List UInt32) : Combination := .cell (values.map .ofNumber)

def ofForm (form : UInt32) : Combination := .extra (.ofNumber form)

/-- Has a place in the grid. -/
def isCell : Combination → Bool
  | .cell _ => true
  | .extra _ => false

/-- The value ids, dimension by dimension; an extra form has none. -/
def values : Combination → List UInt32
  | .cell slots => slots.map (·.value)
  | .extra _ => []

def valueAt? (c : Combination) (slot : Nat) : Option UInt32 := c.values[slot]?

def form? : Combination → Option UInt32
  | .cell _ => none
  | .extra form => some form.value

/-! ### Text -/

def slotChars (slots : List Numeral) : List Char := slots.flatMap fun n => n.chars ++ [',']

def chars : Combination → List Char
  | .cell slots => ',' :: slotChars slots
  | .extra form => form.chars

def text (c : Combination) : String := .ofList c.chars

/-- Every slot of a cell is closed by a comma. -/
def readSlots (s : List Char) : Option (List Numeral) :=
  let parts := fields ',' s
  if parts.getLast? = some [] then parts.dropLast.mapM fun part =>
    (Numeral.read part).toOption else none

def read : List Char → Option Combination
  | ',' :: slots => (readSlots slots).map .cell
  | form => (Numeral.read form).toOption.map .extra

/-- The text names no form. -/
structure Malformed where
  text : String
  deriving Repr, DecidableEq

def Malformed.message (m : Malformed) : String := s!"malformed combination id \"{m.text}\""

def parse (text : String) : Except Malformed Combination :=
  match read text.toList with
  | some c => .ok c
  | none => .error ⟨text⟩

/-! ### Reading what was written -/

/-- No numeral has a comma in it, so the commas cut a cell between its numerals and behind the last
one. -/
theorem fields_slotChars (slots : List Numeral) :
    fields ',' (slotChars slots) = slots.map Numeral.chars ++ [[]] := by
  induction slots with
  | nil => rfl
  | cons n rest ih =>
    simp only [slotChars, List.flatMap_cons, List.append_assoc, List.map_cons, List.cons_append]
    rw [fields_append n.comma_notMem, ← ih]
    rfl

theorem readSlots_slotChars (slots : List Numeral) : readSlots (slotChars slots) = some slots := by
  have each : (slots.map Numeral.chars).mapM (fun part => (Numeral.read part).toOption) =
      some slots := by
    induction slots with
    | nil => rfl
    | cons n rest ih =>
      rw [List.map_cons, List.mapM_cons, ih, n.read_chars]
      rfl
  simp [readSlots, fields_slotChars, each]

theorem read_chars (c : Combination) : read c.chars = some c := by
  cases c with
  | cell slots => simp [chars, read, readSlots_slotChars]
  | extra form =>
    rw [chars, read]
    · simp [Numeral.read_chars, Except.toOption]
    · intro slots eq
      exact form.comma_notMem (by simp [eq])

theorem chars_injective {c d : Combination} (h : c.chars = d.chars) : c = d := by
  have := congrArg read h
  simpa [read_chars] using this

/-! ### Order -/

instance : Ord Combination := ⟨compareOn chars⟩

instance : Std.TransOrd Combination := inferInstanceAs (Std.TransCmp (compareOn chars))

instance : Std.LawfulEqOrd Combination where
  eq_of_compare h := chars_injective (Std.LawfulEqCmp.eq_of_compare h)

end Combination

end Conlang
