import Conlang.Lexicon
import Conlang.Paradigm.Combination
import Conlang.Text.Blank
import Std.Data.ExtTreeSet

/-! Forms that are hidden from listings.

A `Suppression` is a set of combinations, each with its part of speech. It is written as entries
between semicolons, `1,,2,3,;1,7`: a type id, a comma and a combination. The type id ends at the
first comma, so the commas of a cell do no harm. Reading takes each entry by itself and reports
those that are malformed. -/
namespace Conlang
open Std Text

/-- A form of a part of speech. -/
structure TypedForm where
  type : Id
  combination : Combination
  deriving DecidableEq

namespace TypedForm

instance : Ord TypedForm := ⟨compareLex (compareOn type) (compareOn combination)⟩

instance : TransOrd TypedForm :=
  inferInstanceAs (TransCmp (compareLex (compareOn type) (compareOn combination)))

instance : LawfulEqOrd TypedForm where
  eq_of_compare {a b} h := by
    obtain ⟨types, combinations⟩ : compare a.type b.type = .eq ∧
      compare a.combination b.combination = .eq :=
      compareLex_eq_eq.mp h
    obtain ⟨type, combination⟩ := a
    obtain rfl : type = b.type := LawfulEqCmp.eq_of_compare types
    obtain rfl : combination = b.combination := LawfulEqCmp.eq_of_compare combinations
    rfl

def chars (f : TypedForm) : List Char := Numeral.decimal f.type.toNat ++ ',' :: f.combination.chars

/-- Why an entry names no form. -/
inductive Fault where
  | noComma
  | badType (fault : NumeralFault)
  | badCombination (malformed : Combination.Malformed)
  deriving Repr, DecidableEq

def Fault.message : Fault → String
  | .noComma => "missing ',' between type id and combination"
  | .badType fault => s!"bad type id: {fault.message}"
  | .badCombination malformed => malformed.message

def read (entry : List Char) : Except Fault TypedForm := do
  let some (type, combination) := before? ',' entry | .error .noComma
  let type ← (readNumber (trimChars type)).mapError .badType
  let combination ← (Combination.parse (.ofList combination)).mapError .badCombination
  .ok ⟨type, combination⟩

end TypedForm

structure Suppression where
  forms : ExtTreeSet TypedForm := ∅

namespace Suppression

def empty : Suppression := {}

def contains (s : Suppression) (type : Id) (c : Combination) : Bool := s.forms.contains ⟨type, c⟩

/-- Hides a form, or shows it again. -/
def set (s : Suppression) (type : Id) (c : Combination) (hidden : Bool) : Suppression :=
  ⟨if hidden then s.forms.insert ⟨type, c⟩ else s.forms.erase ⟨type, c⟩⟩

/-- Shows those forms of a part of speech again that are chosen. -/
def release (s : Suppression) (type : Id) (chosen : Combination → Bool) : Suppression :=
  ⟨s.forms.filter fun f => f.type != type || !chosen f.combination⟩

/-- The forms by type id, and by text for each. -/
def toList (s : Suppression) : List TypedForm := s.forms.toList

/-! ### Text -/

def encode (s : Suppression) : String := ";".intercalate (s.toList.map fun f => .ofList f.chars)

/-- An entry that could not be read. -/
structure Rejected where
  entry : String
  fault : TypedForm.Fault
  deriving Repr, DecidableEq

def Rejected.reason (r : Rejected) : String := r.fault.message

def Rejected.message (r : Rejected) : String :=
  s!"malformed suppression entry \"{r.entry}\": {r.reason}"

/-- The entries of a text; blanks around an entry do not belong to it. -/
def entries (raw : List Char) : List (List Char) :=
  ((fields ';' raw).map trimChars).filter (!·.isEmpty)

def readForm? (entry : List Char) : Option TypedForm := (TypedForm.read entry).toOption

def rejected? (entry : List Char) : Option Rejected :=
  match TypedForm.read entry with
  | .ok _ => none
  | .error fault => some ⟨.ofList entry, fault⟩

def parse (raw : String) : Suppression × List Rejected :=
  let all := entries raw.toList
  (⟨.ofList (all.filterMap readForm?)⟩, all.filterMap rejected?)

end Suppression

end Conlang
