import Conlang.Text.Casing

/-! Replacing one text by another, letter by letter.

Occurrences are taken from left to right, the next one behind the last. An occurrence is exact, or,
without regard to case, a row of characters whose lower case forms spell the sought text's. -/
namespace Conlang.Text

/-- A text stands somewhere in another. -/
def occursIn (sought : List Char) : List Char → Bool
  | [] => sought.isEmpty
  | c :: rest => sought.isPrefixOf (c :: rest) || occursIn sought rest

/-- Replaces occurrences; `length?` gives the length of one at the front of a text. The first `skip`
characters belong to an occurrence that has been replaced. -/
def replaceOccurrences (length? : List Char → Option Nat) (new : List Char) :
    Nat → List Char → List Char
  | _, [] => []
  | skip + 1, _ :: rest => replaceOccurrences length? new skip rest
  | 0, c :: rest =>
    match length? (c :: rest) with
    | some n => new ++ replaceOccurrences length? new (n - 1) rest
    | none => c :: replaceOccurrences length? new 0 rest

/-- How many characters at the front of a text spell `sought`. -/
def exactLength? (sought s : List Char) : Option Nat :=
  if sought.isPrefixOf s then some sought.length else none

/-- How many characters at the front of a text have lower case forms that together spell
`sought`. -/
def caselessLength? : List Char → List Char → Option Nat
  | [], _ => some 0
  | _ :: _, [] => none
  | s :: sought, c :: rest =>
    if (lowercase c).isPrefixOf (s :: sought) then
      (caselessLength? ((s :: sought).drop (lowercase c).length) rest).map (· + 1)
    else none

/-- Replaces every occurrence; there is none of the empty text. -/
def replaceChars (sought new : List Char) (ignoreCase : Bool) (s : List Char) : List Char :=
  if sought.isEmpty then s
  else if ignoreCase then replaceOccurrences (caselessLength? (sought.flatMap lowercase)) new 0 s
  else replaceOccurrences (exactLength? sought) new 0 s

def replaceLiteral (sought new : String) (ignoreCase : Bool) (s : String) : String :=
  .ofList (replaceChars sought.toList new.toList ignoreCase s.toList)

end Conlang.Text
