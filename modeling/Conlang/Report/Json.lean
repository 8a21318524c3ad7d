/-! JSON values whose objects keep their order, and their text with line breaks. -/
namespace Conlang.Report

inductive Json where
  | null
  | boolean (b : Bool)
  | number (n : Nat)
  | string (s : String)
  | array (elements : List Json)
  | object (entries : List (String × Json))
  deriving Repr

namespace Json

/-- A string, or null. -/
def optional : Option String → Json
  | some s => .string s
  | none => .null

/-! ### Text -/

/-- Four hexadecimal digits. -/
def unit (n : Nat) : List Char :=
  let digits := Nat.toDigits 16 n
  List.replicate (4 - digits.length) '0' ++ digits

def escapedChar (c : Char) : List Char :=
  if c = '"' ∨ c = '\\' then ['\\', c]
  else if c = '\x08' then ['\\', 'b']
  else if c = '\x0c' then ['\\', 'f']
  else if c = '\n' then ['\\', 'n']
  else if c = '\r' then ['\\', 'r']
  else if c = '\t' then ['\\', 't']
  else if c < ' ' then '\\' :: 'u' :: unit c.toNat
  else [c]

def escaped (s : String) : String := .ofList ('"' :: s.toList.flatMap escapedChar ++ ['"'])

/-- The start of a line at a depth. -/
def lineStart (depth : Nat) : String := .ofList ('\n' :: List.replicate (2 * depth) ' ')

mutual

/-- The text of a value, two blanks deeper with each container. -/
def prettyAt (depth : Nat) : Json → String
  | .null => "null"
  | .boolean true => "true"
  | .boolean false => "false"
  | .number n => toString n
  | .string s => escaped s
  | .array [] => "[]"
  | .array (v :: rest) =>
    "[" ++ lineStart (depth + 1) ++ prettyAt (depth + 1) v ++ prettyElements (depth + 1) rest
      ++ lineStart depth ++ "]"
  | .object [] => "\x7b\x7d"
  | .object ((key, v) :: rest) =>
    "\x7b" ++ lineStart (depth + 1) ++ escaped key ++ ": " ++ prettyAt (depth + 1) v
      ++ prettyEntries (depth + 1) rest ++ lineStart depth ++ "\x7d"

def prettyElements (depth : Nat) : List Json → String
  | [] => ""
  | v :: rest => "," ++ lineStart depth ++ prettyAt depth v ++ prettyElements depth rest

def prettyEntries (depth : Nat) : List (String × Json) → String
  | [] => ""
  | (key, v) :: rest =>
    "," ++ lineStart depth ++ escaped key ++ ": " ++ prettyAt depth v ++ prettyEntries depth rest

end

def pretty (j : Json) : String := prettyAt 0 j

end Json

end Conlang.Report
