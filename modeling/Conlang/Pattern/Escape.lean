import Conlang.Pattern.Error
import Conlang.Pattern.Syntax
import Conlang.Text.Casing
import Conlang.Text.Letter
import Conlang.Text.PropertyName

/-! What a backslash introduces.

`Escape.read` reads what follows a backslash. Inside a character class an escape stands for a
character or a set of them; outside it may also be a place, a reference or a command to the
search. -/
namespace Conlang.Pattern
open Text

/-- A group as a pattern refers to it: by its number, or by what stands between delimiters. -/
inductive Reference where
  | number (index : Nat)
  | label (text : String)
  deriving Repr, DecidableEq

inductive Escape where
  /-- A character; one that is written by its code follows the case of the pattern. -/
  | char (c : Char) (coded : Bool)
  | set (chars : CharSet)
  | assertion (place : Assertion)
  | reference (r : Reference)
  | keepOut
  | searchStart

/-! ### Numbers and names -/

/-- The largest number that a pattern can hold. -/
def maxNumber : Nat := Nat.pow 2 64 - 1

def isDigit (c : Char) : Bool := '0' ≤ c && c ≤ '9'

def digitsValue (ds : List Char) : Nat := ds.foldl (fun n d => n * 10 + (d.toNat - 48)) 0

/-- The number at the head of a text, and what follows it. -/
def readNumber? (s : List Char) : Option (Nat × List Char) :=
  let digits := s.takeWhile isDigit
  let n := digitsValue digits
  if digits.isEmpty || n > maxNumber then none else some (n, s.dropWhile isDigit)

def isNameChar (c : Char) : Bool := isAlphanumeric c || c == '_'

/-- A name up to a closing character, with a hyphen before it where that is allowed. -/
def readName? (close : Char) (hyphen : Bool) (s : List Char) : Option (String × List Char) :=
  let (sign, body) := match hyphen, s with
    | true, '-' :: rest => (['-'], rest)
    | _, _ => ([], s)
  let name := sign ++ body.takeWhile isNameChar
  match body.dropWhile isNameChar with
  | c :: rest => if c = close && !name.isEmpty then some (.ofList name, rest) else none
  | [] => none

namespace Escape

/-! ### Characters by their code -/

def hexValue (ds : List Char) : Nat :=
  ds.foldl (fun n d => n * 16 + (CharSet.hexDigit? d).getD 0) 0

def isHexDigit (c : Char) : Bool := (CharSet.hexDigit? c).isSome

def ofCode (code : Nat) (rest : List Char) : Except Fault (Escape × List Char) :=
  if code.isValidChar then .ok (.char (.ofNat code) true, rest) else .error (.notACharacter code)

/-- As many digits as the escape asks for, or up to eight of them in braces. -/
def readHex (digits : Nat) (s : List Char) : Except Fault (Escape × List Char) :=
  let plain := s.take digits
  if plain.length = digits && plain.all isHexDigit then ofCode (hexValue plain) (s.drop digits)
  else match s with
    | '{' :: body =>
      let code := body.takeWhile isHexDigit
      match body.dropWhile isHexDigit with
      | '}' :: rest =>
        if code.isEmpty || code.length > 8 then .error .badHexEscape
          else ofCode (hexValue code) rest
      | _ => .error .badHexEscape
    | _ => .error .badHexEscape

/-! ### Characters by their properties -/

/-- Cuts a text before the first occurrence of a mark, and drops the mark. -/
def cutAt? (mark : List Char) : List Char → Option (List Char × List Char)
  | [] => none
  | c :: rest =>
    if mark.isPrefixOf (c :: rest) then some ([], (c :: rest).drop mark.length)
    else (cutAt? mark rest).map fun (before, after) => (c :: before, after)

/-- The set that the text between the braces of a property names; an unequal sign turns it round. -/
def propertySet (foldCase negated : Bool) (text : List Char) : Except Fault CharSet :=
  let (found, unequal) := match cutAt? ['!', '='] text with
    | some (name, value) => (valuedChars? (.ofList name) (.ofList value), true)
    | none => match cutAt? [':'] text <|> cutAt? ['='] text with
      | some (name, value) => (valuedChars? (.ofList name) (.ofList value), false)
      | none => (namedChars? (.ofList text), false)
  match found with
  | none => .error (.unknownProperty (.ofList text))
  | some chars =>
    let folded := if foldCase then chars.foldCase else chars
    .ok (if negated != unequal then folded.complement else folded)

def readProperty (foldCase negated : Bool) : List Char → Except Fault (Escape × List Char)
  | [] => .error (.unknownEscape 'p')
  | '{' :: body =>
    match cutAt? ['}'] body with
    | none => .error (.unknownProperty "")
    | some (name, rest) => (propertySet foldCase negated name).map fun chars => (.set chars, rest)
  | c :: rest => (propertySet foldCase negated [c]).map fun chars => (.set chars, rest)

/-! ### Single letters -/

def hexDigits : CharSet := ⟨[(0x30, 0x39), (0x41, 0x46), (0x61, 0x66)]⟩

/-- The sets that go by one letter; the capital letter is the complement. -/
def letterSet? : Char → Option CharSet
  | 'd' => some digitChars
  | 'D' => some digitChars.complement
  | 's' => some blankChars
  | 'S' => some blankChars.complement
  | 'w' => some wordChars
  | 'W' => some wordChars.complement
  | 'h' => some hexDigits
  | 'H' => some hexDigits.complement
  | _ => none

/-- The characters that go by one letter. -/
def letterChar? : Char → Option Char
  | 'a' => some (.ofNat 7)
  | 'b' => some (.ofNat 8)
  | 't' => some '\t'
  | 'n' => some '\n'
  | 'v' => some (.ofNat 11)
  | 'f' => some (.ofNat 12)
  | 'r' => some '\r'
  | 'e' => some (.ofNat 27)
  | _ => none

/-- Letters with a meaning outside a class stand for themselves inside one. -/
def plainInClass : List Char := ['k', 'A', 'z', 'B', 'K', 'G']

/-- A word boundary must not be followed by a brace. -/
def boundary (place : Assertion) : List Char → Except Fault (Escape × List Char)
  | '{' :: _ => .error (.unknownEscape '{')
  | rest => .ok (.assertion place, rest)

/-- What has a meaning only outside a class. -/
def readOutside? (s : List Char) : Option (Except Fault (Escape × List Char)) :=
  match s with
  | 'A' :: rest => some (.ok (.assertion .textStart, rest))
  | 'z' :: rest => some (.ok (.assertion .textEnd, rest))
  | 'b' :: rest => some (boundary .wordBoundary rest)
  | 'B' :: rest => some (boundary .noWordBoundary rest)
  | '<' :: rest => some (.ok (.assertion .wordStart, rest))
  | '>' :: rest => some (.ok (.assertion .wordEnd, rest))
  | 'K' :: rest => some (.ok (.keepOut, rest))
  | 'G' :: rest => some (.ok (.searchStart, rest))
  | 'k' :: '\'' :: rest => some (named '\'' rest)
  | 'k' :: '<' :: rest => some (named '>' rest)
  | 'k' :: _ => some (.error .badGroupName)
  | _ => none
where
  named (close : Char) (rest : List Char) : Except Fault (Escape × List Char) :=
    match readName? close true rest with
    | some (name, rest) => .ok (.reference (.label name), rest)
    | none => .error .badGroupName

/-- What follows a backslash, and the text after it. -/
def read (foldCase inClass : Bool) (s : List Char) : Except Fault (Escape × List Char) :=
  match s with
  | [] => .error .trailingBackslash
  | c :: rest =>
    if isDigit c then
      match readNumber? s with
      | some (n, rest) => .ok (.reference (.number n), rest)
      | none => .error .unknownGroup
    else match (if inClass then none else readOutside? s) with
    | some answer => answer
    | none =>
      match letterSet? c with
      | some chars => .ok (.set chars, rest)
      | none =>
        match c with
        | 'x' => readHex 2 rest
        | 'u' => readHex 4 rest
        | 'U' => readHex 8 rest
        | 'p' => readProperty foldCase false rest
        | 'P' => readProperty foldCase true rest
        | _ =>
          match letterChar? c with
          | some named => .ok (.char named false, rest)
          | none =>
            if c.isAlpha && !plainInClass.contains c then .error (.unknownEscape c)
            else .ok (.char c false, rest)

end Escape

end Conlang.Pattern
