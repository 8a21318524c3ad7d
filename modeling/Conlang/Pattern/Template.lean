import Conlang.Pattern.Error
import Conlang.Pattern.Escape
import Conlang.Pattern.Subject

/-! Replacement texts.

In a template a backslash makes the next character plain, `$` with digits stands for a group by
number and `${name}` for a group by name. A number ends where a longer one would name no group.
`parse` reads a template, `expand` fills in what the groups have matched; a group without a match is
empty. -/
namespace Conlang.Pattern

inductive Piece where
  | char (c : Char)
  | group (index : Nat)
  | name (label : String)
  deriving Repr, DecidableEq

namespace Template

/-- Where in a template the reader is. -/
inductive Mode where
  | plain
  | escaped
  | dollar
  | name (read : List Char)
  | number (n : Nat)

/-- The mode that a character begins; a character that begins none stands for itself. -/
def opens? (c : Char) : Option Mode :=
  if c = '\\' then some .escaped else if c = '$' then some .dollar else none

/-- Reads the rest of a template against the number of groups and their names. -/
def parseFrom (groups : Nat) (names : List String) :
    Mode → List Char → Except TemplateFault (List Piece)
  | .plain, [] => .ok []
  | .plain, c :: rest =>
    match opens? c with
    | some mode => parseFrom groups names mode rest
    | none => (.char c :: ·) <$> parseFrom groups names .plain rest
  | .escaped, [] => .error .trailingBackslash
  | .escaped, c :: rest => (.char c :: ·) <$> parseFrom groups names .plain rest
  | .dollar, [] => .error .loneDollar
  | .dollar, c :: rest =>
    if c = '{' then parseFrom groups names (.name []) rest
    else if isDigit c then
      if c.toNat - 48 ≤ groups then parseFrom groups names (.number (c.toNat - 48)) rest
      else .error (.noGroup (c.toNat - 48))
    else .error .loneDollar
  | .name _, [] => .error .unclosedName
  | .name read, c :: rest =>
    if c = '}' then
      let label := String.ofList read.reverse
      if read.isEmpty then .error .unclosedName
      else if names.contains label then (.name label :: ·) <$> parseFrom groups names .plain rest
      else .error (.noName label)
    else parseFrom groups names (.name (c :: read)) rest
  | .number n, [] => .ok [.group n]
  | .number n, c :: rest =>
    if isDigit c && n * 10 + (c.toNat - 48) ≤ groups then
      parseFrom groups names (.number (n * 10 + (c.toNat - 48))) rest
    else (.group n :: ·) <$>
      match opens? c with
      | some mode => parseFrom groups names mode rest
      | none => (.char c :: ·) <$> parseFrom groups names .plain rest

section
variable {groups : Nat} {names : List String} (c : Char) (rest : List Char)

theorem parseFrom_backslash :
    parseFrom groups names .plain ('\\' :: rest) = parseFrom groups names .escaped rest := rfl

theorem parseFrom_sign :
    parseFrom groups names .plain ('$' :: rest) = parseFrom groups names .dollar rest := rfl

variable {c} in
theorem parseFrom_plain_cons (backslash : c ≠ '\\') (dollar : c ≠ '$') :
    parseFrom groups names .plain (c :: rest) =
      (.char c :: ·) <$> parseFrom groups names .plain rest := by
  rw [parseFrom, opens?, if_neg backslash, if_neg dollar]

theorem parseFrom_escaped_cons :
    parseFrom groups names .escaped (c :: rest) =
      (.char c :: ·) <$> parseFrom groups names .plain rest := rfl

theorem parseFrom_dollar_cons :
    parseFrom groups names .dollar (c :: rest) =
      if c = '{' then parseFrom groups names (.name []) rest
      else if isDigit c then
        if c.toNat - 48 ≤ groups then parseFrom groups names (.number (c.toNat - 48)) rest
        else .error (.noGroup (c.toNat - 48))
      else .error .loneDollar := rfl

theorem parseFrom_name_cons (read : List Char) :
    parseFrom groups names (.name read) (c :: rest) =
      if c = '}' then
        if read.isEmpty then .error .unclosedName
        else if names.contains (String.ofList read.reverse) then
          (.name (String.ofList read.reverse) :: ·) <$> parseFrom groups names .plain rest
        else .error (.noName (String.ofList read.reverse))
      else parseFrom groups names (.name (c :: read)) rest := rfl

theorem parseFrom_number_cons (n : Nat) :
    parseFrom groups names (.number n) (c :: rest) =
      if isDigit c && n * 10 + (c.toNat - 48) ≤ groups then
        parseFrom groups names (.number (n * 10 + (c.toNat - 48))) rest
      else (.group n :: ·) <$> parseFrom groups names .plain (c :: rest) := rfl

end

def parse (groups : Nat) (names : List String) (template : String) :
    Except TemplateFault (List Piece) :=
  parseFrom groups names .plain template.toList

/-- The template asks for what a group has matched, or holds a dollar. -/
def needsGroups (pieces : List Piece) : Bool :=
  pieces.any fun
    | .char c => c == '$'
    | _ => true

/-- What a label stands for: the group of that name, or else the group of that number. -/
def labelText (names : List (String × Nat)) (t : Subject) (s : Slots) (label : String) : String :=
  match (names.lookup label).bind (s.text? t) with
  | some text => text
  | none =>
    match readNumber? label.toList with
    | some (n, []) => (s.text? t n).getD ""
    | _ => ""

def expandPiece (names : List (String × Nat)) (t : Subject) (s : Slots) : Piece → String
  | .char c => .singleton c
  | .group index => labelText names t s (toString index)
  | .name label => labelText names t s label

def expand (names : List (String × Nat)) (t : Subject) (s : Slots) (pieces : List Piece) : String :=
  String.join (pieces.map (expandPiece names t s))

end Template

end Conlang.Pattern
