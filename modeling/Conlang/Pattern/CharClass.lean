import Conlang.Pattern.Escape

/-! Character classes in brackets.

A class is read in two steps. `scan` finds the bracket that closes it, counting brackets inside, and
resolves the escapes; `members` then reads the tokens: ranges, classes in classes, classes by name,
and the operators `&&`, `--` and `~~`, which bind to the left and take all that stands before
them. -/
namespace Conlang.Pattern.CharClass
open Text

inductive Token where
  /-- A character in whatever role its place gives it. -/
  | bare (c : Char)
  /-- A character that stands for itself. -/
  | quoted (c : Char)
  | set (chars : CharSet)
  deriving DecidableEq

/-! ### Finding the end -/

/-- The hexadecimal digits are a class of their own inside another one. -/
def hexDigits (negated : Bool) : List Token :=
  ((if negated then "[^0-9A-Fa-f]" else "[0-9A-Fa-f]").toList).map .bare

/-- The token that an escape in a class stands for. -/
def scanEscape (foldCase : Bool) (s : List Char) : Except Fault (List Token × List Char) :=
  match s with
  | 'h' :: rest => .ok (hexDigits false, rest)
  | 'H' :: rest => .ok (hexDigits true, rest)
  | _ =>
    match Escape.read foldCase true s with
    | .ok (.char c _, rest) => .ok ([.quoted c], rest)
    | .ok (.set chars, rest) => .ok ([.set chars], rest)
    | .ok _ => .error .unclosedClass
    | .error fault => .error fault

/-- The tokens up to the bracket that closes `nest` open ones, that bracket included. -/
def scan (foldCase : Bool) : Nat → Nat → List Char → Except Fault (List Token × List Char)
  | 0, _, _ => .error .unclosedClass
  | _, _, [] => .error .unclosedClass
  | fuel + 1, nest, '\\' :: rest => do
    let (tokens, rest) ← scanEscape foldCase rest
    let (more, rest) ← scan foldCase fuel nest rest
    .ok (tokens ++ more, rest)
  | fuel + 1, nest, c :: rest =>
    if c = ']' && nest = 1 then .ok ([.bare ']'], rest)
    else do
      let nest := if c = '[' then nest + 1 else if c = ']' then nest - 1 else nest
      let (more, rest) ← scan foldCase fuel nest rest
      .ok (.bare c :: more, rest)

/-- A closing bracket right after the opening one, or after its caret, is a member. -/
def scanOpened (foldCase : Bool) (s : List Char) : Except Fault (List Token × List Char) := do
  let (caret, s) := match s with
    | '^' :: rest => ([Token.bare '^'], rest)
    | _ => ([], s)
  let (bracket, s) := match s with
    | ']' :: rest => ([Token.bare ']'], rest)
    | _ => ([], s)
  let (tokens, rest) ← scan foldCase (s.length + 1) 1 s
  .ok (caret ++ bracket ++ tokens, rest)

/-! ### Classes by name -/

/-- The named classes hold no characters outside ASCII. -/
def asciiChars? : String → Option CharSet
  | "alnum" => some ⟨[(0x30, 0x39), (0x41, 0x5A), (0x61, 0x7A)]⟩
  | "alpha" => some ⟨[(0x41, 0x5A), (0x61, 0x7A)]⟩
  | "ascii" => some ⟨[(0, 0x7F)]⟩
  | "blank" => some ⟨[(0x09, 0x09), (0x20, 0x20)]⟩
  | "cntrl" => some ⟨[(0, 0x1F), (0x7F, 0x7F)]⟩
  | "digit" => some ⟨[(0x30, 0x39)]⟩
  | "graph" => some ⟨[(0x21, 0x7E)]⟩
  | "lower" => some ⟨[(0x61, 0x7A)]⟩
  | "print" => some ⟨[(0x20, 0x7E)]⟩
  | "punct" => some ⟨[(0x21, 0x2F), (0x3A, 0x40), (0x5B, 0x60), (0x7B, 0x7E)]⟩
  | "space" => some ⟨[(0x09, 0x0D), (0x20, 0x20)]⟩
  | "upper" => some ⟨[(0x41, 0x5A)]⟩
  | "word" => some ⟨[(0x30, 0x39), (0x41, 0x5A), (0x5F, 0x5F), (0x61, 0x7A)]⟩
  | "xdigit" => some ⟨[(0x30, 0x39), (0x41, 0x46), (0x61, 0x66)]⟩
  | _ => none

def foldIf (foldCase : Bool) (chars : CharSet) : CharSet :=
  if foldCase then chars.foldCase else chars

/-- Folded first, then turned round. -/
def foldAndNegate (foldCase negated : Bool) (chars : CharSet) : CharSet :=
  if negated then (foldIf foldCase chars).complement else foldIf foldCase chars

def nameChar? : Token → Option Char
  | .bare c => if c = ':' then none else some c
  | _ => none

/-- A class by name after its opening bracket, if one stands there. -/
def readNamed? (foldCase : Bool) (ts : List Token) : Option (CharSet × List Token) :=
  match ts with
  | .bare ':' :: ts =>
    let (negated, ts) := match ts with
      | .bare '^' :: rest => (true, rest)
      | _ => (false, ts)
    let name := ts.takeWhile fun t => (nameChar? t).isSome
    match ts.dropWhile fun t => (nameChar? t).isSome with
    | .bare ':' :: .bare ']' :: rest =>
      (asciiChars? (.ofList (name.filterMap nameChar?))).map fun chars =>
        (foldAndNegate foldCase negated chars, rest)
    | _ => none
  | _ => none

/-! ### Operators -/

inductive Operator where
  | inter
  | diff
  | symmDiff
  deriving Repr, DecidableEq

def Operator.apply : Operator → CharSet → CharSet → CharSet
  | .inter => .inter
  | .diff => .diff
  | .symmDiff => .symmDiff

def operator? (c : Char) : Option Operator :=
  if c = '&' then some .inter else if c = '-' then some .diff
  else if c = '~' then some .symmDiff else none

/-- An operator is written twice. -/
def operatorAt? (first : Token) (rest : List Token) : Option Operator :=
  match first, rest with
  | .bare c, .bare d :: _ => if c = d then operator? c else none
  | _, _ => none

/-- What stands before an operator, if there was one, and what has been read since. -/
def settle (foldCase : Bool) (pending : Option (CharSet × Operator)) (chars : CharSet) : CharSet :=
  match pending with
  | none => chars
  | some (left, op) => op.apply (foldIf foldCase left) (foldIf foldCase chars)

/-! ### Ranges -/

def literal? : Token → Option Char
  | .bare c | .quoted c => some c
  | .set _ => none

def Token.chars : Token → CharSet
  | .bare c | .quoted c => .singleton c
  | .set chars => chars

/-- A hyphen makes a range unless the class ends or another hyphen follows. -/
def readRange (first : Token) : List Token → Except Fault (CharSet × List Token)
  | [] => .error .unclosedClass
  | .bare '-' :: .bare ']' :: rest => .ok (first.chars, .bare '-' :: .bare ']' :: rest)
  | .bare '-' :: .bare '-' :: rest => .ok (first.chars, .bare '-' :: .bare '-' :: rest)
  | [.bare '-'] => .error .unclosedClass
  | .bare '-' :: second :: rest =>
    match literal? first, literal? second with
    | some low, some high =>
      if low ≤ high then .ok (⟨[(low.toNat, high.toNat)]⟩, rest) else .error .badClassRange
    | _, _ => .error .badClassRange
  | rest => .ok (first.chars, rest)

/-! ### Classes -/

mutual

/-- A class after its opening bracket. Leading hyphens are members, and so is a bracket in front. -/
def opened (foldCase : Bool) : Nat → List Token → Except Fault (CharSet × List Token)
  | 0, _ => .error .unclosedClass
  | fuel + 1, ts => do
    let (negated, ts) := match ts with
      | .bare '^' :: rest => (true, rest)
      | _ => (false, ts)
    let (first, ts) := match ts with
      | .bare ']' :: rest => (CharSet.singleton ']', rest)
      | .bare '-' :: rest => (CharSet.singleton '-', rest.dropWhile (· == .bare '-'))
      | _ => (CharSet.empty, ts)
    let (chars, rest) ← members foldCase fuel none first ts
    .ok (foldAndNegate foldCase negated chars, rest)

/-- The members up to the closing bracket. -/
def members (foldCase : Bool) : Nat → Option (CharSet × Operator) → CharSet → List Token →
    Except Fault (CharSet × List Token)
  | 0, _, _, _ => .error .unclosedClass
  | _, _, _, [] => .error .unclosedClass
  | fuel + 1, pending, chars, first :: rest =>
    match first, rest with
    | .bare ']', rest => .ok (settle foldCase pending chars, rest)
    | .bare '[', rest =>
      match readNamed? foldCase rest with
      | some (named, rest) => members foldCase fuel pending (chars.union named) rest
      | none => do
        let (nested, rest) ← opened foldCase fuel rest
        members foldCase fuel pending (chars.union nested) rest
    | first, rest =>
      match operatorAt? first rest with
      | some op =>
        members foldCase fuel (some (settle foldCase pending chars, op)) .empty (rest.drop 1)
      | none => do
        let (range, rest) ← readRange first rest
        members foldCase fuel pending (chars.union range) rest

end

/-- Reads a class after its opening bracket: its characters and the text after it. -/
def read (foldCase : Bool) (s : List Char) : Except Fault (CharSet × List Char) := do
  let (tokens, rest) ← scanOpened foldCase s
  match ← opened foldCase (2 * tokens.length + 2) tokens with
  | (chars, []) => .ok (chars, rest)
  | _ => .error .unclosedClass

end Conlang.Pattern.CharClass
