import Conlang.Toml.Document
import Conlang.Toml.Number
import Conlang.Toml.Text

/-! Reading a TOML document.

`Toml.read` gives the entries of the outermost table. Containers are nested, and keys dotted, fewer
than eighty deep. Every step of the readers takes a character or closes a container, which bounds
their fuel. -/
namespace Conlang.Toml

/-- Containers within containers, and parts of a dotted key. -/
def maxDepth : Nat := 80

/-- A syntax fault, unless the text fits. -/
def orMalformed {α : Type} : Option α → Except Fault α
  | some a => .ok a
  | none => .error .malformed

/-! ### Keys -/

def isBare (c : Char) : Bool := c.isAlphanum || c == '-' || c == '_'

def simpleKey? : List Char → Option (String × List Char)
  | '"' :: rest => (shortString '"' (rest.length + 1) rest).map (Prod.map .ofList id)
  | '\'' :: rest => (shortString '\'' (rest.length + 1) rest).map (Prod.map .ofList id)
  | s =>
    let key := s.takeWhile isBare
    if key.isEmpty then none else some (.ofList key, s.drop key.length)

/-- The parts of a dotted key, with the gaps around them. -/
def keyPath? : (fuel : Nat) → List Char → Option (List String × List Char)
  | 0, _ => none
  | fuel + 1, s => do
    let (key, rest) ← simpleKey? (skipGaps s)
    match skipGaps rest with
    | '.' :: rest => do
      let (keys, rest) ← keyPath? fuel rest
      some (key :: keys, rest)
    | rest => some ([key], rest)

def keyPath (s : List Char) : Except Fault (List String × List Char) :=
  orMalformed (keyPath? (maxDepth - 1) s)

/-! ### Values -/

def word? (word : List Char) (s : List Char) : Option (List Char) :=
  if word.isPrefixOf s then some (s.drop word.length) else none

/-- A value that holds no others. -/
def scalar? (s : List Char) : Option (Value × List Char) :=
  match s with
  | '"' :: rest => (readString '"' rest).map (Prod.map .string id)
  | '\'' :: rest => (readString '\'' rest).map (Prod.map .string id)
  | s =>
    ((date? s).map (.date, ·)) <|> ((fractional? s).map (.float, ·))
      <|> ((integer? s).map (Prod.map .integer id))
      <|> ((word? "true".toList s).map (.boolean true, ·))
      <|> ((word? "false".toList s).map (.boolean false, ·))

mutual

/-- A value in a container of the given depth. -/
def value : (fuel : Nat) → (depth : Nat) → List Char → Except Fault (Value × List Char)
  | 0, _, _ => .error .malformed
  | fuel + 1, depth, '[' :: rest => do
    if maxDepth ≤ depth + 1 then throw .malformed
    let (elements, rest) ← elements fuel (depth + 1) rest
    return (.array elements, rest)
  | fuel + 1, depth, '{' :: rest => do
    if maxDepth ≤ depth + 1 then throw .malformed
    let (pairs, rest) ←
      match skipGaps rest with
      | '}' :: rest => pure ([], rest)
      | rest => pairs fuel (depth + 1) rest
    return (.table (Entries.toValues (← Entries.ofPairs pairs [])), rest)
  | _, _, s => orMalformed (scalar? s)

/-- The elements of an array, behind its bracket or a comma. -/
def elements : (fuel : Nat) → (depth : Nat) → List Char → Except Fault (List Value × List Char)
  | 0, _, _ => .error .malformed
  | fuel + 1, depth, s => do
    match ← orMalformed (skipLines false s) with
    | ']' :: rest => return ([], rest)
    | s =>
      let (v, rest) ← value fuel depth s
      match ← orMalformed (skipLines false rest) with
      | ']' :: rest => return ([v], rest)
      | ',' :: rest =>
        let (vs, rest) ← elements fuel depth rest
        return (v :: vs, rest)
      | _ => .error .malformed

/-- The keys and values of an inline table, which is not empty. -/
def pairs :
    (fuel : Nat) → (depth : Nat) → List Char → Except Fault (List (List String × Value) × List Char)
  | 0, _, _ => .error .malformed
  | fuel + 1, depth, s => do
    let (path, rest) ← keyPath s
    match rest with
    | '=' :: rest =>
      let (v, rest) ← value fuel depth (skipGaps rest)
      match skipGaps rest with
      | '}' :: rest => return ([(path, v)], rest)
      | ',' :: rest =>
        let (more, rest) ← pairs fuel depth rest
        return ((path, v) :: more, rest)
      | _ => .error .malformed
    | _ => .error .malformed

end

/-! ### Lines -/

/-- What a line adds to the document. -/
inductive Line where
  | blank
  | pair (path : List String) (v : Value)
  | header (path : List String)
  | elementHeader (path : List String)

/-- Reads a line to its end. A value may make it go on over several line ends. -/
def line (s : List Char) : Except Fault (Line × List Char) := do
  let (content, rest) ←
    match skipGaps s with
    | '[' :: '[' :: rest => do
      let (path, rest) ← keyPath rest
      match rest with
      | ']' :: ']' :: rest => pure (Line.elementHeader path, rest)
      | _ => .error .malformed
    | '[' :: rest => do
      let (path, rest) ← keyPath rest
      match rest with
      | ']' :: rest => pure (Line.header path, rest)
      | _ => .error .malformed
    | s =>
      if (lineEnd s).isSome then pure (Line.blank, s)
      else do
        let (path, rest) ← keyPath s
        match rest with
        | '=' :: rest =>
          let rest := skipGaps rest
          let (v, rest) ← value (2 * rest.length + 2) 0 rest
          pure (Line.pair path v, rest)
        | _ => .error .malformed
  return (content, ← orMalformed (lineEnd rest))

def lines : (fuel : Nat) → List Char → Except Fault (List Line)
  | _, [] => .ok []
  | 0, _ => .error .malformed
  | fuel + 1, s => do
    let (content, rest) ← line s
    return content :: (← lines fuel rest)

/-- Gathers the pairs in front of the first header, and each header with the pairs behind it. -/
def sections : List Line → List (List String × Value) × List Section
  | [] => ([], [])
  | .blank :: rest => sections rest
  | .pair path v :: rest =>
    let (first, more) := sections rest
    ((path, v) :: first, more)
  | .header path :: rest =>
    let (first, more) := sections rest
    ([], ⟨path, false, first⟩ :: more)
  | .elementHeader path :: rest =>
    let (first, more) := sections rest
    ([], ⟨path, true, first⟩ :: more)

/-- A mark of byte order may stand in front of the text. -/
def byteOrderMark : Char := '\ufeff'

def read (text : String) : Except Fault (List (String × Value)) := do
  let s := match text.toList with
    | c :: rest => if c = byteOrderMark then rest else c :: rest
    | [] => []
  let (first, sections) := sections (← lines (s.length + 1) s)
  tableOfSections first sections

end Conlang.Toml
