import Conlang.Pattern.CharClass

/-! Reading a pattern.

`Reader.read` turns a text into a `Source`: the tree, the names of its groups and the groups that it
refers to. The reader keeps the text that is left and the flags in force; a flag that is set without
a body of its own stays in force until the group that restores flags ends, or else to the end of the
text.

Every call consumes a unit of fuel. Between two characters at most six calls are made, so
`6 * (n + 2)` units read a text of `n` characters. -/
namespace Conlang.Pattern
open Text

/-- A pattern as read. -/
structure Source where
  node : Node
  /-- How many groups open, the whole match not counted. -/
  groups : Nat
  /-- The names of groups; of two with one name the later is meant, and stands first. -/
  names : List (String × Nat)
  /-- The groups that a back reference names. -/
  referred : List Nat
  deriving Repr

namespace Reader

structure Flags where
  foldCase : Bool := false
  multiLine : Bool := false
  dotAll : Bool := false
  lazyFirst : Bool := false
  spaced : Bool := false
  deriving Repr, DecidableEq

structure State where
  rest : List Char
  /-- The length of the whole text in bytes: no group beyond half of it can exist. -/
  size : Nat
  flags : Flags := {}
  groups : Nat := 0
  names : List (String × Nat) := []
  referred : List Nat := []
  /-- A group has been referred to by number. -/
  numbered : Bool := false
  deriving Repr

abbrev ReadM := StateT State (Except Fault)

/-- The deepest nesting of parentheses. -/
def maxDepth : Nat := 64

/-! ### Gaps -/

/-- Where in a gap the reader is. -/
inductive Gap where
  | outside
  | line
  | note (escaped : Bool)

/-- Drops comments in parentheses and, in a spaced pattern, blanks and comments to the end of the
line. -/
def skipGap (spaced : Bool) : Gap → List Char → Except Fault (List Char)
  | .outside, [] => .ok []
  | .outside, '(' :: '?' :: '#' :: rest => skipGap spaced (.note false) rest
  | .outside, c :: rest =>
    if spaced && c == '#' then skipGap spaced .line rest
    else if spaced && (c == ' ' || c == '\r' || c == '\n' || c == '\t')
      then skipGap spaced .outside rest
    else .ok (c :: rest)
  | .line, [] => .ok []
  | .line, c :: rest => skipGap spaced (if c == '\n' then .outside else .line) rest
  | .note _, [] => .error .unclosedGroup
  | .note true, _ :: rest => skipGap spaced (.note false) rest
  | .note false, c :: rest =>
    skipGap spaced (if c == ')' then .outside else .note (c == '\\')) rest

def skip : ReadM Unit := do
  let s ← get
  let rest ← skipGap s.flags.spaced .outside s.rest
  set { s with rest }

def setRest (rest : List Char) : ReadM Unit := modify fun s => { s with rest }

/-! ### Repetition -/

/-- The bounds in braces after the opening one, and the text after the closing one. -/
def readBounds? (spaced : Bool) (s : List Char) : Option (Nat × Option Nat × List Char) := do
  let s ← (skipGap spaced .outside s).toOption
  let (least, s) ← match s with
    | ',' :: _ => some (0, s)
    | _ => readNumber? s
  let s ← (skipGap spaced .outside s).toOption
  match s with
  | '}' :: rest => some (least, some least, rest)
  | ',' :: s =>
    let s ← (skipGap spaced .outside s).toOption
    let (most, s) := match readNumber? s with
      | some (n, rest) => (if n = maxNumber then none else some n, rest)
      | none => (none, s)
    match ← (skipGap spaced .outside s).toOption with
    | '}' :: rest => some (least, most, rest)
    | _ => none
  | _ => none

/-- The bounds of a quantifier at the head of the text, and the text after it. -/
def quantifier? (spaced : Bool) : List Char → Option (Nat × Option Nat × List Char)
  | '?' :: rest => some (0, some 1, rest)
  | '*' :: rest => some (0, none, rest)
  | '+' :: rest => some (1, none, rest)
  | '{' :: rest => readBounds? spaced rest
  | _ => none

/-- Puts the quantifier that follows a node around it. -/
def quantified (node : Node) : ReadM Node := do
  skip
  let s ← get
  match quantifier? s.flags.spaced s.rest with
  | none => pure node
  | some (least, most, rest) =>
    if !node.repeatable then throw .nothingToRepeat
    setRest rest
    skip
    let rest := (← get).rest
    let (reluctant, rest) := match rest with
      | '?' :: rest => (true, rest)
      | _ => (false, rest)
    let repeated := Node.rep least most (reluctant == s.flags.lazyFirst) node
    match rest with
    | '+' :: rest => setRest rest; pure (.atomic repeated)
    | _ => setRest rest; pure repeated

/-! ### References -/

/-- A group can be referred to once it has opened. -/
def referTo (index : Nat) : ReadM Nat := do
  if index > (← get).groups then throw .unknownGroup
  pure index

def referToNumber (index : Nat) : ReadM Nat := do
  if index ≥ (← get).size / 2 then throw .unknownGroup
  modify fun s => { s with numbered := true, referred := index :: s.referred }
  referTo index

/-- The number that a label stands for: that of a name, a number, or a count back from the last
group. -/
def labelIndex? (s : State) (label : String) : Option Nat :=
  match s.names.lookup label with
  | some index => some index
  | none =>
    match label.toList with
    | '-' :: digits =>
      match readNumber? digits with
      | some (0, []) => some 0
      | some (n, []) => if n ≤ s.groups + 1 then some (s.groups + 1 - n) else none
      | _ => none
    | digits =>
      match readNumber? digits with
      | some (n, []) => if n < Nat.pow 2 63 then some n else none
      | _ => none

def referToLabel (record : Bool) (label : String) : ReadM Nat := do
  match labelIndex? (← get) label with
  | none => throw .unknownGroup
  | some index =>
    if record then modify fun s => { s with referred := index :: s.referred }
    referTo index

/-! ### Flags -/

/-- The flags after one letter, or nothing if it is no flag. -/
def Flags.update? (flags : Flags) (off : Bool) : Char → Option Flags
  | 'i' => some { flags with foldCase := !off }
  | 'm' => some { flags with multiLine := !off }
  | 's' => some { flags with dotAll := !off }
  | 'U' => some { flags with lazyFirst := !off }
  | 'x' => some { flags with spaced := !off }
  | 'u' => if off then none else some flags
  | _ => none

/-- Reads flags up to the parenthesis or colon that ends them, which is the answer. `start` is how
much text was left in front of them: no flag at all is refused before a parenthesis, and nothing but
a hyphen before either. -/
def readFlags (start : Nat) : Nat → Bool → ReadM Char
  | 0, _ => throw .tooDeep
  | fuel + 1, off => do
    skip
    let s ← get
    let bare := off && s.rest.length + 1 = start
    match s.rest with
    | [] => throw .unclosedGroup
    | ')' :: rest =>
      if s.rest.length = start || bare then throw .unknownFlag
      setRest rest
      pure ')'
    | ':' :: rest =>
      if bare then throw .unknownFlag
      setRest rest
      pure ':'
    | '-' :: rest =>
      if off then throw .unknownFlag
      setRest rest
      readFlags start fuel true
    | c :: rest =>
      match s.flags.update? off c with
      | none => throw .unknownFlag
      | some flags =>
        set { s with rest, flags }
        readFlags start fuel off

/-! ### The grammar -/

/-- Steps over the parenthesis that closes a group. -/
def closeGroup : ReadM Unit := do
  skip
  match (← get).rest with
  | ')' :: rest => setRest rest
  | _ => throw .unclosedGroup

/-- The number of a group that opens here. -/
def openGroup : ReadM Nat := do
  modify fun s => { s with groups := s.groups + 1 }
  pure (← get).groups

def nameGroup (rest : List Char) : ReadM Nat := do
  let index ← openGroup
  match readName? '>' false rest with
  | none => throw .badGroupName
  | some (name, rest) =>
    modify fun s => { s with rest, names := (name, index) :: s.names }
    pure index

/-- The node that an escape stands for. -/
def escaped (foldCase : Bool) : Escape → ReadM Node
  | .char c coded =>
    pure (if foldCase && coded && (orbit c).length > 1 then .set (CharSet.singleton c).foldCase
      else .lit c)
  | .set chars => pure (.set chars)
  | .assertion place => pure (.assertion place)
  | .reference (.number index) => .backref <$> referToNumber index
  | .reference (.label label) => .backref <$> referToLabel true label
  | .keepOut => pure .keepOut
  | .searchStart => pure .searchStart

def literal (foldCase : Bool) (c : Char) : Node :=
  if foldCase && (orbit c).length > 1 then .set (CharSet.singleton c).foldCase else .lit c

/-- A back reference as a condition asks whether its group has matched. -/
def asTest : Node → Node
  | .backref index => .isSet index
  | node => node

/-- The two branches of a condition: the first alternative, and the rest of them. -/
def branches : Node → Node × Node
  | .alt (first :: rest) =>
    (first, match rest with
      | [only] => only
      | _ => .alt rest)
  | node => (node, .empty)

def labelled (name : Option (String × List Char)) : ReadM Node := do
  match name with
  | none => throw .badGroupName
  | some (label, rest) => setRest rest; .backref <$> referToLabel true label

mutual

/-- Alternatives. Groups may be referred to by name or by number, not by both; this is checked where
no alternatives are. -/
def alternatives : Nat → Nat → ReadM Node
  | 0, _ => throw .tooDeep
  | fuel + 1, depth => do
    let first ← branch fuel depth []
    skip
    match (← get).rest with
    | '|' :: _ => .alt <$> moreAlternatives fuel depth [first]
    | _ =>
      let s ← get
      if s.numbered && !s.names.isEmpty then throw .namedAndNumbered
      pure first

def moreAlternatives : Nat → Nat → List Node → ReadM (List Node)
  | 0, _, _ => throw .tooDeep
  | fuel + 1, depth, choices => do
    match (← get).rest with
    | '|' :: rest =>
      setRest rest
      let choice ← branch fuel depth []
      skip
      moreAlternatives fuel depth (choice :: choices)
    | _ => pure choices.reverse

/-- Pieces in a row, until one consumes nothing. -/
def branch : Nat → Nat → List Node → ReadM Node
  | 0, _, _ => throw .tooDeep
  | fuel + 1, depth, parts => do
    let before := (← get).rest
    if before.isEmpty then pure (.ofParts parts.reverse)
    else
      let part ← quantified (← atom fuel depth)
      if (← get).rest.length = before.length then pure (.ofParts parts.reverse)
      else branch fuel depth (if part.isEmpty then parts else part :: parts)

def atom : Nat → Nat → ReadM Node
  | 0, _ => throw .tooDeep
  | fuel + 1, depth => do
    skip
    let s ← get
    match s.rest with
    | [] => pure .empty
    | c :: rest =>
      match c with
      | '+' | '*' | '?' | '|' | ')' => pure .empty
      | _ =>
        setRest rest
        match c with
        | '.' => pure (.any s.flags.dotAll)
        | '^' => pure (.assertion (if s.flags.multiLine then .lineStart else .textStart))
        | '$' => pure (.assertion (if s.flags.multiLine then .lineEnd else .textEnd))
        | '(' =>
          if depth + 1 ≥ maxDepth then throw .tooDeep
          skip
          opened fuel (depth + 1)
        | '\\' =>
          let (escape, rest) ← Escape.read s.flags.foldCase false rest
          setRest rest
          escaped s.flags.foldCase escape
        | '[' =>
          let (chars, rest) ← CharClass.read s.flags.foldCase rest
          setRest rest
          pure (.set chars)
        | _ => pure (literal s.flags.foldCase c)

/-- What an opening parenthesis introduces. -/
def opened : Nat → Nat → ReadM Node
  | 0, _ => throw .tooDeep
  | fuel + 1, depth => do
    match (← get).rest with
    | '?' :: '=' :: rest => setRest rest; .look ⟨false, false⟩ <$> body fuel depth
    | '?' :: '!' :: rest => setRest rest; .look ⟨false, true⟩ <$> body fuel depth
    | '?' :: '<' :: '=' :: rest => setRest rest; .look ⟨true, false⟩ <$> body fuel depth
    | '?' :: '<' :: '!' :: rest => setRest rest; .look ⟨true, true⟩ <$> body fuel depth
    | '?' :: '<' :: rest =>
      let index ← nameGroup rest
      .group index <$> body fuel depth
    | '?' :: 'P' :: '<' :: rest =>
      let index ← nameGroup rest
      .group index <$> body fuel depth
    | '?' :: 'P' :: '=' :: rest =>
      match readName? ')' false rest with
      | none => throw .badGroupName
      | some (label, rest) =>
        let index ← referToLabel false label
        setRest rest
        pure (.backref index)
    | '?' :: '>' :: rest => setRest rest; .atomic <$> body fuel depth
    | '?' :: '(' :: rest => setRest rest; condition fuel depth
    | '?' :: rest =>
      let before := (← get).flags
      setRest rest
      match ← readFlags rest.length (rest.length + 1) false with
      | ':' =>
        let node ← alternatives fuel depth
        match (← get).rest with
        | ')' :: rest =>
          modify fun s => { s with rest, flags := before }
          pure node
        | _ => throw .unclosedGroup
      | _ => pure .empty
    | _ =>
      let index ← openGroup
      .group index <$> body fuel depth

def body : Nat → Nat → ReadM Node
  | 0, _ => throw .tooDeep
  | fuel + 1, depth => do
    let node ← alternatives fuel depth
    closeGroup
    pure node

/-- A condition with its branches; without branches it must ask for a group. -/
def condition : Nat → Nat → ReadM Node
  | 0, _ => throw .tooDeep
  | fuel + 1, depth => do
    let test ← test fuel depth
    closeGroup
    let before := (← get).rest.length
    let node ← alternatives fuel depth
    if (← get).rest.length = before then
      match test with
      | .backref index => closeGroup; pure (.isSet index)
      | _ => throw .badCondition
    else
      let (thenBody, elseBody) := branches node
      closeGroup
      pure (if thenBody.isEmpty && elseBody.isEmpty then asTest test
        else .cond (asTest test) thenBody elseBody)

def test : Nat → Nat → ReadM Node
  | 0, _ => throw .tooDeep
  | fuel + 1, depth => do
    let s ← get
    match s.rest with
    | [] => throw .badCondition
    | '\'' :: rest => labelled (readName? '\'' true rest)
    | '<' :: rest => labelled (readName? '>' true rest)
    | c :: _ =>
      if isDigit c then
        match readNumber? s.rest with
        | none => throw .unknownGroup
        | some (n, rest) => setRest rest; .backref <$> referToNumber n
      else alternatives fuel depth

end

end Reader

/-- Reads a whole text. -/
def Reader.read (text : String) : Except Fault Source := do
  let chars := text.toList
  let start : Reader.State := { rest := chars, size := text.utf8ByteSize }
  let (node, state) ← (Reader.alternatives (6 * (chars.length + 2)) 0).run start
  match state.rest with
  | [] => .ok ⟨node, state.groups, state.names, state.referred⟩
  | _ => .error .unopenedGroup

end Conlang.Pattern
