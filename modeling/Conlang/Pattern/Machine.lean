import Conlang.Pattern.Automaton
import Conlang.Pattern.Reader

/-! Patterns that need backtracking, as programs.

A program tries one way and keeps the others on a stack to come back to. Plain parts of a pattern
are not tried in every way: where nothing after them can send the search back, or where all their
matches have one size, an automaton finds their first match and the program takes it or fails. What
stands inside a lookaround or an atomic group counts from its own beginning again.

Registers hold the places of groups, then counters and places that repetitions and lookarounds keep.
A search may come back to the stack only so often, and the stack may grow only so high. -/
namespace Conlang.Pattern
open Text (CharSet)

inductive Instruction where
  | one (chars : CharSet)
  | place (kind : Assertion)
  /-- Goes to the first and keeps the second. -/
  | split (first second : Nat)
  | jump (target : Nat)
  | mark (register : Nat)
  | zero (register : Nat)
  /-- Goes back to the place that a register holds. -/
  | restore (register : Nat)
  /-- Counts a turn of a repetition up to its bounds. -/
  | turn (least : Nat) (most : Option Nat) (greedy : Bool) (exit count : Nat)
  /-- Counts a turn of an endless repetition, which must move on from where the turn before
  began. -/
  | moving (least : Nat) (greedy : Bool) (exit count last : Nat)
  /-- So many characters back. -/
  | back (n : Nat)
  /-- Fails, and forgets all that was kept since the instruction before the target kept its way. -/
  | refute (target : Nat)
  | backref (group : Nat)
  | isSet (group : Nat)
  | run (automaton : Automaton) (groups : List Nat)
  | enterAtomic
  | leaveAtomic
  | searchStart
  | accept
  deriving Repr

namespace Machine

/-! ### Building -/

/-- Building needs the groups that are referred to and a limit for automata; it hands out
registers. -/
structure Context where
  referred : List Nat
  sizeLimit : Nat

abbrev Build := ReaderT Context (StateT Nat (Except Fault))

def newRegister : Build Nat := modifyGet fun n => (n, n + 1)

/-- A part that one character decides is an instruction; any other plain part is an automaton. -/
def delegate : Node → Build (Array Instruction)
  | .empty => pure #[]
  | .lit c => pure #[.one (.singleton c)]
  | .set chars => pure #[.one chars]
  | .any newline => pure #[.one (anyChars newline)]
  | node => do
    match Automaton.build (← read).sizeLimit node with
    | .ok a => pure #[.run a node.groupsIn]
    | .error fault => throw fault

/-- How a row is cut: a plain beginning of fixed size, a middle that is tried in every way, and a
plain end. Where the search may come back, the end too must be of fixed size. -/
structure Cut where
  first : List Node
  middle : Nat
  last : List Node

def cut (referred : List Nat) (tried : Bool) (parts : List Node) : Cut :=
  let first := parts.takeWhile fun p => p.fixedSize && p.plain referred
  let rest := parts.drop first.length
  let last := (rest.reverse.takeWhile fun p => p.plain referred && (!tried || p.fixedSize)).reverse
  ⟨first, rest.length - last.length, last⟩

def delegateAll : List Node → Build (Array Instruction)
  | [] => pure #[]
  | parts => delegate (.ofParts parts)

/-- A lookaround around the code of its body. A positive one goes back to where it began; a negative
one goes on where its body fails. -/
def lookaround (kind : Look) (size base : Nat) (body : Nat → Build (Array Instruction)) :
    Build (Array Instruction) := do
  let step := if kind.behind then #[.back size] else #[]
  if kind.negated then
    let code ← body (base + 1 + step.size)
    let exit := base + 1 + step.size + code.size + 1
    pure (#[.split (base + 1) exit] ++ step ++ code ++ #[.refute exit])
  else
    let register ← newRegister
    let code ← body (base + 1 + step.size)
    pure (#[.mark register] ++ step ++ code ++ #[.restore register])

/-- A repetition around the code of its body. -/
def repetition (least : Nat) (most : Option Nat) (greedy nullable : Bool) (base : Nat)
    (body : Nat → Build (Array Instruction)) : Build (Array Instruction) :=
  let choose (inner outer : Nat) : Instruction :=
    if greedy then .split inner outer else .split outer inner
  match least, most with
  | 0, some 1 => do
    let code ← body (base + 1)
    pure (#[choose (base + 1) (base + 1 + code.size)] ++ code)
  | _, none =>
    if nullable then do
      let count ← newRegister
      let last ← newRegister
      let code ← body (base + 2)
      let exit := base + 2 + code.size + 1
      pure (#[.zero count, .moving least greedy exit count last] ++ code ++ #[.jump (base + 1)])
    else if least = 0 then do
      let code ← body (base + 1)
      pure (#[choose (base + 1) (base + 1 + code.size + 1)] ++ code ++ #[.jump base])
    else if least = 1 then do
      let code ← body base
      pure (code ++ #[choose base (base + code.size + 1)])
    else counted
  | _, _ => counted
where
  counted : Build (Array Instruction) := do
    let count ← newRegister
    let code ← body (base + 2)
    let exit := base + 2 + code.size + 1
    pure (#[.zero count, .turn least most greedy exit count] ++ code ++ #[.jump (base + 1)])

/-- Ways to try one after the other; each but the last keeps the next and jumps to the end. -/
def ways (base : Nat) (first : Nat → Build (Array Instruction))
    (rest : Nat → Build (Array Instruction)) :
    Build (Array Instruction) := do
  let code ← first (base + 1)
  let second := base + 1 + code.size + 1
  let others ← rest second
  pure (#[.split (base + 1) second] ++ code ++ #[.jump (second + others.size)] ++ others)

/-- Leaves a plain node to an automaton where nothing after it can send the search back. -/
def unlessPlain (tried : Bool) (node : Node) (code : Build (Array Instruction)) :
    Build (Array Instruction) := do
  if !tried && node.plain (← read).referred then delegate node else code

/-- The code of a body that stands behind or before a place. -/
def lookAt (kind : Look) (body : Node) (base : Nat) (code : Nat → Build (Array Instruction)) :
    Build (Array Instruction) :=
  if kind.behind && !body.fixedSize then throw .unboundedLookbehind
  else lookaround kind body.minSize base code

mutual

/-- The instructions of a node that stand from `base` on. `tried` says that what follows may send
the search back into the node. -/
def code (tried : Bool) : Node → Nat → Build (Array Instruction)
  | .seq parts, base => unlessPlain tried (.seq parts) do
    let c := cut (← read).referred tried parts
    let first ← delegateAll c.first
    let middle ← middleCode c.first.length c.middle parts (base + first.size)
    let last ← delegateAll c.last
    pure (first ++ middle ++ last)
  | .alt choices, base => unlessPlain tried (.alt choices) (choiceCode tried choices base)
  | .group index body, base => unlessPlain tried (.group index body) do
    let inner ← code tried body (base + 1)
    pure (#[.mark (2 * index)] ++ inner ++ #[.mark (2 * index + 1)])
  | .rep least most greedy body, base => unlessPlain tried (.rep least most greedy body) do
    let tried := tried || !(least == 0 && most == some 1) && !body.plain (← read).referred
    repetition least most greedy (body.minSize == 0) base (code tried body)
  | .look kind body, base =>
    if kind.behind && !body.fixedSize then
      -- Alternatives of several sizes are looked up one by one.
      match body with
      | .alt choices => if kind.negated then lookNone choices base else lookAny choices base
      | _ => throw .unboundedLookbehind
    else lookaround kind body.minSize base (code false body)
  | .atomic body, base => do
    let inner ← code false body (base + 1)
    pure (#[.enterAtomic] ++ inner ++ #[.leaveAtomic])
  | .cond test thenBody elseBody, base => do
    let testCode ← code tried test (base + 2)
    let thenBase := base + 2 + testCode.size + 1
    let thenCode ← code tried thenBody thenBase
    let elseBase := thenBase + thenCode.size + 1
    let elseCode ← code tried elseBody elseBase
    pure (#[.enterAtomic, .split (base + 2) elseBase] ++ testCode ++ #[.leaveAtomic]
      ++ thenCode ++ #[.jump (elseBase + elseCode.size)] ++ elseCode)
  | .assertion kind, _ => pure #[.place kind]
  | .backref index, _ => pure #[.backref index]
  | .isSet index, _ => pure #[.isSet index]
  | .keepOut, _ => pure #[.mark 0]
  | .searchStart, _ => pure #[.searchStart]
  | node, _ => delegate node

/-- The parts of a row after the first `skipped`, `count` of them. -/
def middleCode (skipped count : Nat) : List Node → Nat → Build (Array Instruction)
  | [], _ => pure #[]
  | part :: parts, base =>
    match skipped, count with
    | skipped + 1, count => middleCode skipped count parts base
    | 0, 0 => pure #[]
    | 0, count + 1 => do
      let first ← code true part base
      let rest ← middleCode 0 count parts (base + first.size)
      pure (first ++ rest)

def choiceCode (tried : Bool) : List Node → Nat → Build (Array Instruction)
  | [], _ => pure #[]
  | [only], base => code tried only base
  | first :: rest, base => ways base (code tried first) (choiceCode tried rest)

/-- Some alternative ends here. -/
def lookAny : List Node → Nat → Build (Array Instruction)
  | [], _ => pure #[]
  | [only], base => lookAt ⟨true, false⟩ only base (code false only)
  | first :: rest, base =>
      ways base (lookAt ⟨true, false⟩ first · (code false first)) (lookAny rest)

/-- No alternative ends here. -/
def lookNone : List Node → Nat → Build (Array Instruction)
  | [], _ => pure #[]
  | first :: rest, base => do
    let refuted ← lookAt ⟨true, true⟩ first base (code false first)
    pure (refuted ++ (← lookNone rest (base + refuted.size)))

end

/-- A program for a whole pattern: it looks for a beginning from a place on, and records in group 0
where the match lies. -/
structure Program where
  code : Array Instruction
  registers : Nat
  deriving Repr

/-- Before the pattern stands a loop that moves the beginning on by one character. -/
def build (sizeLimit : Nat) (source : Source) : Except Fault Program := do
  let start : Array Instruction := #[.split 3 1, .one (anyChars true), .jump 0, .mark 0]
  let registers := 2 * (source.groups + 1)
  let (body, registers) ← ((code true source.node 4).run ⟨source.referred, sizeLimit⟩).run registers
  .ok ⟨start ++ body ++ #[.mark 1, .accept], registers⟩

/-! ### Running -/

/-- How often a search may come back, and how many ways it may keep. -/
structure Limits where
  backtracks : Nat
  depth : Nat
  deriving Repr

/-- Where a search stands. `floors` are the heights of the stack at which atomic groups were
entered. -/
structure Frame where
  pc : Nat
  place : Nat
  slots : Slots
  floors : List Nat

structure State where
  frame : Frame
  stack : List Frame
  height : Nat
  backtracks : Nat

inductive Step where
  | go (s : State)
  | fail (s : State)
  | stop (result : Except Failure (Option Slots))

namespace State

def register (s : State) (r : Nat) : Option Nat := s.frame.slots[r]?.join

def next (s : State) : Step := .go { s with frame := { s.frame with pc := s.frame.pc + 1 } }

def moveTo (s : State) (place : Nat) : Step :=
  .go { s with frame := { s.frame with pc := s.frame.pc + 1, place } }

def save (s : State) (r : Nat) (value : Option Nat) : State :=
  { s with frame := { s.frame with slots := s.frame.slots.setIfInBounds r value } }

def goTo (s : State) (pc : Nat) : Step := .go { s with frame := { s.frame with pc } }

/-- Keeps a way to come back to, and goes on elsewhere. -/
def fork (limits : Limits) (s : State) (now later : Nat) : Step :=
  if s.height < limits.depth then
    .go { s with
      frame := { s.frame with pc := now }
      stack := { s.frame with pc := later } :: s.stack
      height := s.height + 1 }
  else .stop (.error .depth)

/-- Takes the last way that was kept. -/
def backtrack (limits : Limits) (s : State) : Step :=
  match s.stack with
  | [] => .stop (.ok none)
  | frame :: stack =>
    if s.backtracks < limits.backtracks then
      .go ⟨frame, stack, s.height - 1, s.backtracks + 1⟩
    else .stop (.error .backtracks)

/-- Forgets all ways kept above a height. -/
def cutTo (s : State) (height : Nat) : State :=
  { s with stack := s.stack.drop (s.height - height), height := min s.height height }

/-- Forgets all ways up to and including the last that leads to an instruction. -/
def dropThrough (s : State) (pc : Nat) : State :=
  let kept := (s.stack.dropWhile (·.pc != pc)).drop 1
  { s with stack := kept, height := kept.length }

end State

/-- The place after a stretch of text that equals another one. -/
def sameText? (t : Subject) (start stop place : Nat) : Option Nat :=
  if place + (stop - start) ≤ t.size ∧
      (t.extract start stop).toList = (t.extract place (place + (stop - start))).toList then
    some (place + (stop - start))
  else none

/-- Takes over what an automaton has recorded for the groups of its part. -/
def copyGroups (slots found : Slots) (groups : List Nat) : Slots :=
  groups.foldl (fun s g =>
    (s.setIfInBounds (2 * g) (found.start? g)).setIfInBounds (2 * g + 1) (found.stop? g)) slots

/-- One instruction. `origin` is where the search began, and `skipped` that it began there because
an empty match before it was passed over. -/
def step (p : Program) (limits : Limits) (t : Subject) (origin : Nat) (skipped : Bool) (s : State) :
    Step :=
  let f := s.frame
  match p.code.getD f.pc .accept with
  | .accept =>
    let start := f.slots[0]?.join.getD 0
    let stop := f.slots[1]?.join.getD 0
    -- Where the start has been set behind the end, the match is empty.
    .stop (.ok (some ((f.slots.setIfInBounds 0 (some (min start stop))).extract 0 p.registers)))
  | .one chars =>
    match t[f.place]? with
    | some c => if chars.contains c then s.moveTo (f.place + 1) else .fail s
    | none => .fail s
  | .place kind => if t.holds f.place kind then s.next else .fail s
  | .split first second => s.fork limits first second
  | .jump target => s.goTo target
  | .mark r => (s.save r (some f.place)).next
  | .zero r => (s.save r (some 0)).next
  | .restore r => s.moveTo ((s.register r).getD f.place)
  | .turn least most greedy exit count =>
    let n := (s.register count).getD 0
    if some n = most then s.goTo exit
    else
      let s := s.save count (some (n + 1))
      if n < least then s.next
      else if greedy then s.fork limits (f.pc + 1) exit
      else s.fork limits exit (f.pc + 1)
  | .moving least greedy exit count last =>
    let n := (s.register count).getD 0
    if 0 < n ∧ s.register last = some f.place then .fail s
    else
      let s := s.save count (some (n + 1))
      if n < least then s.next
      else
        let s := s.save last (some f.place)
        if greedy then s.fork limits (f.pc + 1) exit
        else s.fork limits exit (f.pc + 1)
  | .back n => if n ≤ f.place then s.moveTo (f.place - n) else .fail s
  | .refute target => .fail (s.dropThrough target)
  | .backref g =>
    match f.slots.start? g, f.slots.stop? g with
    | some start, some stop =>
      -- In its second turn a group has a new start and still the old end.
      if stop < start then .stop (.error .crossed)
      else
        match sameText? t start stop f.place with
        | some place => s.moveTo place
        | none => .fail s
    | _, _ => .fail s
  | .isSet g => if (f.slots.start? g).isSome then s.next else .fail s
  | .run a groups =>
    match a.matchAt p.registers t f.place with
    | some (place, found) =>
      let s := { s with frame := { f with slots := copyGroups f.slots found groups } }
      s.moveTo place
    | none => .fail s
  | .enterAtomic => State.next { s with frame := { f with floors := s.height :: f.floors } }
  | .leaveAtomic =>
    match f.floors with
    | floor :: floors => State.next ({ s with frame := { f with floors } }.cutTo floor)
    | [] => s.next
  | .searchStart => if origin < f.place ∨ skipped then .fail s else s.next

/-- Runs until the program accepts, has tried everything or is out of its limits. -/
def run (p : Program) (limits : Limits) (t : Subject) (origin : Nat) (skipped : Bool) :
    Nat → State → Except Failure (Option Slots)
  | 0, _ => .error .backtracks
  | fuel + 1, s =>
    match step p limits t origin skipped s with
    | .go s => run p limits t origin skipped fuel s
    | .stop result => result
    | .fail s =>
      match s.backtrack limits with
      | .go s => run p limits t origin skipped fuel s
      | .fail s => run p limits t origin skipped fuel s
      | .stop result => result

/-- More steps than a search within its limits takes, unless it counts through nothing. -/
def maxSteps : Nat := Nat.pow 2 40

/-- The first match from a place on. -/
def search (p : Program) (limits : Limits) (t : Subject) (place : Nat) (skipped : Bool) :
    Except Failure (Option Slots) :=
  run p limits t place skipped maxSteps
    ⟨⟨0, place, .replicate p.registers none, []⟩, [], 0, 0⟩

end Machine

end Conlang.Pattern
