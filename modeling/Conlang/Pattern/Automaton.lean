import Conlang.Pattern.Error
import Conlang.Pattern.Shape
import Conlang.Pattern.Subject

/-! Plain patterns as automata.

An automaton is a list of states, each built with its successors at hand, so that a state refers to
the ones behind it and a loop refers back. A search follows the preferred way first and never enters
a state twice at one place: what failed from there fails again. So the first match found is the one
that trying every way in order would find, in time linear in the text. -/
namespace Conlang.Pattern
open Text (CharSet)

/-- One state. `split` prefers its first way. -/
inductive Way where
  | one (chars : CharSet) (next : Nat)
  | split (first second : Nat)
  | mark (slot : Nat) (next : Nat)
  | place (kind : Assertion) (next : Nat)
  | accept
  deriving Repr

structure Automaton where
  ways : Array Way
  start : Nat
  deriving Repr

/-- Any character, the newline only if so asked. -/
def anyChars (newline : Bool) : CharSet :=
  if newline then ⟨[(0, 0xD7FF), (0xE000, 0x10FFFF)]⟩
  else ⟨[(0, 9), (11, 0xD7FF), (0xE000, 0x10FFFF)]⟩

namespace Automaton

/-! ### Building -/

abbrev Build := StateM (Array Way)

/-- Adds a state and tells its number. -/
def add (w : Way) : Build Nat := do
  let n := (← get).size
  modify (·.push w)
  pure n

def choose (greedy : Bool) (inner outer : Nat) : Way :=
  if greedy then .split inner outer else .split outer inner

/-- A loop: the body, which leads to a state that chooses between the body and what follows. The
answer holds the number of that state and of the body. -/
def loop (greedy : Bool) (body : Nat → Build Nat) (next : Nat) : Build (Nat × Nat) := do
  let turn ← add (.split next next)
  let start ← body turn
  modify (·.setIfInBounds turn (choose greedy start next))
  pure (turn, start)

/-- The body `n` times. -/
def copies (body : Nat → Build Nat) : Nat → Nat → Build Nat
  | 0, next => pure next
  | n + 1, next => do copies body n (← body next)

/-- The body up to `n` times; every copy may be skipped together with those after it. -/
def options (greedy : Bool) (body : Nat → Build Nat) (next : Nat) : Nat → Build Nat
  | 0 => pure next
  | n + 1 => do
    let rest ← options greedy body next n
    let start ← body rest
    add (choose greedy start next)

/-- The bounds of a repetition, with at most one turn of a body that takes nothing. -/
def bounds (least : Nat) (most : Option Nat) (body : Node) : Nat × Option Nat :=
  if body.takesNothing then (min least 1, some (min (most.getD 1) 1)) else (least, most)

def repetition (least : Nat) (most : Option Nat) (greedy nullable : Bool) (body : Nat → Build Nat)
    (next : Nat) : Build Nat :=
  match least, most with
  | 0, none => do
    let (turn, start) ← loop greedy body next
    -- A body that can match nothing runs at least once before the choice to go on.
    if nullable then add (choose greedy start next) else pure turn
  | n + 1, none => do
    let (_, start) ← loop greedy body next
    copies body n start
  | n, some m => do
    let tail ← options greedy body next (m - n)
    copies body n tail

mutual

/-- The states of a node that lead to state `next`; the answer is where they begin. -/
def states : Node → Nat → Build Nat
  | .lit c, next => add (.one (.singleton c) next)
  | .set chars, next => add (.one chars next)
  | .any newline, next => add (.one (anyChars newline) next)
  | .assertion kind, next => add (.place kind next)
  | .seq parts, next => row parts next
  | .alt choices, next => choice choices next
  | .group index body, next => do
    let stop ← add (.mark (2 * index + 1) next)
    let start ← states body stop
    add (.mark (2 * index) start)
  | .rep least most greedy body, next =>
    let (least, most) := bounds least most body
    repetition least most greedy (body.minSize == 0) (states body) next
  | _, next => pure next

def row : List Node → Nat → Build Nat
  | [], next => pure next
  | part :: parts, next => do states part (← row parts next)

def choice : List Node → Nat → Build Nat
  | [], next => pure next
  | [only], next => states only next
  | first :: rest, next => do
    let second ← choice rest next
    let start ← states first next
    add (.split start second)

end

def ofNode (node : Node) : Automaton :=
  let (start, ways) := (states node 0).run #[.accept]
  ⟨ways, start⟩

/-- The highest group that a state marks. -/
def lastGroup (a : Automaton) : Nat :=
  a.ways.foldl (fun n w => match w with
    | .mark slot _ => max n (slot / 2)
    | _ => n) 0

/-! ### Limits -/

/-- The greatest bound of a repetition. -/
def maxBound : Nat := Nat.pow 2 32 - 1

mutual

/-- About how many bytes the states of a node take. -/
def weight : Node → Nat
  | .lit _ => 32
  | .set chars => 64 * chars.ranges.length
  | .any _ => 400
  | .seq parts | .alt parts => weightAll parts
  | .group _ body => 64 + weight body
  | .rep least most _ body => (32 + weight body) * max 1 (most.getD least)
  | _ => 32

def weightAll : List Node → Nat
  | [] => 32
  | part :: parts => weight part + weightAll parts

end

mutual

/-- The first repetition whose bounds are out of order or out of range. -/
def badRepeat? : Node → Option Fault
  | .rep least most _ body =>
    if maxBound < least || (most.any fun m => m < least || maxBound < m) then
      some (.badRepeat least most)
    else badRepeat? body
  | .seq parts | .alt parts => badRepeats? parts
  | .group _ body => badRepeat? body
  | _ => none

def badRepeats? : List Node → Option Fault
  | [] => none
  | part :: parts => badRepeat? part <|> badRepeats? parts

end

/-- Builds the automaton of a node within a limit of bytes. -/
def build (sizeLimit : Nat) (node : Node) : Except Fault Automaton :=
  match badRepeat? node with
  | some fault => .error fault
  | none => if sizeLimit < weight node then .error .tooLarge else .ok (ofNode node)

/-! ### Searching -/

structure Thread where
  state : Nat
  place : Nat
  slots : Slots

/-- Follows threads in order, leaving out those whose state and place have been seen. The answer is
the first that is accepted, and all that has been seen. -/
def explore (a : Automaton) (t : Subject) :
    Nat → List Thread → Array Bool → Option Thread × Array Bool
  | 0, _, seen => (none, seen)
  | _, [], seen => (none, seen)
  | fuel + 1, th :: rest, seen =>
    let key := th.state * (t.size + 1) + th.place
    if seen.getD key true then explore a t fuel rest seen
    else
      let seen := seen.setIfInBounds key true
      match a.ways.getD th.state .accept with
      | .accept => (some th, seen)
      | .one chars next =>
        match t[th.place]? with
        | some c =>
          if chars.contains c then
            explore a t fuel ({ th with state := next, place := th.place + 1 } :: rest) seen
          else explore a t fuel rest seen
        | none => explore a t fuel rest seen
      | .split first second =>
        explore a t fuel ({ th with state := first } :: { th with state := second } :: rest) seen
      | .mark slot next =>
        explore a t fuel
          ({ th with state := next, slots := th.slots.setIfInBounds slot (some th.place) } :: rest)
          seen
      | .place kind next =>
        if t.holds th.place kind then explore a t fuel ({ th with state := next } :: rest) seen
        else explore a t fuel rest seen

/-- Every state is entered at most once at each place and leaves at most two threads. -/
def fuel (a : Automaton) (t : Subject) : Nat := 2 * (a.ways.size * (t.size + 1)) + 2

def unseen (a : Automaton) (t : Subject) : Array Bool :=
  .replicate (a.ways.size * (t.size + 1)) false

/-- The match that begins at a place: where it ends, and the slots of its groups. -/
def matchAt (a : Automaton) (slots : Nat) (t : Subject) (place : Nat) : Option (Nat × Slots) :=
  (a.explore t (a.fuel t) [⟨a.start, place, .replicate slots none⟩] (a.unseen t)).1.map fun th =>
    (th.place, th.slots)

/-- The match that begins first among `count` places from `place` on. -/
def searchFrom (a : Automaton) (slots : Nat) (t : Subject) :
    (count place : Nat) → Array Bool → Option Slots
  | 0, _, _ => none
  | count + 1, place, seen =>
    match a.explore t (a.fuel t) [⟨a.start, place, .replicate slots none⟩] seen with
    | (some th, _) => some ((th.slots.setIfInBounds 0 (some place)).setIfInBounds 1 (some th.place))
    | (none, seen) => searchFrom a slots t count (place + 1) seen

/-- The first match from a place on. -/
def search (a : Automaton) (slots : Nat) (t : Subject) (place : Nat) : Option Slots :=
  a.searchFrom slots t (t.size + 1 - place) place (a.unseen t)

end Automaton

end Conlang.Pattern
