import Conlang.Pattern.Machine

/-! What the library asks of patterns, and the engine that answers.

`Engine` is the interface: everything above it holds of any engine that compiles, tests and lists
matches. `Engine.standard` is the one that is used. It compiles a plain pattern to an automaton and
any other to a backtracking program, and lists matches from left to right: after an empty match the
search goes on one character later, and an empty match where the last one ended does not count. -/
namespace Conlang.Pattern

structure Engine where
  Program : Type
  compile : String → Except Fault Program
  /-- How many groups a template may refer to by number. -/
  groups : Program → Nat
  names : Program → List (String × Nat)
  test : Program → Subject → Except Failure Bool
  /-- The matches, as a search that does not ask for groups lists them. -/
  found : Program → Subject → Except Failure (List Slots)
  /-- The matches, as a search that asks for groups lists them. -/
  captured : Program → Subject → Except Failure (List Slots)

/-- The allowances of the standard engine. -/
structure Limits where
  /-- How often a search may come back. -/
  backtracks : Nat
  /-- About how many bytes an automaton may take. -/
  size : Nat
  deriving Repr, DecidableEq

/-- How many ways a search may keep. -/
def maxDepth : Nat := 1000000

inductive Matcher where
  | plain (automaton : Automaton)
  | tried (program : Machine.Program)
  deriving Repr

/-- A compiled pattern. -/
structure Compiled where
  matcher : Matcher
  groups : Nat
  names : List (String × Nat)
  deriving Repr

namespace Compiled

def ofSource (limits : Limits) (source : Source) : Except Fault Compiled :=
  if source.node.plain source.referred then do
    let automaton ← Automaton.build limits.size source.node
    .ok ⟨.plain automaton, automaton.lastGroup, source.names⟩
  else do
    let program ← Machine.build limits.size source
    .ok ⟨.tried program, source.groups, source.names⟩

def compile (limits : Limits) (text : String) : Except Fault Compiled := do
  ofSource limits (← Reader.read text)

/-- The first match from a place on. -/
def search (limits : Limits) (c : Compiled) (t : Subject) (place : Nat) (skipped : Bool) :
    Except Failure (Option Slots) :=
  match c.matcher with
  | .plain automaton => .ok (automaton.search (2 * (c.groups + 1)) t place)
  | .tried program => Machine.search program ⟨limits.backtracks, maxDepth⟩ t place skipped

/-- The matches from a place on. `last` is where the last match ended, and `flagged` says whether
the search is told that it begins behind an empty match. -/
def listFrom (limits : Limits) (c : Compiled) (t : Subject) (flagged : Bool) :
    (fuel place : Nat) → Option Nat → Except Failure (List Slots)
  | 0, _, _ => .error .endless
  | fuel + 1, place, last =>
    if t.size < place then .ok []
    else do
      match ← c.search limits t place (flagged && last.any (· < place)) with
      | none => .ok []
      | some found =>
        let start := (found.start? 0).getD 0
        let stop := (found.stop? 0).getD 0
        if start = stop then
          if last = some stop then listFrom limits c t flagged fuel (stop + 1) last
          else (found :: ·) <$> listFrom limits c t flagged fuel (stop + 1) (some stop)
        else (found :: ·) <$> listFrom limits c t flagged fuel stop (some stop)

/-- A search that does not move on is made once more in its place, and then for ever. This takes a
match that begins in front of the place, as with `\K` in a lookbehind; any other search moves on by
a character. -/
def list (limits : Limits) (c : Compiled) (t : Subject) (flagged : Bool) :
    Except Failure (List Slots) :=
  c.listFrom limits t flagged (2 * t.size + 3) 0 none

end Compiled

/-- The engine that patterns are meant for. -/
def Engine.standard (limits : Limits) : Engine where
  Program := Compiled
  compile := Compiled.compile limits
  groups := Compiled.groups
  names := Compiled.names
  test c t := Option.isSome <$> c.search limits t 0 false
  found c t := c.list limits t true
  captured c t := c.list limits t false

end Conlang.Pattern
