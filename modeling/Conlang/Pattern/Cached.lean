import Conlang.Pattern.Replace

/-! A pattern that keeps its compilation.

The first question compiles the pattern and keeps the outcome, a success or an error; later
questions use what was kept. Changing the source or copying the pattern forgets it. -/
namespace Conlang.Pattern

structure Cached (E : Engine) where
  pattern : Pattern
  kept : Option (Except Error E.Program) := none

namespace Cached

variable {E : Engine}

def ofPattern (p : Pattern) : Cached E := { pattern := p }

/-- A copy starts without what the copied pattern has kept. -/
def copy (c : Cached E) : Cached E := .ofPattern c.pattern

def setSource (c : Cached E) (source : String) : Cached E :=
  .ofPattern { c.pattern with source }

/-- The compiled pattern, and the pattern that has kept it. -/
def program (c : Cached E) : Except Error E.Program × Cached E :=
  match c.kept with
  | some outcome => (outcome, c)
  | none =>
    let outcome := c.pattern.compile E
    (outcome, { c with kept := some outcome })

def isLegal (c : Cached E) : Bool × Cached E :=
  let (outcome, c) := c.program
  (outcome.toBool, c)

def test (c : Cached E) (text : String) : Except Error Bool × Cached E :=
  let (outcome, c) := c.program
  (outcome.bind fun program => c.pattern.testWith E program text, c)

def replaceAll (c : Cached E) (replacement text : String) : Except Error String × Cached E :=
  let (outcome, c) := c.program
  (outcome.bind fun program => c.pattern.replaceAllWith E program replacement text, c)

end Cached

end Conlang.Pattern
