import Conlang.Pattern.Engine
import Conlang.Pattern.Lookaround
import Conlang.Pattern.Template

/-! Patterns as users write them, and replacing their matches.

A `Pattern` is a source text, which may be anchored to a whole text. It is legal when its source is
legal, and anchored also when the source in its frame is. `replaceAll` replaces every match and
`replaceScoped` those that a scope selects. -/
namespace Conlang

structure Pattern where
  source : String
  anchored : Bool := false
  deriving Repr, DecidableEq

namespace Pattern

def isEmpty (p : Pattern) : Bool := p.source.isEmpty

/-- Two patterns are written alike; whether they are anchored does not count. -/
def sameSource (p q : Pattern) : Bool := p.source == q.source

/-- The source is framed so that a match must span the whole text. -/
def framed (source : String) : String := "^(?:" ++ source ++ ")$"

def looksAround (p : Pattern) : Bool := Lookaround.looksAround p.source

variable (E : Engine)

def compileText (text : String) : Except Error E.Program :=
  (E.compile text).mapError (.illegal text)

/-- Whether a pattern is legal is asked of its source alone first: the frame could close a group
that the source leaves open. -/
def compile (p : Pattern) : Except Error E.Program := do
  let program ← compileText E p.source
  if p.anchored then compileText E (framed p.source) else .ok program

def isLegal (p : Pattern) : Bool := (p.compile E).toBool

/-- The source of a pattern stands in the error of a search that is given up. -/
def searched {α : Type} (p : Pattern) (result : Except Failure α) : Except Error α :=
  result.mapError (.runtime p.source)

def testWith (p : Pattern) (program : E.Program) (text : String) : Except Error Bool :=
  p.searched (E.test program (.ofString text))

/-- The pattern matches somewhere in the text. -/
def test (p : Pattern) (text : String) : Except Error Bool := do
  p.testWith E (← p.compile E) text

/-! ### Replacing -/

/-- The text with stretches of it replaced; `last` is where the stretch before ended. -/
def splice (t : Subject) (last : Nat) : List (Slots × String) → String
  | [] => t.slice last t.size
  | (found, new) :: rest =>
    t.slice last ((found.start? 0).getD 0) ++ new ++ splice t ((found.stop? 0).getD 0) rest

def parseTemplate (program : E.Program) (replacement : String) : Except Error (List Piece) :=
  (Template.parse (E.groups program) ((E.names program).map Prod.fst) replacement).mapError
    (.replacement replacement)

/-- Replaces the matches with what the template makes of each. -/
def substitute (p : Pattern) (program : E.Program) (pieces : List Piece) (t : Subject) :
    Except Error String := do
  let found ← p.searched (if Template.needsGroups pieces then E.captured program t
    else E.found program t)
  .ok (splice t 0 (found.map fun m => (m, Template.expand (E.names program) t m pieces)))

def replaceAllWith (p : Pattern) (program : E.Program) (replacement text : String) :
    Except Error String := do
  p.substitute E program (← parseTemplate E program replacement) (.ofString text)

/-- Replaces every match. -/
def replaceAll (p : Pattern) (replacement text : String) : Except Error String := do
  p.replaceAllWith E (← p.compile E) replacement text

/-! ### Scopes -/

/-- Which of the matches in a text are replaced. -/
inductive Scope where
  | all
  | firstOnly
  | firstAndMiddle
  | middleOnly
  | middleAndLast
  | lastOnly
  deriving Repr, DecidableEq

/-- Match `index` of `total` is selected; a single match is both the first and the last. -/
def Scope.selects (scope : Scope) (index total : Nat) : Bool :=
  let first := index == 0
  let last := index + 1 == total
  let middle := !first && !last
  match scope with
  | .all => true
  | .firstOnly => first
  | .firstAndMiddle => first || middle
  | .middleOnly => middle
  | .middleAndLast => middle || last
  | .lastOnly => last

/-- What becomes of each match; a match that is not selected stays. -/
def scopedTexts (names : List (String × Nat)) (pieces : List Piece) (scope : Scope) (total : Nat)
    (t : Subject) (found : List Slots) : List (Slots × String) :=
  found.zipIdx.map fun (m, index) =>
    (m, if scope.selects index total then Template.expand names t m pieces
      else (m.text? t 0).getD "")

/-- Replaces the selected matches. All of them may be replaced with any pattern; to select some, the
pattern must not look around. -/
def replaceScoped (p : Pattern) (replacement : String) (scope : Scope) (text : String) :
    Except Error String :=
  if scope = .all then p.replaceAll E replacement text
  else if p.looksAround then .error (.lookaroundScope p.source)
  else do
    let program ← p.compile E
    let t := Subject.ofString text
    let total := (← p.searched (E.found program t)).length
    if total = 0 then .ok text
    else do
      let pieces ← parseTemplate E program replacement
      let found ← p.searched (E.captured program t)
      .ok (splice t 0 (scopedTexts (E.names program) pieces scope total t found))

end Pattern

end Conlang
