import Conlang.Pattern.Syntax
import Conlang.Text.Letter

/-! The text that is searched, and what a match records about it.

Places are counted in characters: place `i` stands before character `i`. -/
namespace Conlang.Pattern
open Text

abbrev Subject := Array Char

/-- Where groups begin and end: group `g` lies between the places in slots `2 * g` and
`2 * g + 1`. -/
abbrev Slots := Array (Option Nat)

namespace Subject

def ofString (s : String) : Subject := s.toList.toArray

/-- The text between two places. -/
def slice (t : Subject) (start stop : Nat) : String := .ofList (t.extract start stop).toList

def wordAt (t : Subject) (i : Nat) : Bool := (t[i]?).any isWordChar

/-- The character before a place belongs to a word. -/
def wordBefore (t : Subject) (i : Nat) : Bool := i != 0 && t.wordAt (i - 1)

def newlineAt (t : Subject) (i : Nat) : Bool := t[i]? == some '\n'

/-- Place `i` of the text is of the given kind. -/
def holds (t : Subject) (i : Nat) : Assertion → Bool
  | .textStart => i == 0
  | .textEnd => i == t.size
  | .lineStart => i == 0 || t.newlineAt (i - 1)
  | .lineEnd => i == t.size || t.newlineAt i
  | .wordBoundary => t.wordBefore i != t.wordAt i
  | .noWordBoundary => t.wordBefore i == t.wordAt i
  | .wordStart => !t.wordBefore i && t.wordAt i
  | .wordEnd => t.wordBefore i && !t.wordAt i

end Subject

namespace Slots

def start? (s : Slots) (group : Nat) : Option Nat := s[2 * group]?.join

def stop? (s : Slots) (group : Nat) : Option Nat := s[2 * group + 1]?.join

/-- The text of a group, if the group has matched. -/
def text? (s : Slots) (t : Subject) (group : Nat) : Option String := do
  some (t.slice (← s.start? group) (← s.stop? group))

end Slots

end Conlang.Pattern
