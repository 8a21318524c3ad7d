import Conlang.Text.Literal
import Std.Data.ExtTreeMap
import Std.Data.ExtTreeSet

/-! Cutting words into syllables.

A template such as `(C)V(C)` is a row of slots. A letter that names a category stands for any member
of it, and every other character for itself; what is in parentheses may be left out. A word is cut
from its front: the longest syllable that some template allows, that holds no illegal cluster, and
that leaves a rest which can be cut as well. -/
namespace Conlang
open Std

/-- Slots that belong together: one outside of parentheses, or all those in a pair of them. -/
structure TemplateElement where
  slots : List Char
  optional : Bool
  deriving Repr, DecidableEq

structure SyllableTemplate where
  source : String
  elements : List TemplateElement
  deriving Repr, DecidableEq

structure SyllableGrammar where
  categories : ExtTreeMap Char (List String) := ∅
  templates : List SyllableTemplate := []
  clusters : ExtTreeSet String := ∅

namespace SyllableTemplate

/-- Why a text is no template. -/
inductive Fault where
  | unbalanced (template : String)
  | noSlots (template : String)
  deriving Repr, DecidableEq

def Fault.message : Fault → String
  | .unbalanced template =>
      s!"syllable template \"{template}\" has an unbalanced or nested parenthesis"
  | .noSlots template => s!"syllable template \"{template}\" has no slots"

/-- Reads elements; `group` holds the slots since a parenthesis that is open. An empty pair counts
for nothing. -/
def elements? (group : Option (List Char)) : List Char → Option (List TemplateElement)
  | [] => if group.isNone then some [] else none
  | c :: rest =>
    match group with
    | none =>
      if c = '(' then elements? (some []) rest
      else if c = ')' then none
      else (elements? none rest).map (⟨[c], false⟩ :: ·)
    | some slots =>
      if c = '(' then none
      else if c = ')' then
        (elements? none rest).map fun es => if slots.isEmpty then es else ⟨slots, true⟩ :: es
      else elements? (some (slots ++ [c])) rest

def parse (source : String) : Except Fault SyllableTemplate :=
  match elements? none source.toList with
  | none => .error (.unbalanced source)
  | some [] => .error (.noSlots source)
  | some (e :: rest) => .ok ⟨source, e :: rest⟩

end SyllableTemplate

namespace SyllableGrammar

def empty : SyllableGrammar := {}

/-! ### Building -/

/-- Adds a member that is not empty and not there yet. -/
def addMember (members : List String) (m : String) : List String :=
  if m.isEmpty || members.contains m then members else members ++ [m]

/-- Declares a category, or adds to it. -/
def addCategory (g : SyllableGrammar) (letter : Char) (members : List String) : SyllableGrammar :=
  { g with
    categories :=
      g.categories.insert letter (members.foldl addMember ((g.categories[letter]?).getD [])) }

def addTemplate (g : SyllableGrammar) (source : String) :
    Except SyllableTemplate.Fault SyllableGrammar := do
  let t ← SyllableTemplate.parse source
  .ok { g with templates := g.templates ++ [t] }

def addCluster (g : SyllableGrammar) (cluster : String) : SyllableGrammar :=
  if cluster.isEmpty then g else { g with clusters := g.clusters.insert cluster }

def isEmpty (g : SyllableGrammar) : Bool := g.templates.isEmpty

/-! ### Syllables at the front of a word -/

/-- The ways in which a slot matches at the front, each as the characters that it takes. -/
def slotMatches (g : SyllableGrammar) (slot : Char) (s : List Char) : List (List Char) :=
  match g.categories[slot]? with
  | some members => (members.map String.toList).filter (·.isPrefixOf s)
  | none => if s.head? = some slot then [[slot]] else []

/-- How many characters a row of slots may take. -/
def slotsLengths (g : SyllableGrammar) : List Char → List Char → List Nat
  | [], _ => [0]
  | slot :: rest, s =>
    (g.slotMatches slot s).flatMap fun m =>
      (g.slotsLengths rest (s.drop m.length)).map (m.length + ·)

/-- How many characters a row of elements may take. -/
def elementsLengths (g : SyllableGrammar) : List TemplateElement → List Char → List Nat
  | [], _ => [0]
  | e :: rest, s =>
    (if e.optional then g.elementsLengths rest s else [])
      ++ (g.slotsLengths e.slots s).flatMap fun n => (g.elementsLengths rest (s.drop n)).map (n + ·)

def isLegal (g : SyllableGrammar) (syllable : List Char) : Bool :=
  !g.clusters.toList.any fun cluster => Text.occursIn cluster.toList syllable

/-- Puts a length in its place among others, longest first and each once. -/
def insertLength (n : Nat) : List Nat → List Nat
  | [] => [n]
  | m :: rest =>
      if m < n then n :: m :: rest else if m = n then m :: rest else m :: insertLength n rest

/-- The lengths of the syllables that templates allow at the front, longest first. -/
def candidateLengths (g : SyllableGrammar) (s : List Char) : List Nat :=
  ((g.templates.flatMap fun t => g.elementsLengths t.elements s).filter (0 < ·)).foldr
    insertLength []

/-! ### Whole words -/

/-- The syllables of a word whose first `n` characters are one, given the syllables of all that can
be left: those of the word without its first character come first. -/
def cutAt (g : SyllableGrammar) (s : List Char) (tails : List (Option (List String))) (n : Nat) :
    Option (List String) :=
  if g.isLegal (s.take n) then (tails[n - 1]?.join).map (.ofList (s.take n) :: ·) else none

/-- The syllables of a word, and of what is left of it behind its first, second … character. -/
def solutions (g : SyllableGrammar) : List Char → List (Option (List String))
  | [] => [some []]
  | c :: rest =>
    let tails := g.solutions rest
    (g.candidateLengths (c :: rest)).findSome? (g.cutAt (c :: rest) tails) :: tails

/-- The syllables of a word, unless it can not be cut. -/
def syllabify (g : SyllableGrammar) (word : String) : Option (List String) :=
  (g.solutions word.toList).head?.join

def split (g : SyllableGrammar) (word separator : String) : Option String :=
  (g.syllabify word).map separator.intercalate

end SyllableGrammar

end Conlang
