import Conlang.Paradigm.Basic
import Conlang.Substitution

/-! Inflection rules.

A rule belongs to one form of a part of speech. It applies to a word whose classes meet its
conditions and whose form so far its gate matches as a whole, and then changes that form step by
step. -/
namespace Conlang

/-- Requires a class value of the word, or forbids it. -/
structure ClassCondition where
  wordClass : Id
  value : Id
  negated : Bool := false
  deriving Repr, DecidableEq

def ClassCondition.holdsFor (c : ClassCondition) (w : Word) : Bool :=
  w.hasClassValue c.wordClass c.value != c.negated

/-- What a rule says, apart from its place. -/
structure RuleContent where
  name : String := ""
  /-- Matched against the whole form; an empty gate matches every form. -/
  gate : Pattern := ⟨"", true⟩
  conditions : List ClassCondition := []
  transforms : List Substitution := []
  deriving Repr, DecidableEq

structure Rule where
  /-- No other rule of a language has it. -/
  id : Nat
  /-- The place among the rules of the same form, counted from one. -/
  index : Nat
  type : Id
  combination : Combination
  content : RuleContent
  deriving DecidableEq

namespace RuleContent

def setGate (r : RuleContent) (source : String) : RuleContent :=
  { r with gate := { r.gate with source } }

/-- A class has one condition at most: a later one takes the place of an earlier. -/
def addCondition (r : RuleContent) (c : ClassCondition) : RuleContent :=
  { r with conditions := r.conditions.filter (·.wordClass != c.wordClass) ++ [c] }

def removeCondition (r : RuleContent) (wordClass : Id) : RuleContent :=
  { r with conditions := r.conditions.filter (·.wordClass != wordClass) }

def clearConditions (r : RuleContent) : RuleContent := { r with conditions := [] }

def addTransform (r : RuleContent) (t : Substitution) : RuleContent :=
  { r with transforms := r.transforms ++ [t] }

def setTransform (r : RuleContent) (place : Nat) (pattern replacement : Option String) :
    RuleContent :=
  { r with
    transforms := r.transforms.modify place fun t =>
      ⟨{ t.pattern with source := pattern.getD t.pattern.source }, replacement.getD t.replacement⟩ }

def removeTransform (r : RuleContent) (place : Nat) : RuleContent :=
  { r with transforms := r.transforms.eraseIdx place }

/-- Two contents are written alike, conditions apart. -/
def sameText (r s : RuleContent) : Bool :=
  r.name == s.name && r.gate.sameSource s.gate
    && r.transforms.length == s.transforms.length
    && (r.transforms.zip s.transforms).all fun (t, u) => t.sameText u

end RuleContent

namespace Rule

/-- Two rules of one part of speech say the same, wherever they stand and whatever their
conditions. -/
def equivalent (r s : Rule) : Bool := r.type == s.type && r.content.sameText s.content

def meetsConditions (r : Rule) (w : Word) : Bool := r.content.conditions.all (·.holdsFor w)

/-- Takes over all that another rule says. -/
def adopt (r : Rule) (content : RuleContent) : Rule := { r with content }

end Rule

end Conlang
