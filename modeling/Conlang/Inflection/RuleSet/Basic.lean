import Conlang.Inflection.Rule
import Conlang.Paradigm.Suppression
import Conlang.Sorting
import Std.Data.ExtTreeMap

/-! The rules, paradigms and hidden forms of a language.

The rules of one form of a part of speech are a bucket; they are numbered from one, and a word goes
through them in that order. `rulesOf` gives the rules of a part of speech in the order in which they
are kept: a new rule comes last, and whatever takes rules away or moves them sorts what is left by
form and number (`settle`). Ids of rules are given out once and never again. -/
namespace Conlang
open Std

structure RuleSet where
  rules : List Rule := []
  paradigms : ExtTreeMap Id Paradigm := ∅
  suppressed : Suppression := {}
  /-- The last rule id that was given out. -/
  lastRule : Nat := 0
  /-- No id of a dimension or an extra form that was ever taken is higher. -/
  lastItem : Id := 0

namespace RuleSet

def empty : RuleSet := {}

/-! ### Looking up rules -/

def isEmpty (s : RuleSet) : Bool := s.rules.isEmpty

def rule? (s : RuleSet) (id : Nat) : Option Rule := s.rules.find? (·.id == id)

/-- The rules of a part of speech, as they are kept. -/
def rulesOf (s : RuleSet) (type : Id) : List Rule := s.rules.filter (·.type == type)

/-- The rules of a form, as they are kept. -/
def bucket (s : RuleSet) (type : Id) (c : Combination) : List Rule :=
  (s.rulesOf type).filter (·.combination == c)

/-- The rules of a form, in the order in which they apply. -/
def rulesFor (s : RuleSet) (type : Id) (c : Combination) : List Rule :=
  sortBy (fun r t => r.index ≤ t.index) (s.bucket type c)

/-! ### Adding and changing rules -/

/-- The number of a rule that is added to a form. -/
def nextIndex (s : RuleSet) (type : Id) (c : Combination) : Nat :=
  ((s.bucket type c).map (·.index)).foldl max 0 + 1

/-- The id that the next rule gets. -/
def nextRule (s : RuleSet) : Nat := s.lastRule + 1

/-- Adds a rule behind the others of its form. -/
def add (s : RuleSet) (type : Id) (c : Combination) (content : RuleContent) : RuleSet :=
  { s with
    rules := s.rules ++ [⟨s.nextRule, s.nextIndex type c, type, c, content⟩]
    lastRule := s.nextRule }

/-- Changes what a rule says. -/
def edit (s : RuleSet) (id : Nat) (change : RuleContent → RuleContent) : RuleSet :=
  { s with rules := s.rules.map fun r => if r.id = id then r.adopt (change r.content) else r }

/-! ### Keeping order -/

/-- By the text of the form, and by number within a form. -/
def inOrder (r t : Rule) : Bool :=
  (compareLex (compareOn Rule.combination) (compareOn Rule.index) r t).isLE

/-- Numbers the rules of each form from one; `last` is the form and the number of the rule
before. -/
def renumber (last : Option (Combination × Nat)) : List Rule → List Rule
  | [] => []
  | r :: rest =>
    let index := match last with
      | some (c, n) => if c = r.combination then n + 1 else 1
      | none => 1
    { r with index } :: renumber (some (r.combination, index)) rest

def arrange (rules : List Rule) : List Rule := renumber none (sortBy inOrder rules)

/-- Sorts and renumbers the rules of a part of speech. -/
def settle (s : RuleSet) (type : Id) : RuleSet :=
  { s with rules := s.rules.filter (·.type != type) ++ arrange (s.rulesOf type) }

/-! ### Deleting rules -/

/-- Deletes rules, and settles the parts of speech that have lost some. -/
def deleteWhere (s : RuleSet) (doomed : Rule → Bool) : RuleSet :=
  let touched := ((s.rules.filter doomed).map (·.type)).eraseDups
  touched.foldl settle { s with rules := s.rules.filter (!doomed ·) }

def countWhere (s : RuleSet) (doomed : Rule → Bool) : Nat := s.rules.countP doomed

def deleteRule (s : RuleSet) (id : Nat) : RuleSet := s.deleteWhere (·.id == id)

def deleteRules (s : RuleSet) (ids : List Nat) : RuleSet := s.deleteWhere fun r => ids.contains r.id

/-- Is a rule of the form. -/
def isFor (type : Id) (c : Combination) (r : Rule) : Bool := r.type == type && r.combination == c

def deleteRulesFor (s : RuleSet) (type : Id) (c : Combination) : RuleSet :=
  s.deleteWhere (isFor type c)

/-! ### Stale conditions -/

def isCurrent (l : Lexicon) (c : ClassCondition) : Bool := l.declaresClassValue c.wordClass c.value

/-- How many conditions name a class value that the lexicon does not declare. -/
def countStale (s : RuleSet) (l : Lexicon) : Nat :=
  (s.rules.flatMap fun r => r.content.conditions.filter (!isCurrent l ·)).length

/-- Drops those conditions. -/
def purge (s : RuleSet) (l : Lexicon) : RuleSet :=
  { s with
    rules := s.rules.map fun r =>
      r.adopt { r.content with conditions := r.content.conditions.filter (isCurrent l) } }

end RuleSet

end Conlang
