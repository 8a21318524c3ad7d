import Conlang.Inflection.RuleSet.Basic

/-! Moving rules within their form.

The selected rules of a form move up or down by one place, all at once: a selected rule changes
places with the unselected rule next to it. Those that have no such neighbour stay, and the
selection keeps its order. -/
namespace Conlang

variable {α : Type}

/-- Moves the selected elements behind `a` up by one place, past `a` if that is not selected. -/
def liftPast (selected : α → Bool) (a : α) : List α → List α
  | [] => [a]
  | b :: rest =>
    if selected b && !selected a then b :: liftPast selected a rest
      else a :: liftPast selected b rest

/-- Moves the selected elements up by one place. -/
def liftSelected (selected : α → Bool) : List α → List α
  | [] => []
  | a :: rest => liftPast selected a rest

/-- Moves the selected elements down by one place. -/
def lowerSelected (selected : α → Bool) (l : List α) : List α :=
  (liftSelected selected l.reverse).reverse

namespace RuleSet

/-- Renumbers the rules of a form by their places in a list of ids. -/
def number (s : RuleSet) (type : Id) (c : Combination) (order : List Nat) : RuleSet :=
  { s with
    rules := s.rules.map fun r =>
      if isFor type c r then { r with index := order.idxOf r.id + 1 } else r }

/-- Rearranges the rules of a form; a part of speech without rules stays as it is. -/
def reorder (s : RuleSet) (type : Id) (c : Combination) (move : List Nat → List Nat) : RuleSet :=
  (s.number type c (move ((s.rulesFor type c).map (·.id)))).settle type

def moveUp (s : RuleSet) (type : Id) (c : Combination) (ids : List Nat) : RuleSet :=
  if ids.isEmpty then s else s.reorder type c (liftSelected ids.contains)

def moveDown (s : RuleSet) (type : Id) (c : Combination) (ids : List Nat) : RuleSet :=
  if ids.isEmpty then s else s.reorder type c (lowerSelected ids.contains)

end RuleSet

end Conlang
