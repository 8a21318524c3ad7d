import Conlang.Text.CharSet

/-! What a pattern is made of.

A `Node` is a pattern as a tree, with every character class resolved to its characters and every
reference to the number of its group. Group 0 is the whole match; the others are numbered in the
order in which they open. -/
namespace Conlang.Pattern
open Text (CharSet)

/-- A place in a text. -/
inductive Assertion where
  | textStart
  | textEnd
  | lineStart
  | lineEnd
  | wordBoundary
  | noWordBoundary
  | wordStart
  | wordEnd
  deriving Repr, DecidableEq

/-- Which side of a place is looked at, and whether a match is wanted there. -/
structure Look where
  behind : Bool
  negated : Bool
  deriving Repr, DecidableEq

inductive Node where
  | empty
  | lit (c : Char)
  | set (chars : CharSet)
  /-- Any character, the newline only if so asked. -/
  | any (newline : Bool)
  | assertion (place : Assertion)
  | seq (parts : List Node)
  | alt (choices : List Node)
  | group (index : Nat) (body : Node)
  | look (kind : Look) (body : Node)
  | rep (least : Nat) (most : Option Nat) (greedy : Bool) (body : Node)
  /-- The first match of the body and no other. -/
  | atomic (body : Node)
  | backref (index : Nat)
  /-- The group has matched. -/
  | isSet (index : Nat)
  | cond (test thenBody elseBody : Node)
  /-- The match starts here. -/
  | keepOut
  /-- The place where the search began. -/
  | searchStart
  deriving Repr

namespace Node

def isEmpty : Node → Bool
  | .empty => true
  | _ => false

/-- A place can not be repeated, and neither can nothing. -/
def repeatable : Node → Bool
  | .empty | .assertion _ | .look _ _ => false
  | _ => true

/-- Parts in a row; a single part is that part. -/
def ofParts : List Node → Node
  | [] => .empty
  | [part] => part
  | parts => .seq parts

/-! ### Lookaround -/

mutual

/-- A lookahead or lookbehind occurs. -/
def looksAround : Node → Bool
  | .look _ _ => true
  | .group _ body | .rep _ _ _ body | .atomic body => body.looksAround
  | .seq parts | .alt parts => anyLooksAround parts
  | .cond test thenBody elseBody =>
    test.looksAround || thenBody.looksAround || elseBody.looksAround
  | _ => false

def anyLooksAround : List Node → Bool
  | [] => false
  | part :: parts => part.looksAround || anyLooksAround parts

end

theorem anyLooksAround_eq (parts : List Node) : anyLooksAround parts = parts.any looksAround := by
  induction parts with
  | nil => rfl
  | cons part parts ih => rw [anyLooksAround, ih, List.any_cons]

theorem looksAround_ofParts (parts : List Node) :
    (ofParts parts).looksAround = anyLooksAround parts := by
  match parts with
  | [] => rfl
  | [part] => exact (Bool.or_false _).symm
  | _ :: _ :: _ => rfl

end Node

end Conlang.Pattern
