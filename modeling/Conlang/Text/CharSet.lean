/-! Sets of characters.

A set is a list of closed ranges of code points, ascending and apart. `insert` keeps that order and
melts ranges that touch, so equal sets have equal ranges; the other operations are built from it and
from `complement`, which is taken among the code points that are characters. -/
namespace Conlang.Text

structure CharSet where
  ranges : List (Nat × Nat)
  deriving Repr, DecidableEq

namespace CharSet

def empty : CharSet := ⟨[]⟩

/-! ### Members -/

def containsCode (s : CharSet) (n : Nat) : Bool :=
  s.ranges.any fun r => r.1 ≤ n && n ≤ r.2

def contains (s : CharSet) (c : Char) : Bool := s.containsCode c.toNat

/-! ### Building sets -/

/-- Puts a range in its place and melts it with those it touches. -/
def insertRange (r : Nat × Nat) : List (Nat × Nat) → List (Nat × Nat)
  | [] => [r]
  | s :: rest =>
    if r.2 + 1 < s.1 then r :: s :: rest
    else if s.2 + 1 < r.1 then s :: insertRange r rest
    else insertRange (min r.1 s.1, max r.2 s.2) rest

def insert (s : CharSet) (r : Nat × Nat) : CharSet := ⟨insertRange r s.ranges⟩

def ofRanges (rs : List (Nat × Nat)) : CharSet := ⟨rs.foldr insertRange []⟩

def singleton (c : Char) : CharSet := ⟨[(c.toNat, c.toNat)]⟩

def union (s t : CharSet) : CharSet := ⟨t.ranges.foldr insertRange s.ranges⟩

def unions (sets : List CharSet) : CharSet := sets.foldl union empty

/-- The gaps from `low` on that a list of ranges leaves below `high`. -/
def gaps (low high : Nat) : List (Nat × Nat) → List (Nat × Nat)
  | [] => if low ≤ high then [(low, high)] else []
  | r :: rest =>
    (if low < r.1 then [(low, min (r.1 - 1) high)] else []) ++ gaps (max low (r.2 + 1)) high rest

/-- Surrogates are code points and no characters. -/
def surrogates : Nat × Nat := (0xD800, 0xDFFF)

/-- All characters outside the set. -/
def complement (s : CharSet) : CharSet := ⟨gaps 0 0x10FFFF (insertRange surrogates s.ranges)⟩

def full : CharSet := empty.complement

def inter (s t : CharSet) : CharSet := (s.complement.union t.complement).complement

def diff (s t : CharSet) : CharSet := s.inter t.complement

def symmDiff (s t : CharSet) : CharSet := (s.diff t).union (t.diff s)

/-! ### Written ranges -/

def hexDigit? (c : Char) : Option Nat :=
  if '0' ≤ c ∧ c ≤ '9' then some (c.toNat - 48)
  else if 'A' ≤ c ∧ c ≤ 'F' then some (c.toNat - 55)
  else if 'a' ≤ c ∧ c ≤ 'f' then some (c.toNat - 87)
  else none

/-- Reads ranges such as `41-5A AA`, in hexadecimal, ascending and apart; `low` is the lower end of
a range whose upper end is being read. -/
def ofHex (text : String) : CharSet := ⟨(go text.toList none none []).reverse⟩
where
  go : List Char → Option Nat → Option Nat → List (Nat × Nat) → List (Nat × Nat)
    | [], low, code, out => add low code out
    | c :: rest, low, code, out =>
      if c = '-' then go rest code none out
      else match hexDigit? c with
        | some d => go rest low (some (code.getD 0 * 16 + d)) out
        | none => go rest none none (add low code out)
  add (low code : Option Nat) (out : List (Nat × Nat)) : List (Nat × Nat) :=
    match code with
    | some n => (low.getD n, n) :: out
    | none => out

end CharSet

end Conlang.Text
