import Conlang.Lexicon
import Conlang.Paradigm.Combination

/-! The forms that the words of a part of speech have.

A `Paradigm` declares dimensions, such as case and number, each with its values, and extra forms
beside them, such as an infinitive. `forms` lists one form for every choice of values, the last
dimension varying fastest, and then the extra forms. Without dimensions there is one cell, which is
written as a lone comma. -/
namespace Conlang

structure DimensionValue where
  id : Id
  label : String
  deriving Repr, DecidableEq

structure Dimension where
  id : Id
  label : String
  values : List DimensionValue := []
  deriving Repr, DecidableEq

structure ExtraForm where
  id : Id
  label : String
  deriving Repr, DecidableEq

structure Paradigm where
  dimensions : List Dimension := []
  extras : List ExtraForm := []
  deriving Repr, DecidableEq

/-- A form and how it is called. -/
structure Form where
  combination : Combination
  label : String
  deriving DecidableEq

/-! ### Fresh ids -/

/-- The highest of the ids, or zero. -/
def highest (ids : List Id) : Id := ids.foldl max 0

/-- The id behind another; the last one has none. -/
def nextId? (id : Id) : Option Id := if id.toNat + 1 < UInt32.size then some (id + 1) else none

/-! ### Dimensions -/

namespace Dimension

def value? (d : Dimension) (id : Id) : Option DimensionValue := d.values.find? (·.id == id)

def nextValue? (d : Dimension) : Option Id := nextId? (highest (d.values.map (·.id)))

/-- The first value id that is declared a second time. -/
def repeatedValue? (d : Dimension) : Option Id := repeated? [] (d.values.map (·.id))
where
  repeated? (seen : List Id) : List Id → Option Id
    | [] => none
    | id :: rest => if seen.contains id then some id else repeated? (id :: seen) rest

end Dimension

/-! ### Forms -/

namespace Paradigm

def empty : Paradigm := {}

def dimension? (p : Paradigm) (id : Id) : Option Dimension := p.dimensions.find? (·.id == id)

/-- Which place in a combination the dimension has. -/
def slot? (p : Paradigm) (id : Id) : Option Nat := p.dimensions.findIdx? (·.id == id)

def extra? (p : Paradigm) (id : Id) : Option ExtraForm := p.extras.find? (·.id == id)

/-- The ids of the dimensions and of the extra forms. -/
def ids (p : Paradigm) : List Id := p.dimensions.map (·.id) ++ p.extras.map (·.id)

/-- Every choice of one value from each dimension. -/
def choices : List Dimension → List (List DimensionValue)
  | [] => [[]]
  | d :: rest => d.values.flatMap fun v => (choices rest).map (v :: ·)

def joinLabels (labels : List String) : String := " ".intercalate labels

def formOfChoice (values : List DimensionValue) : Form :=
  ⟨.ofValues (values.map (·.id)), joinLabels (values.map (·.label))⟩

def formOfExtra (e : ExtraForm) : Form := ⟨.ofForm e.id, e.label⟩

/-- Every form, cells before extra forms. -/
def forms (p : Paradigm) : List Form :=
  (choices p.dimensions).map formOfChoice ++ p.extras.map formOfExtra

/-- The values that a cell selects, as long as all dimensions know them. -/
def select? : List Id → List Dimension → Option (List DimensionValue)
  | [], [] => some []
  | id :: ids, d :: dimensions => do some ((← d.value? id) :: (← select? ids dimensions))
  | _, _ => none

/-- How a form is called, if the paradigm declares it. -/
def label? (p : Paradigm) (c : Combination) : Option String :=
  match c.form? with
  | some form => (p.extra? form).map (·.label)
  | none => (select? c.values p.dimensions).map fun values => joinLabels (values.map (·.label))

def declares (p : Paradigm) (c : Combination) : Bool := (p.label? c).isSome

end Paradigm

end Conlang
