import Conlang.Inflection.RuleSet.Basic

/-! The paradigms of a rule set.

Dimensions and extra forms share one row of ids for the whole language. Taking a dimension, a value
or an extra form away also takes away the rules and the hidden forms that hang on it. -/
namespace Conlang
namespace RuleSet

/-- Why a change was not made. -/
inductive Fault where
  | noParadigm (type : Id)
  | unknownDimension (type dimension : Id)
  | unknownValue (dimension value : Id)
  | unknownExtra (type form : Id)
  | repeatedId (id : Id)
  | unknownRule (id : Nat)
  /-- The highest id is taken. -/
  | noIdLeft
  deriving Repr, DecidableEq

def Fault.message : Fault → String
  | .noParadigm type => s!"part of speech {type} has no form template"
  | .unknownDimension type dimension => s!"part of speech {type} has no dimension {dimension}"
  | .unknownValue dimension value => s!"dimension {dimension} has no value {value}"
  | .unknownExtra type form => s!"part of speech {type} has no extra form {form}"
  | .repeatedId id => s!"template id {id} is already in use"
  | .unknownRule id => s!"rule #{id} does not exist"
  | .noIdLeft => "attempt to add with overflow"

/-! ### Looking up forms -/

def paradigm? (s : RuleSet) (type : Id) : Option Paradigm := s.paradigms[type]?

/-- A part of speech without a paradigm has that with nothing declared. -/
def paradigm (s : RuleSet) (type : Id) : Paradigm := (s.paradigm? type).getD .empty

/-- Every form of a part of speech, hidden ones included. -/
def allForms (s : RuleSet) (type : Id) : List Form := (s.paradigm type).forms

def isSuppressed (s : RuleSet) (type : Id) (c : Combination) : Bool := s.suppressed.contains type c

/-- The forms of a part of speech that are not hidden. -/
def forms (s : RuleSet) (type : Id) : List Form :=
  (s.allForms type).filter fun f => !s.isSuppressed type f.combination

def label? (s : RuleSet) (type : Id) (c : Combination) : Option String := (s.paradigm type).label? c

/-- The rules whose form the paradigm does not declare. -/
def deprecated (s : RuleSet) (type : Id) : List Rule :=
  (s.rulesOf type).filter fun r => !(s.paradigm type).declares r.combination

def suppress (s : RuleSet) (type : Id) (c : Combination) (hidden : Bool) : RuleSet :=
  { s with suppressed := s.suppressed.set type c hidden }

/-- Hides the forms that a text lists, and no others. -/
def loadSuppressed (s : RuleSet) (raw : String) : RuleSet × List Suppression.Rejected :=
  ({ s with suppressed := (Suppression.parse raw).1 }, (Suppression.parse raw).2)

/-! ### Adding to a paradigm -/

/-- The id that the next dimension or extra form gets. -/
def nextItem? (s : RuleSet) : Option Id :=
  nextId? (max s.lastItem (highest (s.paradigms.toList.map fun entry => highest entry.2.ids)))

def setParadigm (s : RuleSet) (type : Id) (p : Paradigm) : RuleSet :=
  { s with paradigms := s.paradigms.insert type p }

def addItem (s : RuleSet) (type : Id) (change : Id → Paradigm → Paradigm) :
    Except Fault (Id × RuleSet) :=
  match s.nextItem? with
  | none => .error .noIdLeft
  | some id => .ok (id, { s.setParadigm type (change id (s.paradigm type)) with lastItem := id })

/-- Adds a dimension without values. -/
def addDimension (s : RuleSet) (type : Id) (label : String) : Except Fault (Id × RuleSet) :=
  s.addItem type fun id p => { p with dimensions := p.dimensions ++ [{ id, label }] }

def addExtra (s : RuleSet) (type : Id) (label : String) : Except Fault (Id × RuleSet) :=
  s.addItem type fun id p => { p with extras := p.extras ++ [{ id, label }] }

/-- The first id of a new dimension that is taken: its own, or that of a value which it declares
twice. -/
def takenBy? (p : Paradigm) (d : Dimension) : Option Id :=
  if p.ids.contains d.id then some d.id else d.repeatedValue?

/-- Adds a dimension that brings its ids. The part of speech has a paradigm afterwards even when the
dimension is refused. -/
def insertDimension (s : RuleSet) (type : Id) (d : Dimension) : Except Fault Unit × RuleSet :=
  let p := s.paradigm type
  match takenBy? p d with
  | some id => (.error (.repeatedId id), s.setParadigm type p)
  | none =>
    (.ok (), { s.setParadigm type { p with dimensions := p.dimensions ++ [d] } with
      lastItem := max s.lastItem d.id })

/-- Adds an extra form that brings its id. -/
def insertExtra (s : RuleSet) (type : Id) (e : ExtraForm) : Except Fault RuleSet :=
  let p := s.paradigm type
  if p.ids.contains e.id then .error (.repeatedId e.id)
  else .ok
    { s.setParadigm type { p with extras := p.extras ++ [e] } with lastItem := max s.lastItem e.id }

/-- A dimension of a paradigm and its slot. -/
def findDimension (s : RuleSet) (type dimension : Id) : Except Fault (Paradigm × Nat × Dimension) :=
  match s.paradigm? type with
  | none => .error (.noParadigm type)
  | some p =>
    match p.slot? dimension, p.dimension? dimension with
    | some slot, some d => .ok (p, slot, d)
    | _, _ => .error (.unknownDimension type dimension)

def setDimension (s : RuleSet) (type : Id) (p : Paradigm) (slot : Nat) (d : Dimension) : RuleSet :=
  s.setParadigm type { p with dimensions := p.dimensions.set slot d }

def addValue (s : RuleSet) (type dimension : Id) (label : String) :
    Except Fault (Id × RuleSet) := do
  let (p, slot, d) ← s.findDimension type dimension
  match d.nextValue? with
  | none => .error .noIdLeft
  | some id => .ok (id, s.setDimension type p slot { d with values := d.values ++ [⟨id, label⟩] })

/-! ### Taking away from a paradigm

Each change answers with the number of rules that went with it. -/

/-- Takes away the rules of a part of speech whose forms are chosen, and shows those forms again. -/
def dropForms (s : RuleSet) (type : Id) (chosen : Combination → Bool) : Nat × RuleSet :=
  let doomed (r : Rule) : Bool := r.type == type && chosen r.combination
  (s.countWhere doomed,
    { s with suppressed := s.suppressed.release type chosen }.deleteWhere doomed)

/-- Every cell changes its width, so all of them go. -/
def deleteDimension (s : RuleSet) (type dimension : Id) : Except Fault (Nat × RuleSet) := do
  let (p, slot, _) ← s.findDimension type dimension
  .ok ((s.setParadigm type { p with dimensions := p.dimensions.eraseIdx slot }).dropForms type
    (·.isCell))

def selects (slot : Nat) (value : Id) (c : Combination) : Bool := c.valueAt? slot == some value

def deleteValue (s : RuleSet) (type dimension value : Id) : Except Fault (Nat × RuleSet) := do
  let (p, slot, d) ← s.findDimension type dimension
  if (d.value? value).isNone then .error (.unknownValue dimension value)
  else
    .ok ((s.setDimension type p slot
      { d with values := d.values.filter (·.id != value) }).dropForms type (selects slot value))

/-- The rules and the hidden form go that spell the form in the shortest way. -/
def deleteExtra (s : RuleSet) (type form : Id) : Except Fault (Nat × RuleSet) :=
  match s.paradigm? type with
  | none => .error (.noParadigm type)
  | some p =>
    if (p.extra? form).isNone then .error (.unknownExtra type form)
    else
      .ok ((s.setParadigm type { p with extras := p.extras.filter (·.id != form) }).dropForms type
        (· == .ofForm form))

/-- Forgets all about a part of speech. -/
def clearType (s : RuleSet) (type : Id) : Nat × RuleSet :=
  ((s.rulesOf type).length,
    { s with
      rules := s.rules.filter (·.type != type)
      paradigms := s.paradigms.erase type
      suppressed := s.suppressed.release type fun _ => true })

end RuleSet

end Conlang
