import Conlang.Inflection.RuleSet.Evolution
import Conlang.Inflection.RuleSet.Moving
import Conlang.Inflection.RuleSet.Sharing
import Conlang.Proofs.Results

/-! What can be asked of a rule set.

An `Operation` is one change with its arguments, and `perform` makes it: an operation that is
refused leaves the rule set as its own definition says. `answer` is what it answers with. `run`
makes operations one after the other, and `answers` lists their answers. `Operation.Addresses` says
which forms an operation is about. -/
namespace Conlang.RuleSet

inductive Operation where
  | add (type : Id) (c : Combination) (content : RuleContent)
  | edit (id : Nat) (change : RuleContent → RuleContent)
  | deleteRule (id : Nat)
  | deleteRules (ids : List Nat)
  | deleteRulesFor (type : Id) (c : Combination)
  | moveUp (type : Id) (c : Combination) (ids : List Nat)
  | moveDown (type : Id) (c : Combination) (ids : List Nat)
  | copyToSharers (type dimension value : Id) (ids : List Nat) (source : Combination)
  | deleteFromSharers (type dimension value : Id) (ids : List Nat)
  | updateEquivalent (type : Id) (model updated : Rule)
  | deleteEquivalent (type : Id) (ids : List Nat)
  | evolve (filter : Option Id) (find replace : String)
  | purge (l : Lexicon)
  | addDimension (type : Id) (label : String)
  | insertDimension (type : Id) (d : Dimension)
  | addValue (type dimension : Id) (label : String)
  | addExtra (type : Id) (label : String)
  | insertExtra (type : Id) (e : ExtraForm)
  | deleteDimension (type dimension : Id)
  | deleteValue (type dimension value : Id)
  | deleteExtra (type form : Id)
  | clearType (type : Id)
  | suppress (type : Id) (c : Combination) (hidden : Bool)
  | loadSuppressed (raw : String)

/-- The rule set behind a change that may be refused. -/
def after {α : Type} (s : RuleSet) : Except Fault (α × RuleSet) → RuleSet
  | .ok (_, s') => s'
  | .error _ => s

/-- A change that is refused changes nothing, so only what has been found counts. -/
theorem after_bind {P : RuleSet → Prop} {α β : Type} {s : RuleSet} {found : Except Fault α}
    {f : α → Except Fault (β × RuleSet)} (same : P s)
    (change : ∀ a, found = .ok a → P (s.after (f a))) :
    P (s.after (found >>= f)) := by
  cases found with
  | error fault => exact same
  | ok a => exact change a rfl

variable (E : Pattern.Engine)

def perform (s : RuleSet) : Operation → RuleSet
  | .add type c content => s.add type c content
  | .edit id change => s.edit id change
  | .deleteRule id => s.deleteRule id
  | .deleteRules ids => s.deleteRules ids
  | .deleteRulesFor type c => s.deleteRulesFor type c
  | .moveUp type c ids => s.moveUp type c ids
  | .moveDown type c ids => s.moveDown type c ids
  | .copyToSharers type dimension value ids source =>
      s.after (s.copyToSharers type dimension value ids source)
  | .deleteFromSharers type dimension value ids =>
      s.after (s.deleteFromSharers type dimension value ids)
  | .updateEquivalent type model updated => (s.updateEquivalent type model updated).2
  | .deleteEquivalent type ids => s.after (s.deleteEquivalent type ids)
  | .evolve filter find replace => evolveRules E find replace s filter
  | .purge l => s.purge l
  | .addDimension type label => s.after (s.addDimension type label)
  | .insertDimension type d => (s.insertDimension type d).2
  | .addValue type dimension label => s.after (s.addValue type dimension label)
  | .addExtra type label => s.after (s.addExtra type label)
  | .insertExtra type e => s.after ((s.insertExtra type e).map ((), ·))
  | .deleteDimension type dimension => s.after (s.deleteDimension type dimension)
  | .deleteValue type dimension value => s.after (s.deleteValue type dimension value)
  | .deleteExtra type form => s.after (s.deleteExtra type form)
  | .clearType type => (s.clearType type).2
  | .suppress type c hidden => s.suppress type c hidden
  | .loadSuppressed raw => (s.loadSuppressed raw).1

def run (s : RuleSet) : List Operation → RuleSet
  | [] => s
  | op :: rest => run (s.perform E op) rest

/-! ### Answers -/

inductive Answer where
  | done
  /-- The id of a new rule. -/
  | numbered (id : Nat)
  /-- The id of a new dimension, value or extra form. -/
  | declared (id : Id)
  | found (rule : Option Rule)
  | counted (n : Nat)
  | evolved (records : List EvolutionRecord)
  | unread (entries : List Suppression.Rejected)
  | refused (fault : Fault)
  deriving DecidableEq

/-- The answer of a change that may be refused. -/
def Answer.ofChange {α : Type} (tell : α → Answer) : Except Fault (α × RuleSet) → Answer
  | .ok (a, _) => tell a
  | .error fault => .refused fault

def Answer.ofCheck : Except Fault Unit → Answer
  | .ok () => .done
  | .error fault => .refused fault

def answer (s : RuleSet) : Operation → Answer
  | .add .. => .numbered s.nextRule
  | .edit id change => .found ((s.edit id change).rule? id)
  | .deleteRule id => .found (s.rule? id)
  | .deleteRules ids => .counted (s.countWhere fun r => ids.contains r.id)
  | .deleteRulesFor type c => .counted (s.countWhere (isFor type c))
  | .moveUp .. | .moveDown .. | .suppress .. => .done
  | .copyToSharers type dimension value ids source =>
    .ofChange .counted (s.copyToSharers type dimension value ids source)
  | .deleteFromSharers type dimension value ids =>
    .ofChange .counted (s.deleteFromSharers type dimension value ids)
  | .updateEquivalent type model updated => .counted (s.updateEquivalent type model updated).1
  | .deleteEquivalent type ids => .ofChange .counted (s.deleteEquivalent type ids)
  | .evolve filter find replace => .evolved (evolutionRecords E find replace s filter)
  | .purge l => .counted (s.countStale l)
  | .addDimension type label => .ofChange .declared (s.addDimension type label)
  | .insertDimension type d => .ofCheck (s.insertDimension type d).1
  | .addValue type dimension label => .ofChange .declared (s.addValue type dimension label)
  | .addExtra type label => .ofChange .declared (s.addExtra type label)
  | .insertExtra type e => .ofChange (fun _ => .done) ((s.insertExtra type e).map ((), ·))
  | .deleteDimension type dimension => .ofChange .counted (s.deleteDimension type dimension)
  | .deleteValue type dimension value => .ofChange .counted (s.deleteValue type dimension value)
  | .deleteExtra type form => .ofChange .counted (s.deleteExtra type form)
  | .clearType type => .counted (s.clearType type).1
  | .loadSuppressed raw => .unread (s.loadSuppressed raw).2

def answers (s : RuleSet) : List Operation → List Answer
  | [] => []
  | op :: rest => s.answer E op :: answers (s.perform E op) rest

/-! ### Many operations -/

theorem run_append (s : RuleSet) (a b : List Operation) :
    s.run E (a ++ b) = (s.run E a).run E b := by
  induction a generalizing s with
  | nil => rfl
  | cons op rest ih => exact ih _

/-! ### The forms that an operation is about -/

/-- A rule of the form has one of the ids. -/
def Holds (s : RuleSet) (ids : List Nat) (type : Id) (c : Combination) : Prop :=
  ∃ r ∈ s.rules, r.id ∈ ids ∧ r.type = type ∧ r.combination = c

/-- The form has the value in the slot of the dimension. -/
def HasValue (s : RuleSet) (type dimension value : Id) (c : Combination) : Prop :=
  ∃ p slot, s.paradigm? type = some p ∧ p.slot? dimension = some slot ∧ c.valueAt? slot = some value

/-- An operation may change the rules of these forms. -/
def Operation.Addresses (op : Operation) (s : RuleSet) (t : Id) (c : Combination) : Prop :=
  match op with
  | .add type d _ | .deleteRulesFor type d | .moveUp type d _ | .moveDown type d _ =>
    t = type ∧ c = d
  | .edit id _ | .deleteRule id => s.Holds [id] t c
  | .deleteRules ids => s.Holds ids t c
  | .copyToSharers type dimension value _ source =>
    t = type ∧ c ≠ source ∧ c ∈ (s.allForms type).map (·.combination) ∧
      s.HasValue type dimension value c
  | .deleteFromSharers type _ _ _ | .updateEquivalent type _ _ | .deleteEquivalent type _
  | .clearType type => t = type
  | .evolve filter _ _ => ∀ type ∈ filter, t = type
  | .purge _ => True
  | .deleteDimension type _ => t = type ∧ c.isCell = true
  | .deleteValue type dimension value => t = type ∧ s.HasValue type dimension value c
  | .deleteExtra type form => t = type ∧ c = .ofForm form
  | .addDimension .. | .insertDimension .. | .addValue .. | .addExtra .. | .insertExtra ..
  | .suppress .. | .loadSuppressed _ => False

end Conlang.RuleSet
