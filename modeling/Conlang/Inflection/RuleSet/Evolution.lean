import Conlang.Inflection.RuleSet.Basic
import Conlang.Text.Blank
import Conlang.Text.Literal

/-! Replacing a text in all transforms.

A sound that shifts everywhere is written into every pattern and replacement at once. A transform
stays as it was when its pattern would become blank or illegal; the record of it then says so. -/
namespace Conlang.RuleSet
open Text

inductive Refusal where
  | blank
  | illegal
  deriving Repr, DecidableEq

def Refusal.message : Refusal → String
  | .blank => "pattern blanked; value reverted"
  | .illegal => "pattern became illegal; value reverted"

/-- What happened to a transform, or would have. -/
structure EvolutionRecord where
  rule : Nat
  name : String
  before : Substitution
  after : Substitution
  refusal : Option Refusal
  deriving Repr, DecidableEq

/-- The text of a step, as records show it. -/
def arrow (t : Substitution) : String := t.pattern.source ++ "->" ++ t.replacement

section
variable (E : Pattern.Engine) (find replace : String)

def evolved (t : Substitution) : Substitution :=
  ⟨{ t.pattern with source := replaceLiteral find replace false t.pattern.source },
    replaceLiteral find replace false t.replacement⟩

def refusal? (t : Substitution) : Option Refusal :=
  if (trim t.pattern.source).isEmpty then some .blank
  else if t.pattern.isLegal E then none
  else some .illegal

/-- The step after the replacement. -/
def evolve (t : Substitution) : Substitution :=
  if (refusal? E (evolved find replace t)).isNone then evolved find replace t else t

/-- A step that the replacement leaves alone has no record. -/
def record? (r : Rule) (t : Substitution) : Option EvolutionRecord :=
  let after := evolved find replace t
  if after.sameText t then none else some ⟨r.id, r.content.name, t, after, refusal? E after⟩

def inScope (filter : Option Id) (r : Rule) : Bool := filter.all (· == r.type)

/-- The records, by part of speech. -/
def evolutionRecords (s : RuleSet) (filter : Option Id) : List EvolutionRecord :=
  if find.isEmpty then []
  else
    (sortBy (fun r t => r.type ≤ t.type) (s.rules.filter (inScope filter))).flatMap fun r =>
      r.content.transforms.filterMap (record? E find replace r)

def evolveRules (s : RuleSet) (filter : Option Id) : RuleSet :=
  if find.isEmpty then s
  else
    { s with
      rules := s.rules.map fun r =>
        if inScope filter r then
          r.adopt { r.content with transforms := r.content.transforms.map (evolve E find replace) }
        else r }

end

end Conlang.RuleSet
