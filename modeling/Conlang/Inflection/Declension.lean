import Conlang.Inflection.RuleSet.Forms

/-! Forming a word.

A word goes through the rules of a form in order. A rule is passed over when the word's classes do
not meet its conditions or its gate does not match the form so far; otherwise its steps change that
form one after the other. A gate or a step that fails is skipped and reported, and the word goes on.
`decline` also keeps what happened at each rule, and `declineTraced` puts it behind a record that is
there already. -/
namespace Conlang

namespace Declension

/-- Where in a rule a pattern stands. -/
inductive Location where
  | gate
  | transform (place : Nat)
  deriving Repr, DecidableEq

def Location.text : Location → String
  | .gate => "gating regex"
  | .transform place => s!"transform {place + 1}"

/-- A pattern that was skipped. -/
structure Diagnostic where
  rule : Nat
  name : String
  location : Location
  error : Pattern.Error
  deriving Repr, DecidableEq

def Diagnostic.message (d : Diagnostic) : String :=
  s!"rule \"{d.name}\" (#{d.rule}), {d.location.text}: {d.error.message}"

/-- Why a rule was applied or was not. -/
inductive Outcome where
  | classMismatch
  | gateMatched (value gate : String)
  | gateMismatch (value gate : String)
  | gateFailed (gate : String) (error : Pattern.Error)
  deriving Repr, DecidableEq

def Outcome.applied : Outcome → Bool
  | .gateMatched .. => true
  | _ => false

/-- What became of a step. -/
inductive Effect where
  | applied (before after : String)
  | skipped (error : Pattern.Error)
  deriving Repr, DecidableEq

structure TransformTrace where
  transform : Substitution
  effect : Effect
  deriving Repr, DecidableEq

structure RuleTrace where
  rule : Nat
  name : String
  outcome : Outcome
  transforms : List TransformTrace
  deriving Repr, DecidableEq

/-- Why a word can not be formed at all. -/
inductive Fault where
  | missingWord (word : Id)
  | unknownPartOfSpeech (word type : Id)
  deriving Repr, DecidableEq

def Fault.message : Fault → String
  | .missingWord word =>
    s!"word {word} is not in the lexicon; declension needs its part of speech and classes"
  | .unknownPartOfSpeech word type =>
    s!"word {word} has part of speech {type}, which the lexicon does not declare"

end Declension

/-- A form of a word, what was skipped on the way to it, and what happened at each rule. -/
structure Declension where
  value : String
  diagnostics : List Declension.Diagnostic
  trace : List Declension.RuleTrace
  deriving Repr, DecidableEq

namespace Declension

variable (E : Pattern.Engine)

/-! ### One rule -/

/-- Whether a rule applies to a word whose form so far is `value`. Conditions count only where
classes apply to the word at all. -/
def outcome (r : Rule) (w : Word) (classed : Bool) (value : String) : Outcome :=
  let gate := r.content.gate
  if classed && !r.meetsConditions w then .classMismatch
  else if gate.isEmpty then .gateMatched value gate.source
  else
    match gate.test E value with
    | .ok true => .gateMatched value gate.source
    | .ok false => .gateMismatch value gate.source
    | .error e => .gateFailed gate.source e

def effect (t : Substitution) (value : String) : Effect :=
  match t.apply E value with
  | .ok after => .applied value after
  | .error e => .skipped e

/-- The form after a step. -/
def Effect.value (before : String) : Effect → String
  | .applied _ after => after
  | .skipped _ => before

/-- What becomes of each step of a rule. -/
def effects (value : String) : List Substitution → List TransformTrace
  | [] => []
  | t :: rest =>
    let effect := effect E t value
    ⟨t, effect⟩ :: effects (effect.value value) rest

/-- The form behind a row of steps. -/
def finalValue (value : String) (steps : List TransformTrace) : String :=
  steps.foldl (fun value step => step.effect.value value) value

def traceRule (r : Rule) (w : Word) (classed : Bool) (value : String) : RuleTrace :=
  let outcome := outcome E r w classed value
  ⟨r.id, r.content.name, outcome, if outcome.applied then effects E value r.content.transforms
    else []⟩

/-! ### What was skipped -/

def RuleTrace.gateDiagnostic? (t : RuleTrace) : Option Diagnostic :=
  match t.outcome with
  | .gateFailed _ e => some ⟨t.rule, t.name, .gate, e⟩
  | _ => none

def RuleTrace.stepDiagnostic? (t : RuleTrace) (step : TransformTrace) (place : Nat) :
    Option Diagnostic :=
  match step.effect with
  | .skipped e => some ⟨t.rule, t.name, .transform place, e⟩
  | .applied .. => none

def RuleTrace.diagnostics (t : RuleTrace) : List Diagnostic :=
  t.gateDiagnostic?.toList ++ t.transforms.zipIdx.filterMap fun (step, place) =>
    t.stepDiagnostic? step place

/-! ### All rules of a form -/

/-- No rule has been met yet. The record may tell of other words. -/
def start (value : String) (record : List RuleTrace) : Declension := ⟨value, [], record⟩

def step (w : Word) (classed : Bool) (d : Declension) (r : Rule) : Declension :=
  let t := traceRule E r w classed d.value
  ⟨finalValue d.value t.transforms, d.diagnostics ++ t.diagnostics, d.trace ++ [t]⟩

/-- Takes a word through rules, and goes on with a record. -/
def fold (w : Word) (classed : Bool) (record : List RuleTrace) (rules : List Rule) : Declension :=
  rules.foldl (step E w classed) (start w.value record)

end Declension

/-- A word that can be formed is in the lexicon, and its part of speech is declared. -/
def Lexicon.declinable (l : Lexicon) (word : Id) : Except Declension.Fault Word :=
  match l.word? word with
  | none => .error (.missingWord word)
  | some w =>
    if l.declaresPartOfSpeech w.type then .ok w else .error (.unknownPartOfSpeech word w.type)

/-- A form of a word, with what happens at each rule behind what a record tells already. -/
def RuleSet.declineTraced (E : Pattern.Engine) (s : RuleSet) (l : Lexicon) (word : Id)
    (c : Combination) (record : List Declension.RuleTrace) :
    Except Declension.Fault Declension := do
  let w ← l.declinable word
  .ok (Declension.fold E w (!(l.classesFor w.type).isEmpty) record (s.rulesFor w.type c))

/-- A form of a word. Without rules it is the word itself. -/
def RuleSet.decline (E : Pattern.Engine) (s : RuleSet) (l : Lexicon) (word : Id) (c : Combination) :
    Except Declension.Fault Declension := s.declineTraced E l word c []

end Conlang
