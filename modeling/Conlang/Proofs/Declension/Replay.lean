import Conlang.Language

/-! A word's form, and the trace that leads to it.

Two accounts of forming a word stand beside `decline`. `rewriteBy` is the shortest: a rule either
leaves the form as it is or puts it through its steps. `RulesTell` says what an honest trace of the
rules is, entry by entry: each entry judges its rule by the form that the entries before it have
left. `decline_replays` says that `decline` gives the form of the first and a trace that the second
accepts. -/
namespace Conlang.Declension

variable (E : Pattern.Engine) (w : Word) (classed : Bool)

/-! ### The form alone -/

def rewrite (value : String) (t : Substitution) : String :=
  match t.apply E value with
  | .ok after => after
  | .error _ => value

/-- The word has a class value that a condition forbids, or lacks one that a condition requires. -/
def ofOtherClass (r : Rule) : Bool :=
  r.content.conditions.any fun c => w.hasClassValue c.wordClass c.value == c.negated

def rewriteBy (value : String) (r : Rule) : String :=
  if classed && ofOtherClass w r then value
  else if r.content.gate.source = "" then r.content.transforms.foldl (rewrite E) value
  else
    match r.content.gate.test E value with
    | .ok true => r.content.transforms.foldl (rewrite E) value
    | .ok false => value
    | .error _ => value

/-! ### Honest traces -/

/-- The form after changes, each told with the form before it and the form after it. -/
def lastForm : String → List (String × String) → String
  | base, [] => base
  | _, (_, after) :: rest => lastForm after rest

/-- Each change starts from the form that the one before it has left. -/
def Chained : String → List (String × String) → Prop
  | _, [] => True
  | value, (before, after) :: rest => before = value ∧ Chained after rest

def Effect.change? : Effect → Option (String × String)
  | .applied before after => some (before, after)
  | .skipped _ => none

/-- The form that a gate was tried on, where it is told. -/
def Outcome.seen? : Outcome → Option String
  | .classMismatch => none
  | .gateMatched value _ => some value
  | .gateMismatch value _ => some value
  | .gateFailed .. => none

def stepChanges (told : List TransformTrace) : List (String × String) :=
  told.filterMap (·.effect.change?)

/-- All changes that a trace tells of. -/
def changes (trace : List RuleTrace) : List (String × String) :=
  trace.flatMap fun t => stepChanges t.transforms

inductive StepsTell : String → List Substitution → List TransformTrace → Prop where
  | nil {value} : StepsTell value [] []
  | applied {value after t rest told} : t.apply E value = .ok after → StepsTell after rest told →
      StepsTell value (t :: rest) (⟨t, .applied value after⟩ :: told)
  | skipped {value e t rest told} : t.apply E value = .error e → StepsTell value rest told →
      StepsTell value (t :: rest) (⟨t, .skipped e⟩ :: told)

inductive RuleTells (value : String) (r : Rule) : RuleTrace → Prop where
  | classMismatch : (classed && ofOtherClass w r) = true →
      RuleTells value r ⟨r.id, r.content.name, .classMismatch, []⟩
  | gateMismatch : (classed && ofOtherClass w r) = false → r.content.gate.source ≠ "" →
      r.content.gate.test E value = .ok false →
      RuleTells value r ⟨r.id, r.content.name, .gateMismatch value r.content.gate.source, []⟩
  | gateFailed {e} : (classed && ofOtherClass w r) = false → r.content.gate.source ≠ "" →
      r.content.gate.test E value = .error e →
      RuleTells value r ⟨r.id, r.content.name, .gateFailed r.content.gate.source e, []⟩
  | gateMatched {told} : (classed && ofOtherClass w r) = false →
      r.content.gate.source = "" ∨ r.content.gate.test E value = .ok true →
      StepsTell E value r.content.transforms told →
      RuleTells value r ⟨r.id, r.content.name, .gateMatched value r.content.gate.source, told⟩

inductive RulesTell : String → List Rule → List RuleTrace → Prop where
  | nil {value} : RulesTell value [] []
  | cons {value r t rest told} : RuleTells E w classed value r t →
      RulesTell (lastForm value (stepChanges t.transforms)) rest told →
      RulesTell value (r :: rest) (t :: told)

/-- The failures of steps, each with its place. -/
def stepReports (t : RuleTrace) : Nat → List TransformTrace → List Diagnostic
  | _, [] => []
  | place, ⟨_, .applied ..⟩ :: rest => stepReports t (place + 1) rest
  | place, ⟨_, .skipped e⟩ :: rest =>
      ⟨t.rule, t.name, .transform place, e⟩ :: stepReports t (place + 1) rest

/-- The failures that an entry tells of. -/
def RuleTrace.reports (t : RuleTrace) : List Diagnostic :=
  match t.outcome with
  | .gateFailed _ e => ⟨t.rule, t.name, .gate, e⟩ :: stepReports t 0 t.transforms
  | _ => stepReports t 0 t.transforms

/-! ### Changes in a row -/

theorem lastForm_append (base : String) (a b : List (String × String)) :
    lastForm base (a ++ b) = lastForm (lastForm base a) b := by
  induction a generalizing base with
  | nil => rfl
  | cons change rest ih => exact ih change.2

theorem chained_append {base : String} {a b : List (String × String)} (ha : Chained base a)
    (hb : Chained (lastForm base a) b) : Chained base (a ++ b) := by
  induction a generalizing base with
  | nil => exact hb
  | cons change rest ih => exact ⟨ha.1, ih ha.2 hb⟩

/-! ### The steps of a rule -/

section
variable {E}

theorem stepsTell_effects (value : String) (ts : List Substitution) :
    StepsTell E value ts (effects E value ts) := by
  induction ts generalizing value with
  | nil => exact .nil
  | cons t rest ih =>
    rw [effects, effect]
    cases result : t.apply E value with
    | ok after => exact .applied result (ih after)
    | error e => exact .skipped result (ih value)

theorem StepsTell.finalValue_eq {value : String} {ts : List Substitution}
    {told : List TransformTrace} (h : StepsTell E value ts told) :
    finalValue value told = lastForm value (stepChanges told) := by
  induction h with
  | nil => rfl
  | applied result rest ih => exact ih
  | skipped result rest ih => exact ih

theorem StepsTell.foldl_rewrite {value : String} {ts : List Substitution}
    {told : List TransformTrace} (h : StepsTell E value ts told) :
    ts.foldl (rewrite E) value = lastForm value (stepChanges told) := by
  induction h with
  | nil => rfl
  | applied result rest ih =>
    simpa [rewrite, result, stepChanges, Effect.change?, lastForm] using ih
  | skipped result rest ih =>
    simpa [rewrite, result, stepChanges, Effect.change?, lastForm] using ih

theorem StepsTell.chained {value : String} {ts : List Substitution} {told : List TransformTrace}
    (h : StepsTell E value ts told) : Chained value (stepChanges told) := by
  induction h with
  | nil => trivial
  | applied result rest ih => exact ⟨rfl, ih⟩
  | skipped result rest ih => exact ih

end

theorem stepReports_eq (t : RuleTrace) (place : Nat) (told : List TransformTrace) :
    stepReports t place told =
      (told.zipIdx place).filterMap fun (step, place) => t.stepDiagnostic? step place := by
  induction told generalizing place with
  | nil => rfl
  | cons step rest ih =>
    obtain ⟨transform, effect⟩ := step
    cases effect <;> simp [stepReports, ih, RuleTrace.stepDiagnostic?]

theorem reports_eq_diagnostics (t : RuleTrace) : t.reports = t.diagnostics := by
  rw [RuleTrace.diagnostics, ← stepReports_eq, RuleTrace.reports, RuleTrace.gateDiagnostic?]
  cases t.outcome <;> rfl

/-! ### One rule -/

section
variable {E w classed}

theorem ofOtherClass_eq (w : Word) (r : Rule) : ofOtherClass w r = !r.meetsConditions w := by
  rw [ofOtherClass, Rule.meetsConditions, List.not_all_eq_any_not]
  congr 1
  funext c
  rw [ClassCondition.holdsFor]
  cases w.hasClassValue c.wordClass c.value <;> cases c.negated <;> rfl

theorem ruleTells_traceRule (r : Rule) (value : String) :
    RuleTells E w classed value r (traceRule E r w classed value) := by
  rw [traceRule, outcome, ← ofOtherClass_eq]
  cases other : classed && ofOtherClass w r
  · by_cases empty : r.content.gate.source = ""
    · have isEmpty : r.content.gate.isEmpty = true := String.isEmpty_iff.mpr empty
      simp only [isEmpty, if_true, Bool.false_eq_true, if_false]
      exact .gateMatched other (.inl empty) (stepsTell_effects value _)
    · have isEmpty : r.content.gate.isEmpty = false :=
        Bool.eq_false_iff.mpr fun h => empty (String.isEmpty_iff.mp h)
      simp only [isEmpty, Bool.false_eq_true, if_false]
      cases result : r.content.gate.test E value with
      | ok matched =>
        cases matched
        · exact .gateMismatch other empty result
        · exact .gateMatched other (.inr result) (stepsTell_effects value _)
      | error e => exact .gateFailed other empty result
  · exact .classMismatch other

theorem RuleTells.rewriteBy_eq {value : String} {r : Rule} {t : RuleTrace}
    (h : RuleTells E w classed value r t) :
    rewriteBy E w classed value r = lastForm value (stepChanges t.transforms) := by
  cases h with
  | classMismatch other => rw [rewriteBy, if_pos other]; rfl
  | gateMismatch other gated result => simp [rewriteBy, other, gated, result, stepChanges, lastForm]
  | gateFailed other gated result => simp [rewriteBy, other, gated, result, stepChanges, lastForm]
  | gateMatched other opens steps =>
    have taken := steps.foldl_rewrite
    rcases opens with empty | result
    · simp [rewriteBy, other, empty, taken]
    · by_cases empty : r.content.gate.source = "" <;> simp [rewriteBy, other, empty, result, taken]

theorem RuleTells.finalValue_eq {value : String} {r : Rule} {t : RuleTrace}
    (h : RuleTells E w classed value r t) :
    finalValue value t.transforms = lastForm value (stepChanges t.transforms) := by
  cases h with
  | gateMatched other opens steps => exact steps.finalValue_eq
  | _ => rfl

theorem RuleTells.chained {value : String} {r : Rule} {t : RuleTrace}
    (h : RuleTells E w classed value r t) :
    Chained value (stepChanges t.transforms) := by
  cases h with
  | gateMatched other opens steps => exact steps.chained
  | _ => trivial

/-- A gate is tried on the form that the rule finds. -/
theorem RuleTells.seen {value v : String} {r : Rule} {t : RuleTrace}
    (h : RuleTells E w classed value r t) (seen : t.outcome.seen? = some v) : v = value := by
  cases h with
  | classMismatch => cases seen
  | gateFailed => cases seen
  | gateMismatch => exact (Option.some.inj seen).symm
  | gateMatched => exact (Option.some.inj seen).symm

theorem RuleTells.rule_eq {value : String} {r : Rule} {t : RuleTrace}
    (h : RuleTells E w classed value r t) :
    t.rule = r.id := by
  cases h <;> rfl

/-! ### All rules of a form -/

theorem changes_cons (t : RuleTrace) (told : List RuleTrace) :
    changes (t :: told) = stepChanges t.transforms ++ changes told := rfl

theorem RulesTell.rules_eq {value : String} {rules : List Rule} {told : List RuleTrace}
    (h : RulesTell E w classed value rules told) : told.map (·.rule) = rules.map (·.id) := by
  induction h with
  | nil => rfl
  | cons first rest ih => rw [List.map_cons, List.map_cons, ih, first.rule_eq]

theorem RulesTell.foldl_rewriteBy {value : String} {rules : List Rule} {told : List RuleTrace}
    (h : RulesTell E w classed value rules told) :
    rules.foldl (rewriteBy E w classed) value = lastForm value (changes told) := by
  induction h with
  | nil => rfl
  | cons first rest ih =>
    rw [List.foldl_cons, first.rewriteBy_eq, ih, changes_cons, lastForm_append]

theorem RulesTell.chained {value : String} {rules : List Rule} {told : List RuleTrace}
    (h : RulesTell E w classed value rules told) : Chained value (changes told) := by
  induction h with
  | nil => trivial
  | cons first rest ih => exact chained_append first.chained ih

theorem RulesTell.seen {value v : String} {rules : List Rule} {told earlier later : List RuleTrace}
    {t : RuleTrace} (h : RulesTell E w classed value rules told)
    (here : told = earlier ++ t :: later) (seen : t.outcome.seen? = some v) :
    v = lastForm value (changes earlier) := by
  induction h generalizing earlier with
  | nil => simp at here
  | cons first rest ih =>
    cases earlier with
    | nil =>
      obtain ⟨rfl, rfl⟩ := List.cons.inj here
      exact first.seen seen
    | cons t' earlier =>
      obtain ⟨rfl, later⟩ := List.cons.inj here
      rw [changes_cons, lastForm_append]
      exact ih later

end

/-- The entries that forming a word adds to a record. -/
def tell (value : String) : List Rule → List RuleTrace
  | [] => []
  | r :: rest =>
    let t := traceRule E r w classed value
    t :: tell (lastForm value (stepChanges t.transforms)) rest

theorem rulesTell_tell (value : String) (rules : List Rule) :
    RulesTell E w classed value rules (tell E w classed value rules) := by
  induction rules generalizing value with
  | nil => exact .nil
  | cons r rest ih => exact .cons (ruleTells_traceRule r value) (ih _)

theorem foldl_step (rules : List Rule) (d : Declension) :
    rules.foldl (step E w classed) d =
      ⟨rules.foldl (rewriteBy E w classed) d.value,
        d.diagnostics ++ (tell E w classed d.value rules).flatMap RuleTrace.reports,
        d.trace ++ tell E w classed d.value rules⟩ := by
  induction rules generalizing d with
  | nil => simp [tell]
  | cons r rest ih =>
    have told : RuleTells E w classed d.value r (traceRule E r w classed d.value) :=
      ruleTells_traceRule r d.value
    rw [List.foldl_cons, ih, step]
    simp only [told.finalValue_eq, told.rewriteBy_eq, List.foldl_cons, tell, List.flatMap_cons,
      reports_eq_diagnostics, List.append_assoc, List.singleton_append]

/-- What is to be said about a form and its trace. -/
structure Replays (rules : List Rule) (d : Declension) : Prop where
  value : d.value = rules.foldl (rewriteBy E w classed) w.value
  entries : d.trace.map (·.rule) = rules.map (·.id)
  honest : RulesTell E w classed w.value rules d.trace
  /-- A gate is tried on the form that the entries before it have left. -/
  gates : ∀ earlier t later v, d.trace = earlier ++ t :: later → t.outcome.seen? = some v →
    v = lastForm w.value (changes earlier)
  chained : Chained w.value (changes d.trace)
  result : d.value = lastForm w.value (changes d.trace)
  diagnostics : d.diagnostics = d.trace.flatMap RuleTrace.reports

theorem replays_fold (rules : List Rule) :
    Replays E w classed rules (fold E w classed [] rules) := by
  have told := rulesTell_tell E w classed w.value rules
  rw [fold, foldl_step]
  exact {
    value := rfl
    entries := told.rules_eq
    honest := told
    gates := fun earlier t later v here seen => told.seen here seen
    chained := told.chained
    result := told.foldl_rewriteBy
    diagnostics := rfl }

/-- A record that is there already stays in front and has no influence. -/
theorem fold_record (record : List RuleTrace) (rules : List Rule) :
    fold E w classed record rules =
      { fold E w classed [] rules with trace := record ++ (fold E w classed [] rules).trace } := by
  simp only [fold, foldl_step, start, List.nil_append]

end Conlang.Declension

namespace Conlang
open Declension

theorem Lexicon.classesFor_isEmpty (l : Lexicon) (type : Id) :
    (!(l.classesFor type).isEmpty) = l.classes.values.any (·.appliesToType type) := by
  rw [Bool.eq_iff_iff]
  simp [classesFor]

theorem Lexicon.declaresPartOfSpeech_eq (l : Lexicon) (type : Id) :
    l.declaresPartOfSpeech type = (l.partOfSpeech? type).isSome := by
  rw [declaresPartOfSpeech, partOfSpeech?, Std.ExtTreeMap.isSome_getElem?_eq_contains]

section
variable {E : Pattern.Engine} {s : RuleSet} {l : Lexicon} {word : Id} {c : Combination}
  {record : List RuleTrace}

theorem RuleSet.declineTraced_error {e : Declension.Fault} (h : l.declinable word = .error e) :
    s.declineTraced E l word c record = .error e := by
  rw [declineTraced, h]
  rfl

theorem RuleSet.declineTraced_ok {w : Word} (h : l.declinable word = .ok w) :
    s.declineTraced E l word c record =
      .ok (fold E w (l.classes.values.any (·.appliesToType w.type)) record
        (s.rulesFor w.type c)) := by
  rw [declineTraced, h, ← l.classesFor_isEmpty]
  rfl

end

/-- **Forming a word is the fold of its rules, and its trace tells how.** It fails when the word is
not in the lexicon, or else when its part of speech is not declared, and in no other case. Otherwise
the form is what the rules make of the word one after the other, and the trace replays it: one entry
for each rule in order, each gate tried on the form at that point, each change starting where the
last one ended, the last one ending at the form; and the diagnostics are the failures that the trace
tells of, in order. A trace that goes on with a record adds the same entries behind it, and an
explanation shows the same form, trace and diagnostics. -/
theorem RuleSet.decline_replays (E : Pattern.Engine) (s : RuleSet) (l : Lexicon) (word : Id)
    (c : Combination) (record : List RuleTrace) :
    match l.word? word with
    | none =>
      s.decline E l word c = .error (.missingWord word) ∧
        s.declineTraced E l word c record = .error (.missingWord word)
    | some w =>
      if l.partOfSpeech? w.type = none then
        s.decline E l word c = .error (.unknownPartOfSpeech word w.type) ∧
          s.declineTraced E l word c record = .error (.unknownPartOfSpeech word w.type)
      else
        ∃ d, s.decline E l word c = .ok d ∧
          Replays E w (l.classes.values.any (·.appliesToType w.type)) (s.rulesFor w.type c) d ∧
          s.declineTraced E l word c record = .ok { d with trace := record ++ d.trace } ∧
          ∀ language : Language, language.lexicon = l → language.rules = s →
            language.explain E word c =
              .ok ⟨word, w.value, c, s.label? w.type c, s.isSuppressed w.type c, d⟩ := by
  cases found : l.word? word with
  | none =>
    have missing : l.declinable word = .error (.missingWord word) := by
      simp only [Lexicon.declinable, found]
    exact ⟨by rw [decline, declineTraced_error missing], declineTraced_error missing⟩
  | some w =>
    by_cases declared : l.partOfSpeech? w.type = none
    · have unknown : l.declinable word = .error (.unknownPartOfSpeech word w.type) := by
        simp [Lexicon.declinable, found, l.declaresPartOfSpeech_eq, declared]
      simp only [if_pos declared]
      exact ⟨by rw [decline, declineTraced_error unknown], declineTraced_error unknown⟩
    · have known : l.declinable word = .ok w := by
        simp [Lexicon.declinable, found, l.declaresPartOfSpeech_eq, declared]
      simp only [if_neg declared]
      let classed := l.classes.values.any (·.appliesToType w.type)
      let rules := s.rulesFor w.type c
      have formed : s.decline E l word c = .ok (fold E w classed [] rules) := by
        rw [decline, declineTraced_ok known]
      refine ⟨fold E w classed [] rules, formed, replays_fold E w classed rules, ?_, ?_⟩
      · rw [declineTraced_ok known, fold_record]
      · intro language words rules
        subst words rules
        rw [Language.explain, Language.decline, formed, Language.lookUp, found]
        rfl

end Conlang
