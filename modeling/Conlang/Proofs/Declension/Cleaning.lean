import Conlang.Proofs.Declension.Replay
import Conlang.Proofs.Pattern.Usable
import Conlang.Proofs.RuleSet.Arrangement

/-! Rules that can not be used are as good as deleted.

`RuleSet.cleaned` leaves out the rules whose gates can not be used, and of the other rules the steps
that can not. Both fail in the same way on every form, so they never change one: at each rule the
cleaned row of rules finds the form that the whole row finds (`foldl_rewriteBy_cleaned`). It tells
the same, less the failures that lie in what is written (`reports_cleaned`). -/
namespace Conlang

variable (E : Pattern.Engine)

/-- The gate is blank or compiles. -/
def Rule.isGateUsable (r : Rule) : Bool := r.content.gate.isEmpty || r.content.gate.isLegal E

/-- The rule without the steps that can not be used. -/
def Rule.cleaned (r : Rule) : Rule :=
  r.adopt { r.content with transforms := r.content.transforms.filter (·.isUsable E) }

/-- Without the rules, and in rules without the steps, that can not be used. -/
def RuleSet.cleaned (s : RuleSet) : RuleSet :=
  { s with rules := (s.rules.filter (·.isGateUsable E)).map (·.cleaned E) }

namespace Declension

/-- The place of a step among those that can be used. -/
def Location.among (ts : List Substitution) : Location → Location
  | .gate => .gate
  | .transform place => .transform ((ts.take place).countP (·.isUsable E))

/-- A failure as it stands in the cleaned rule, unless it lies in what is written. -/
def Diagnostic.kept? (ts : List Substitution) (d : Diagnostic) : Option Diagnostic :=
  if d.error.isWritten then none else some { d with location := d.location.among E ts }

/-- What is reported is how the gate or a step of the rule failed. -/
def Diagnostic.IsOf (d : Diagnostic) (r : Rule) : Prop :=
  d.rule = r.id ∧
    match d.location with
    | .gate => r.content.gate.source ≠ "" ∧ ∃ value, r.content.gate.test E value = .error d.error
    | .transform place =>
      ∃ t, r.content.transforms[place]? = some t ∧ ∃ value, t.apply E value = .error d.error

/-- What a trace tells of rules after they have been cleaned. -/
def keptReports (rules : List Rule) (told : List RuleTrace) : List Diagnostic :=
  (rules.zip told).flatMap fun (r, t) => t.diagnostics.filterMap (·.kept? E r.content.transforms)

variable {E}

/-! ### Where failures come from -/

theorem StepsTell.failed {value : String} {ts : List Substitution} {told : List TransformTrace}
    {t : RuleTrace} {place : Nat} {d : Diagnostic} (h : StepsTell E value ts told)
    (reported : d ∈ stepReports t place told) :
    d.rule = t.rule ∧ ∃ i step, d.location = .transform (place + i) ∧ ts[i]? = some step ∧
      ∃ value, step.apply E value = .error d.error := by
  induction h generalizing place with
  | nil => cases reported
  | applied result rest ih =>
    obtain ⟨rule, i, step, location, found, failed⟩ := ih reported
    exact ⟨rule, i + 1, step, by rw [location]; congr 1; omega, found, failed⟩
  | skipped result rest ih =>
    rcases List.mem_cons.mp reported with rfl | later
    · exact ⟨rfl, 0, _, rfl, rfl, _, result⟩
    · obtain ⟨rule, i, step, location, found, failed⟩ := ih later
      exact ⟨rule, i + 1, step, by rw [location]; congr 1; omega, found, failed⟩

theorem RuleTells.failed {w : Word} {classed : Bool} {value : String} {r : Rule} {t : RuleTrace}
    {d : Diagnostic} (h : RuleTells E w classed value r t) (reported : d ∈ t.reports) :
    d.IsOf E r := by
  cases h with
  | classMismatch => cases reported
  | gateMismatch => cases reported
  | gateFailed other gated result =>
    obtain rfl := List.mem_singleton.mp reported
    exact ⟨rfl, gated, value, result⟩
  | gateMatched other opens steps =>
    obtain ⟨rule, i, step, location, found, failed⟩ :=
      steps.failed (reported : d ∈ stepReports _ 0 _)
    rw [Diagnostic.IsOf, location]
    exact ⟨rule, step, by rwa [Nat.zero_add], failed⟩

theorem RulesTell.failed {w : Word} {classed : Bool} {value : String} {rules : List Rule}
    {told : List RuleTrace} {d : Diagnostic} (h : RulesTell E w classed value rules told)
    (reported : d ∈ told.flatMap RuleTrace.reports) :
    ∃ r ∈ rules, d.IsOf E r := by
  induction h with
  | nil => cases reported
  | cons first rest ih =>
    rw [List.flatMap_cons, List.mem_append] at reported
    rcases reported with here | later
    · exact ⟨_, List.mem_cons_self, first.failed here⟩
    · obtain ⟨r, member, failed⟩ := ih later
      exact ⟨r, List.mem_cons_of_mem _ member, failed⟩

/-! ### Steps -/

theorem rewrite_of_not_isUsable {t : Substitution} (h : t.isUsable E = false) (value : String) :
    rewrite E value t = value := by
  obtain ⟨e, -, fails⟩ := Substitution.apply_of_not_isUsable h
  rw [rewrite, fails]

theorem foldl_rewrite_filter (ts : List Substitution) (value : String) :
    (ts.filter (·.isUsable E)).foldl (rewrite E) value = ts.foldl (rewrite E) value := by
  induction ts generalizing value with
  | nil => rfl
  | cons t rest ih =>
    rw [List.filter_cons]
    cases usable : t.isUsable E with
    | true => exact ih (rewrite E value t)
    | false => rw [List.foldl_cons, rewrite_of_not_isUsable usable]; exact ih value

/-- The steps behind those that are `done` fail as they do among all steps, with their places
counted anew. -/
theorem stepReports_filter {t t' : RuleTrace} (rule : t'.rule = t.rule) (name : t'.name = t.name)
    (value : String) (done rest : List Substitution) :
    stepReports t' (done.countP (·.isUsable E)) (effects E value (rest.filter (·.isUsable E))) =
      (stepReports t done.length (effects E value rest)).filterMap (·.kept? E (done ++ rest)) := by
  induction rest generalizing value done with
  | nil => rfl
  | cons step rest ih =>
    have later (value : String) := ih value (done ++ [step])
    simp only [List.countP_append, List.length_append, List.countP_singleton, List.length_singleton,
      List.append_assoc, List.singleton_append] at later
    rw [List.filter_cons, effects, effect]
    cases result : step.apply E value with
    | ok after =>
      have usable : step.isUsable E = true := by
        by_contra unusable
        obtain ⟨e, -, fails⟩ := Substitution.apply_of_not_isUsable (Bool.eq_false_iff.mpr unusable)
        cases result.symm.trans (fails value)
      simp only [usable, if_true, effects, effect, result, stepReports, Effect.value] at later ⊢
      exact later after
    | error e =>
      have written := Substitution.isWritten_eq_of_apply result
      cases usable : step.isUsable E with
      | true =>
        simp only [usable, if_true, effects, effect, result, stepReports, Effect.value] at later ⊢
        rw [List.filterMap_cons, later value]
        simp [Diagnostic.kept?, Location.among, written, usable, rule, name]
      | false =>
        simp only [usable, Bool.false_eq_true, if_false, Nat.add_zero, stepReports, Effect.value]
          at later ⊢
        rw [List.filterMap_cons, later value]
        simp [Diagnostic.kept?, written, usable]

/-! ### Rules -/

section
variable {w : Word} {classed : Bool}

/-- A gate that does not compile keeps a rule from applying, and its failure lies in what is
written. -/
theorem tells_of_not_isGateUsable {r : Rule} (h : r.isGateUsable E = false) (w : Word)
    (classed : Bool) (value : String) :
    rewriteBy E w classed value r = value ∧
      (traceRule E r w classed value).diagnostics.filterMap (·.kept? E r.content.transforms) =
        [] := by
  obtain ⟨gated, illegal⟩ := Bool.or_eq_false_iff.mp h
  obtain ⟨e, written, fails⟩ := Pattern.test_of_not_isLegal illegal
  have source : r.content.gate.source ≠ "" := fun blank => by
    rw [Pattern.isEmpty, blank] at gated
    cases gated
  have told : RuleTells E w classed value r (traceRule E r w classed value) :=
    ruleTells_traceRule r value
  rw [told.rewriteBy_eq, ← reports_eq_diagnostics]
  generalize traceRule E r w classed value = t at told
  cases told with
  | classMismatch other => exact ⟨rfl, rfl⟩
  | gateMismatch other gated' result => cases (fails value).symm.trans result
  | gateFailed other gated' result =>
    obtain rfl := Except.error.inj ((fails value).symm.trans result)
    exact ⟨rfl, by simp [RuleTrace.reports, stepReports, Diagnostic.kept?, written]⟩
  | gateMatched other opens steps =>
    rcases opens with blank | result
    · exact absurd blank source
    · cases (fails value).symm.trans result

theorem outcome_cleaned (r : Rule) (value : String) :
    outcome E (r.cleaned E) w classed value = outcome E r w classed value := rfl

theorem rewriteBy_cleaned (r : Rule) (value : String) :
    rewriteBy E w classed value (r.cleaned E) = rewriteBy E w classed value r := by
  have steps := foldl_rewrite_filter (E := E) r.content.transforms value
  rw [rewriteBy, rewriteBy, ← steps]
  rfl

/-- A rule whose gate can be used tells the same without the steps that can not. -/
theorem diagnostics_cleaned {r : Rule} (h : r.isGateUsable E = true) (value : String) :
    (traceRule E (r.cleaned E) w classed value).diagnostics =
      (traceRule E r w classed value).diagnostics.filterMap (·.kept? E r.content.transforms) := by
  have told : RuleTells E w classed value r (traceRule E r w classed value) :=
    ruleTells_traceRule r value
  rw [← reports_eq_diagnostics, ← reports_eq_diagnostics, traceRule, outcome_cleaned]
  rw [traceRule] at told ⊢
  cases result : outcome E r w classed value with
  | classMismatch => rfl
  | gateMismatch => rfl
  | gateMatched =>
    simp only [RuleTrace.reports, Outcome.applied, if_true]
    exact stepReports_filter (by rfl) (by rfl) value [] r.content.transforms
  | gateFailed gate e =>
    rw [result] at told
    cases told with
    | gateFailed other gated failed =>
      have legal : r.content.gate.isLegal E = true :=
        (Bool.or_eq_true_iff.mp h).resolve_left fun blank => gated (String.isEmpty_iff.mp blank)
      have searched :=
        Pattern.Error.isWritten_of_isRuntime (Pattern.isRuntime_of_isLegal legal failed)
      simp [RuleTrace.reports, Outcome.applied, stepReports, Diagnostic.kept?, Location.among,
        searched, Rule.cleaned, Rule.adopt]

/-! ### All rules of a form -/

theorem foldl_rewriteBy_cleaned (rules : List Rule) (value : String) :
    ((rules.filter (·.isGateUsable E)).map (·.cleaned E)).foldl (rewriteBy E w classed) value =
      rules.foldl (rewriteBy E w classed) value := by
  induction rules generalizing value with
  | nil => rfl
  | cons r rest ih =>
    rw [List.filter_cons, List.foldl_cons]
    cases usable : r.isGateUsable E with
    | true => rw [if_pos rfl, List.map_cons, List.foldl_cons, rewriteBy_cleaned, ih]
    | false => rw [(tells_of_not_isGateUsable usable w classed value).1]; exact ih value

/-- Cleaned rules fail only where a search is given up. -/
theorem isRuntime_of_cleaned {rules : List Rule} {r : Rule} {d : Diagnostic}
    (h : r ∈ (rules.filter (·.isGateUsable E)).map (·.cleaned E)) (failed : d.IsOf E r) :
    d.error.isRuntime = true := by
  obtain ⟨r', member, rfl⟩ := List.mem_map.mp h
  obtain ⟨-, failed⟩ := failed
  have gate : r'.isGateUsable E = true := (List.mem_filter.mp member).2
  cases location : d.location with
  | gate =>
    rw [location] at failed
    obtain ⟨gated, value, failed⟩ := failed
    have legal :=
      (Bool.or_eq_true_iff.mp gate).resolve_left fun blank => gated (String.isEmpty_iff.mp blank)
    exact Pattern.isRuntime_of_isLegal legal failed
  | transform place =>
    rw [location] at failed
    obtain ⟨t, found, value, failed⟩ := failed
    have usable : t.isUsable E = true := (List.mem_filter.mp (List.mem_of_getElem? found)).2
    exact Substitution.isRuntime_of_isUsable usable failed

theorem keptReports_cons (r : Rule) (rest : List Rule) (t : RuleTrace) (told : List RuleTrace) :
    keptReports E (r :: rest) (t :: told) =
      t.diagnostics.filterMap (·.kept? E r.content.transforms) ++ keptReports E rest told := rfl

/-- Cleaned rules find the forms that the rules find, so they tell the same of them. -/
theorem reports_cleaned (rules : List Rule) (value : String) :
    (tell E w classed value ((rules.filter (·.isGateUsable E)).map (·.cleaned E))).flatMap
      RuleTrace.diagnostics =
      keptReports E rules (tell E w classed value rules) := by
  induction rules generalizing value with
  | nil => rfl
  | cons r rest ih =>
    have after : lastForm value (stepChanges (traceRule E r w classed value).transforms) =
        rewriteBy E w classed value r := (ruleTells_traceRule r value).rewriteBy_eq.symm
    rw [List.filter_cons, tell, after, keptReports_cons]
    cases usable : r.isGateUsable E with
    | true =>
      have after' :
        lastForm value (stepChanges (traceRule E (r.cleaned E) w classed value).transforms) =
          rewriteBy E w classed value (r.cleaned E) :=
            (ruleTells_traceRule _ value).rewriteBy_eq.symm
      rw [if_pos rfl, List.map_cons, tell, after', rewriteBy_cleaned, List.flatMap_cons, ih,
        diagnostics_cleaned usable]
    | false =>
      obtain ⟨still, nothing⟩ := tells_of_not_isGateUsable usable w classed value
      rw [still, nothing]
      exact ih value

end

end Declension

/-! ### The rules of a language -/

theorem RuleSet.rulesFor_cleaned (s : RuleSet) (type : Id) (c : Combination) :
    (s.cleaned E).rulesFor type c =
      ((s.rulesFor type c).filter (·.isGateUsable E)).map (·.cleaned E) := by
  have ofForm : (s.cleaned E).bucket type c =
      ((s.bucket type c).filter (·.isGateUsable E)).map (·.cleaned E) := by
    rw [bucket_eq, bucket_eq, cleaned, List.filter_map, List.filter_filter, List.filter_filter]
    refine congrArg _ (List.filter_congr fun r _ => Bool.and_comm ..)
  have sameOrder (r t : Rule) : byIndex (r.cleaned E) (t.cleaned E) = byIndex r t := rfl
  rw [rulesFor_eq_sortBy, rulesFor_eq_sortBy, ofForm, sortBy_map sameOrder,
    filter_sortBy byIndex_ranking]

theorem Lexicon.word?_of_declinable {l : Lexicon} {word : Id} {w : Word}
    (h : l.declinable word = .ok w) :
    l.word? word = some w := by
  rw [declinable] at h
  cases found : l.word? word with
  | none => simp [found] at h
  | some w' =>
    simp only [found] at h
    split at h
    · exact congrArg some (Except.ok.inj h)
    · cases h

open Declension

/-- **Patterns at fault are as good as their absence.** A word that can not be formed can not be
formed with the cleaned rules either. Any other word gets the same form by them, and what is
reported is what was reported before, less what lies in the patterns and replacements as written,
each place of a step counted among the steps that are left. So all that is reported then is that a
search was given up. -/
theorem RuleSet.decline_cleaned (s : RuleSet) (l : Lexicon) (word : Id) (c : Combination) :
    match s.decline E l word c with
    | .error fault => (s.cleaned E).decline E l word c = .error fault
    | .ok d =>
      ∃ w d', l.word? word = some w ∧ (s.cleaned E).decline E l word c = .ok d' ∧
      d'.value = d.value ∧
        d.diagnostics = d.trace.flatMap RuleTrace.diagnostics ∧
        d'.diagnostics = keptReports E (s.rulesFor w.type c) d.trace ∧
        ∀ x ∈ d'.diagnostics, x.error.isRuntime = true := by
  cases known : l.declinable word with
  | error fault => simp only [decline, declineTraced_error known]
  | ok w =>
    let classed := l.classes.values.any (·.appliesToType w.type)
    have formed : s.decline E l word c = .ok (fold E w classed [] (s.rulesFor w.type c)) := by
      rw [decline, declineTraced_ok known]
    have formed' : (s.cleaned E).decline E l word c =
        .ok (fold E w classed [] ((s.cleaned E).rulesFor w.type c)) := by
      rw [decline, declineTraced_ok known]
    rw [formed]
    simp only
    have replays := replays_fold E w classed ((s.cleaned E).rulesFor w.type c)
    refine ⟨w, _, Lexicon.word?_of_declinable known, formed', ?_, ?_, ?_, ?_⟩
    · rw [replays.value, (replays_fold E w classed _).value, s.rulesFor_cleaned,
        foldl_rewriteBy_cleaned]
    · rw [(replays_fold E w classed _).diagnostics]
      exact List.flatMap_congr fun t _ => reports_eq_diagnostics t
    · rw [replays.diagnostics, List.flatMap_congr fun t _ => reports_eq_diagnostics t]
      simp only [fold, foldl_step, start, List.nil_append, s.rulesFor_cleaned]
      exact reports_cleaned _ _
    · intro x reported
      rw [replays.diagnostics] at reported
      obtain ⟨r, member, failed⟩ := replays.honest.failed reported
      rw [s.rulesFor_cleaned] at member
      exact isRuntime_of_cleaned member failed

end Conlang
