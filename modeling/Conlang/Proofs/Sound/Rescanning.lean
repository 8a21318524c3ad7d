import Conlang.Proofs.Declension.Replay
import Conlang.Proofs.Sound.Cleaning

/-! Passes over all sound rules.

A pass puts a word through all rules, and is a function of the word alone (`passOver`), whatever has
been reported. Going through the rules again and again is going through the iterates of this
function, up to the first that it leaves as it is or up to the last that is allowed
(`rescan_rescanned`). All the rest of a transformation is a fold over the rules
(`outline_transform`), and a single pass where nothing starts more of them
(`foldl_advance_of_quiet`). -/
namespace Conlang.Phonology
open Declension (rewrite)

def Diagnostic.isLimit : Diagnostic → Bool
  | .stillChanging .. => true
  | _ => false

namespace Progress

/-- The reports of passes that have been used up. -/
def limits (q : Progress) : List Diagnostic := q.diagnostics.filter (·.isLimit)

/-- The word with these reports only. -/
def outline (q : Progress) : Progress := ⟨q.value, q.limits⟩

@[simp] theorem value_outline (q : Progress) : q.outline.value = q.value := rfl

@[simp] theorem limits_outline (q : Progress) : q.outline.diagnostics = q.limits := rfl

theorem outline_outline (q : Progress) : q.outline.outline = q.outline := by
  have twice : q.outline.limits = q.limits := by simp [limits, List.filter_filter]
  exact congrArg (mk q.value) twice

end Progress

/-- What becomes of a word in at most `cap` passes. -/
structure Rescanned (pass : String → String) (cap : Nat) (word : String) (q q' : Progress) :
    Prop where
  stable : ∀ k < cap, pass^[k + 1] q.value = pass^[k] q.value →
    (∀ j < k, pass^[j + 1] q.value ≠ pass^[j] q.value) → q'.value = pass^[k] q.value ∧
    q'.limits = q.limits
  limited : (∀ k < cap, pass^[k + 1] q.value ≠ pass^[k] q.value) →
    q'.value = pass^[cap] q.value ∧ q'.limits = q.limits ++ [.stillChanging word cap]
  fixed : q'.limits = q.limits → pass q'.value = q'.value

section
variable (E : Pattern.Engine) (p : Phonology)

/-- Puts a word through all rules in order; one that is blank or fails leaves it as it is. -/
def passOver (value : String) : String := p.rules.foldl (rewrite E) value

/-- Applies one rule, and goes over all of them when it has changed the word and looks around, and
recursion is on. -/
def advance (word : String) (cap : Nat) (q : Progress) (r : Substitution) : Progress :=
  let value := rewrite E q.value r
  if value ≠ q.value ∧ p.recursion ∧ r.pattern.looksAround then
    (p.rescan E word cap cap ⟨value, q.diagnostics⟩).outline
  else ⟨value, q.diagnostics⟩

end

/-! ### Rules and passes -/

section
variable {E : Pattern.Engine} {p : Phonology}

theorem Progress.outline_fail (q : Progress) (place : Nat) (e : Pattern.Error) :
    (q.fail place e).outline = q.outline := by
  rw [fail]
  split
  · rfl
  · rw [outline, outline, limits, limits, List.filter_append]
    exact congrArg _ (List.append_nil _)

theorem outline_applyRule (q : Progress) (r : Substitution) (place : Nat) :
    (applyRule E q r place).outline = ⟨rewrite E q.value r, q.limits⟩ := by
  rw [applyRule_eq, rewrite]
  cases r.apply E q.value with
  | ok value => rfl
  | error e => exact q.outline_fail place e

/-- The places of rules count for reports only. -/
theorem foldl_outline {f : Progress → Substitution → Nat → Progress}
    {g : Progress → Substitution → Progress}
    (each : ∀ q r place, (f q r place).outline = g q.outline r) (rules : List Substitution)
    (place : Nat) (q : Progress) :
    ((rules.zipIdx place).foldl (fun q (r, place) => f q r place) q).outline =
      rules.foldl g q.outline := by
  induction rules generalizing place q with
  | nil => rfl
  | cons r rest ih =>
    rw [List.zipIdx_cons, List.foldl_cons, List.foldl_cons, ih, each]

theorem foldl_value (rules : List Substitution) (q : Progress) :
    rules.foldl (fun q r => { q with value := rewrite E q.value r }) q =
      { q with value := rules.foldl (rewrite E) q.value } := by
  induction rules generalizing q with
  | nil => rfl
  | cons r rest ih => rw [List.foldl_cons, List.foldl_cons, ih]

theorem outline_pass (q : Progress) :
    (p.pass E q).outline = { q.outline with value := p.passOver E q.value } :=
  (foldl_outline outline_applyRule p.rules 0 q).trans (foldl_value p.rules q.outline)

theorem value_pass (q : Progress) : (p.pass E q).value = p.passOver E q.value :=
  congrArg (·.value) (outline_pass q)

theorem limits_pass (q : Progress) : (p.pass E q).limits = q.limits :=
  congrArg (·.diagnostics) (outline_pass q)

/-! ### Passes until nothing changes -/

theorem rescan_stable {word : String} {cap k left : Nat} {q : Progress} (within : k < left)
    (stable : (p.passOver E)^[k + 1] q.value = (p.passOver E)^[k] q.value)
    (first : ∀ j < k, (p.passOver E)^[j + 1] q.value ≠ (p.passOver E)^[j] q.value) :
    (p.rescan E word cap left q).value = (p.passOver E)^[k] q.value ∧
      (p.rescan E word cap left q).limits = q.limits := by
  induction k generalizing left q with
  | zero =>
    obtain ⟨left, rfl⟩ := Nat.exists_eq_add_one_of_ne_zero (Nat.ne_zero_of_lt within)
    have same : (p.pass E q).value = q.value := (value_pass q).trans stable
    rw [rescan, if_pos same]
    exact ⟨same, limits_pass q⟩
  | succ k ih =>
    obtain ⟨left, rfl⟩ := Nat.exists_eq_add_one_of_ne_zero (Nat.ne_zero_of_lt within)
    have changed : (p.pass E q).value ≠ q.value := value_pass q ▸ first 0 (Nat.succ_pos k)
    -- With one pass done, its iterates are counted from the word that it has left.
    rw [rescan, if_neg changed, Function.iterate_succ_apply, ← limits_pass q, ← value_pass q]
    refine ih (Nat.lt_of_succ_lt_succ within) ?_ fun j hj => ?_
    · rw [value_pass]
      exact stable
    · rw [value_pass]
      exact first (j + 1) (Nat.succ_lt_succ hj)

theorem rescan_limited {word : String} {cap left : Nat} {q : Progress}
    (changing : ∀ k < left, (p.passOver E)^[k + 1] q.value ≠ (p.passOver E)^[k] q.value) :
    (p.rescan E word cap left q).value = (p.passOver E)^[left] q.value ∧
      (p.rescan E word cap left q).limits = q.limits ++ [.stillChanging word cap] := by
  induction left generalizing q with
  | zero => exact ⟨rfl, List.filter_append ..⟩
  | succ left ih =>
    have changed : (p.pass E q).value ≠ q.value := value_pass q ▸ changing 0 (Nat.succ_pos left)
    rw [rescan, if_neg changed, Function.iterate_succ_apply, ← limits_pass q, ← value_pass q]
    refine ih fun k hk => ?_
    rw [value_pass]
    exact changing (k + 1) (Nat.succ_lt_succ hk)

/-- Unless the passes have been used up, another one changes nothing. -/
theorem rescan_fixed {word : String} {cap left : Nat} {q : Progress}
    (unreported : (p.rescan E word cap left q).limits = q.limits) :
    p.passOver E (p.rescan E word cap left q).value = (p.rescan E word cap left q).value := by
  induction left generalizing q with
  | zero =>
    have reported : (p.rescan E word cap 0 q).limits = q.limits ++ [.stillChanging word cap] :=
      List.filter_append ..
    rw [reported] at unreported
    exact absurd unreported (by simp)
  | succ left ih =>
    rw [rescan] at unreported ⊢
    by_cases same : (p.pass E q).value = q.value
    · rw [if_pos same, same, ← value_pass, same]
    · rw [if_neg same] at unreported ⊢
      exact ih (unreported.trans (limits_pass q).symm)

theorem rescan_rescanned (word : String) (cap : Nat) (q : Progress) :
    Rescanned (p.passOver E) cap word q (p.rescan E word cap cap q) where
  stable _ within stable first := rescan_stable within stable first
  limited := rescan_limited
  fixed := rescan_fixed

/-! ### A word's way through the rules -/

theorem outline_rescan {word : String} {cap left : Nat} {q q' : Progress}
    (same : q'.outline = q.outline) :
    (p.rescan E word cap left q').outline = (p.rescan E word cap left q).outline := by
  induction left generalizing q q' with
  | zero =>
    have report (q : Progress) : (p.rescan E word cap 0 q).outline =
        ⟨q.value, q.limits ++ [.stillChanging word cap]⟩ :=
      congrArg (Progress.mk q.value) (List.filter_append ..)
    rw [report, report]
    exact congrArg (fun q : Progress =>
      (⟨q.value, q.diagnostics ++ [.stillChanging word cap]⟩ : Progress)) same
  | succ left ih =>
    have value : q'.value = q.value := congrArg (·.value) same
    have passed : (p.pass E q').outline = (p.pass E q).outline := by
      rw [outline_pass, outline_pass, same, value]
    rw [rescan, rescan, value_pass, value_pass, value]
    split
    · exact passed
    · exact ih passed

theorem outline_step (word : String) (cap : Nat) (q : Progress) (r : Substitution) (place : Nat) :
    (p.step E word cap q r place).outline = p.advance E word cap q.outline r := by
  have applied := outline_applyRule (E := E) q r place
  have value : (applyRule E q r place).value = rewrite E q.value r := congrArg (·.value) applied
  have again : (applyRule E q r place).outline =
      Progress.outline ⟨rewrite E q.value r, q.limits⟩ := by
    rw [← applied, Progress.outline_outline]
  rw [step, advance, Progress.value_outline, Progress.limits_outline]
  simp only [value, Bool.and_eq_true, bne_iff_ne, and_assoc]
  by_cases starts : rewrite E q.value r ≠ q.value ∧ p.recursion = true ∧
    r.pattern.looksAround = true
  · rw [if_pos starts, if_pos starts, outline_rescan again]
  · rw [if_neg starts, if_neg starts, applied]

theorem outline_transform (patterns : p.literal = false) (cap : Nat) (word : String) :
    (p.transform E cap word).outline = p.rules.foldl (p.advance E word cap) ⟨word, []⟩ := by
  rw [transform, if_neg (by simp [patterns])]
  exact foldl_outline (fun q r place => outline_step word cap q r place) p.rules 0 ⟨word, []⟩

/-- Rules that start nothing make up a single pass. -/
theorem foldl_advance_of_quiet {word : String} {cap : Nat} {rules : List Substitution}
    {q : Progress} (quiet : ∀ done r rest, rules = done ++ r :: rest → p.recursion = true →
      r.pattern.looksAround = true →
      rewrite E (done.foldl (rewrite E) q.value) r = done.foldl (rewrite E) q.value) :
    rules.foldl (p.advance E word cap) q = { q with value := rules.foldl (rewrite E) q.value } := by
  induction rules generalizing q with
  | nil => rfl
  | cons r rest ih =>
    have here : p.advance E word cap q r = { q with value := rewrite E q.value r } :=
      if_neg fun ⟨changed, on, looks⟩ => changed (quiet [] r rest rfl on looks)
    rw [List.foldl_cons, List.foldl_cons, here, ih]
    intro done t later eq
    exact quiet (r :: done) t later (congrArg _ eq)

end

/-- **Going over the rules again is a bounded iteration of passes.** Begun at a word, it ends at the
first of its iterates that a pass does not change, and reports nothing of passes; when none of the
allowed passes gets there, it ends at the last, and there is one more report, of the word that was
to be transformed. So without a report the outcome is not changed by a pass. A transformation
applies the rules one by one, and goes over them again right after each rule that looks around and
has changed the word, if recursion is on. Otherwise, or if there is no such rule, it is one pass. -/
theorem rescanning_iterates_passes (E : Pattern.Engine) (p : Phonology)
    (patterns : p.literal = false) (word : String) (cap : Nat) :
    (∀ q, Rescanned (p.passOver E) cap word q (p.rescan E word cap cap q)) ∧
      (p.transform E cap word).outline = p.rules.foldl (p.advance E word cap) ⟨word, []⟩ ∧
      ((p.recursion = false ∨
        ∀ done r rest, p.rules = done ++ r :: rest → r.pattern.looksAround = true →
          rewrite E (done.foldl (rewrite E) word) r = done.foldl (rewrite E) word) →
        (p.transform E cap word).outline = ⟨p.passOver E word, []⟩) := by
  have way := outline_transform (E := E) patterns cap word
  refine ⟨rescan_rescanned word cap, way, fun quiet => way.trans (foldl_advance_of_quiet ?_)⟩
  intro done r rest eq on looks
  rcases quiet with off | quiet
  · cases off.symm.trans on
  · exact quiet done r rest eq looks

/-- Three more passes after the first, and the word still grows. -/
theorem rescanning_iterates_passes_ab :
    let E := Settings.standard.engine
    let p : Phonology := { rules := [.ofTexts "a(?=b)" "ab", .ofTexts "c" "a"], recursion := true }
    p.literal = false ∧ (p.transform E 3 "ab").outline = ⟨"abbbbb", [.stillChanging "ab" 3]⟩ ∧
      (p.transform E 3 "cb").outline = ⟨"ab", []⟩ ∧
      ({ p with recursion := false }.transform E 3 "ab").outline = ⟨"abb", []⟩ := by
  intro E p
  have grows := (rescanning_iterates_passes E p rfl "ab" 3).2.1
  have quiet := (rescanning_iterates_passes E p rfl "cb" 3).2.1
  have once :=
    (rescanning_iterates_passes E { p with recursion := false } rfl "ab" 3).2.2 (.inl rfl)
  exact ⟨rfl, grows.trans (by decide +kernel), quiet.trans (by decide +kernel),
    once.trans (by decide +kernel)⟩

end Conlang.Phonology
