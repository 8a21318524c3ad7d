import Conlang.Proofs.Pattern.Usable
import Conlang.Proofs.Sound.Composition
import Conlang.Settings

/-! Sound rules that can not be used are as good as deleted.

A rule that is blank or can not be used never changes a word, so it neither starts passes over all
rules nor keeps them going. Saying with the rules that are left goes in step with saying by all of
them (`Keeps`), and loses only what is reported of the others (`pronounce_cleaned`). Of a rule that
can not be used, each word has one report (`filter_concerns_sayWord`): every word comes to its
place, and a place is reported once. -/
namespace Conlang.Phonology
open Text

section
variable (E : Pattern.Engine) (p : Phonology)

/-- Without the rules that are blank or can not be used. -/
def cleaned : Phonology := { p with rules := p.rules.filter (·.isActive E) }

/-- The place of a rule among the active ones. -/
def activePlace (place : Nat) : Nat := (p.rules.take place).countP (·.isActive E)

def isActiveAt (place : Nat) : Bool := (p.rules[place]?).any (·.isActive E)

/-- A report as it stands among the active rules, unless its rule is none of them. -/
def Diagnostic.kept? : Diagnostic → Option Diagnostic
  | .skipped place e =>
      if p.isActiveAt E place then some (.skipped (p.activePlace E place) e) else none
  | .stillChanging word passes => some (.stillChanging word passes)
  | .noSyllables word transformed => some (.noSyllables word transformed)

def isSaid (passes : Nat) (separator word : String) : Bool :=
  (p.sayWord E passes separator word).1.isSome

/-- The words that are looked at: all of them, or those up to the first that can not be said. -/
def heard (passes : Nat) (separator text : String) : List String :=
  (words text).takeWhile (p.isSaid E passes separator)
    ++ ((words text).dropWhile (p.isSaid E passes separator)).take 1

/-- Two words on their way, one of them through the active rules alone. -/
structure Keeps (q q' : Progress) : Prop where
  value : q'.value = q.value
  diagnostics : q'.diagnostics = q.diagnostics.filterMap (·.kept? E p)

end

section
variable {E : Pattern.Engine} {p : Phonology}

/-! ### Places -/

theorem isActiveAt_eq {place : Nat} {r : Substitution} (here : p.rules[place]? = some r) :
    p.isActiveAt E place = r.isActive E := by
  rw [isActiveAt, here]
  rfl

theorem activePlace_lt {place later : Nat} (active : p.isActiveAt E place = true)
    (h : place < later) :
    p.activePlace E place < p.activePlace E later := by
  obtain ⟨r, here, active⟩ : ∃ r, p.rules[place]? = some r ∧ r.isActive E = true := by
    simpa [isActiveAt, Option.any_eq_true_iff_get, Option.eq_some_iff_get_eq] using active
  have next : (p.rules.take (place + 1)).countP (·.isActive E) = p.activePlace E place + 1 := by
    rw [List.take_add_one, here, List.countP_append]
    simp [activePlace, active]
  have sub : (p.rules.take (place + 1)).Sublist (p.rules.take later) :=
    List.take_sublist_take_left h
  have := sub.countP_le (p := (·.isActive E))
  rw [activePlace] at next ⊢
  rw [activePlace]
  omega

theorem activePlace_inj {place other : Nat} (active : p.isActiveAt E place = true)
    (active' : p.isActiveAt E other = true) (h : p.activePlace E place = p.activePlace E other) :
    place = other := by
  rcases Nat.lt_trichotomy place other with lt | same | gt
  · have := activePlace_lt active lt
    omega
  · exact same
  · have := activePlace_lt active' gt
    omega

/-- What is kept tells of an active rule what was told before. -/
theorem any_concerns_kept {place : Nat} (active : p.isActiveAt E place = true)
    (ds : List Diagnostic) :
    (ds.filterMap (·.kept? E p)).any (·.concerns (p.activePlace E place)) =
      ds.any (·.concerns place) := by
  induction ds with
  | nil => rfl
  | cons d rest ih =>
    cases d with
    | skipped other e =>
      rw [List.filterMap_cons, List.any_cons, ← ih]
      cases kept : p.isActiveAt E other with
      | true =>
        have same : (p.activePlace E other == p.activePlace E place) = (other == place) := by
          rw [Bool.eq_iff_iff, beq_iff_eq, beq_iff_eq]
          exact ⟨activePlace_inj kept active, congrArg _⟩
        simp [Diagnostic.kept?, Diagnostic.concerns, kept, same]
      | false =>
        have differ : (other == place) = false := by
          rw [beq_eq_false_iff_ne]
          rintro rfl
          cases active.symm.trans kept
        simp [Diagnostic.kept?, Diagnostic.concerns, kept, differ]
    | stillChanging word passes => simpa [Diagnostic.kept?, Diagnostic.concerns] using ih
    | noSyllables word transformed => simpa [Diagnostic.kept?, Diagnostic.concerns] using ih

/-! ### In step -/

theorem applyRule_eq (q : Progress) (r : Substitution) (place : Nat) :
    applyRule E q r place =
      match r.apply E q.value with
      | .ok value => { q with value }
      | .error e => q.fail place e := by
  rw [applyRule, Substitution.apply]
  cases r.pattern.isEmpty <;> rfl

theorem Progress.value_fail (q : Progress) (place : Nat) (e : Pattern.Error) :
    (q.fail place e).value = q.value := by
  rw [fail]
  split <;> rfl

theorem Keeps.fail {q q' : Progress} {place : Nat} (h : Keeps E p q q')
    (active : p.isActiveAt E place = true) (e : Pattern.Error) :
    Keeps E p (q.fail place e) (q'.fail (p.activePlace E place) e) := by
  rw [Progress.fail, Progress.fail, h.diagnostics, any_concerns_kept active]
  split
  · exact h
  · exact ⟨h.value, by simp [Diagnostic.kept?, active]⟩

theorem Keeps.fail_idle {q q' : Progress} {place : Nat} (h : Keeps E p q q')
    (idle : p.isActiveAt E place = false) (e : Pattern.Error) : Keeps E p (q.fail place e) q' := by
  rw [Progress.fail]
  split
  · exact h
  · exact ⟨h.value, by simp [h.diagnostics, Diagnostic.kept?, idle]⟩

theorem value_applyRule_of_idle {r : Substitution} (idle : r.isActive E = false) (q : Progress)
    (place : Nat) :
    (applyRule E q r place).value = q.value := by
  rw [applyRule_eq]
  cases blank : r.pattern.isEmpty with
  | true => rw [Substitution.apply, blank]; rfl
  | false =>
    obtain ⟨e, -, fails⟩ :=
      Substitution.apply_of_not_isUsable (Substitution.not_isUsable blank idle)
    rw [fails]
    exact q.value_fail place e

theorem Keeps.applyRule_idle {q q' : Progress} {r : Substitution} {place : Nat} (h : Keeps E p q q')
    (here : p.rules[place]? = some r) (idle : r.isActive E = false) :
    Keeps E p (applyRule E q r place) q' := by
  rw [applyRule_eq]
  cases result : r.apply E q.value with
  | ok value =>
    have same := value_applyRule_of_idle idle q place
    rw [applyRule_eq, result] at same
    exact ⟨h.value.trans same.symm, h.diagnostics⟩
  | error e => exact h.fail_idle ((isActiveAt_eq here).trans idle) e

theorem Keeps.applyRule {q q' : Progress} {r : Substitution} {place : Nat} (h : Keeps E p q q')
    (here : p.rules[place]? = some r) (active : r.isActive E = true) :
    Keeps E p (applyRule E q r place) (Phonology.applyRule E q' r (p.activePlace E place)) := by
  rw [applyRule_eq, applyRule_eq, h.value]
  cases r.apply E q.value with
  | ok value => exact ⟨rfl, h.diagnostics⟩
  | error e => exact h.fail ((isActiveAt_eq here).trans active) e

/-- A walk through all rules and one through the active rules stay in step when each of their moves
does. -/
theorem Keeps.foldl {f g : Progress → Substitution → Nat → Progress}
    (idle : ∀ {q q' r place}, Keeps E p q q' → p.rules[place]? = some r → r.isActive E = false →
      Keeps E p (f q r place) q')
    (active : ∀ {q q' r place}, Keeps E p q q' → p.rules[place]? = some r → r.isActive E = true →
      Keeps E p (f q r place) (g q' r (p.activePlace E place)))
    {q q' : Progress} (h : Keeps E p q q') :
    Keeps E p (p.rules.zipIdx.foldl (fun q (r, place) => f q r place) q)
      ((p.cleaned E).rules.zipIdx.foldl (fun q (r, place) => g q r place) q') := by
  -- The rules that are done give the place of the next one in both rows.
  suffices walk : ∀ (rest done : List Substitution) (q q' : Progress), p.rules = done ++ rest →
    Keeps E p q q' →
      Keeps E p ((rest.zipIdx done.length).foldl (fun q (r, place) => f q r place) q)
        (((rest.filter (·.isActive E)).zipIdx (done.countP (·.isActive E))).foldl
          (fun q (r, place) => g q r place) q') from walk p.rules [] q q' rfl h
  intro rest
  induction rest with
  | nil => exact fun _ _ _ _ h => h
  | cons r rest ih =>
    intro done q q' whole h
    have here : p.rules[done.length]? = some r := by simp [whole]
    have place : p.activePlace E done.length = done.countP (·.isActive E) := by
      simp [activePlace, whole]
    have later (q q' : Progress) := ih (done ++ [r]) q q' (by simp [whole])
    simp only [List.length_append, List.length_singleton, List.countP_append, List.countP_singleton]
      at later
    rw [List.filter_cons, List.zipIdx_cons, List.foldl_cons]
    cases kind : r.isActive E with
    | true =>
      rw [if_pos rfl, List.zipIdx_cons, List.foldl_cons]
      simp only [kind, if_true] at later
      exact later _ _ (place ▸ active h here kind)
    | false =>
      simp only [kind, Bool.false_eq_true, if_false, Nat.add_zero] at later ⊢
      exact later _ _ (idle h here kind)

theorem Keeps.pass {q q' : Progress} (h : Keeps E p q q') :
    Keeps E p (p.pass E q) ((p.cleaned E).pass E q') :=
  Keeps.foldl (fun h here idle => h.applyRule_idle here idle) (fun h here active =>
    h.applyRule here active) h

theorem Keeps.rescan {word : String} {passes left : Nat} {q q' : Progress} (h : Keeps E p q q') :
    Keeps E p (p.rescan E word passes left q) ((p.cleaned E).rescan E word passes left q') := by
  induction left generalizing q q' with
  | zero => exact ⟨h.value, by simp [Phonology.rescan, h.diagnostics, Diagnostic.kept?]⟩
  | succ left ih =>
    rw [Phonology.rescan, Phonology.rescan]
    simp only [h.value, h.pass.value]
    split
    · exact h.pass
    · exact ih h.pass

theorem Keeps.step_idle {word : String} {passes place : Nat} {q q' : Progress} {r : Substitution}
    (h : Keeps E p q q') (here : p.rules[place]? = some r) (idle : r.isActive E = false) :
    Keeps E p (p.step E word passes q r place) q' := by
  have still : (Phonology.applyRule E q r place).value = q.value :=
    value_applyRule_of_idle idle q place
  simpa [Phonology.step, still] using h.applyRule_idle here idle

theorem Keeps.step {word : String} {passes place : Nat} {q q' : Progress} {r : Substitution}
    (h : Keeps E p q q') (here : p.rules[place]? = some r) (active : r.isActive E = true) :
    Keeps E p (p.step E word passes q r place)
      ((p.cleaned E).step E word passes q' r (p.activePlace E place)) := by
  have next := h.applyRule here active
  rw [Phonology.step, Phonology.step]
  simp only [h.value, next.value]
  show Keeps E p _ (if (_ && p.recursion && _) = true then _ else _)
  split
  · exact next.rescan
  · exact next

theorem keeps_transform (patterns : p.literal = false) (passes : Nat) (word : String) :
    Keeps E p (p.transform E passes word) ((p.cleaned E).transform E passes word) := by
  have patterns' : (p.cleaned E).literal = false := patterns
  rw [transform, transform, patterns, patterns']
  exact Keeps.foldl (fun h here idle => h.step_idle here idle) (fun h here active =>
    h.step here active)
    ⟨rfl, rfl⟩

theorem sayWord_cleaned (patterns : p.literal = false) (passes : Nat) (separator word : String) :
    (p.cleaned E).sayWord E passes separator word =
      ((p.sayWord E passes separator word).1,
        (p.sayWord E passes separator word).2.filterMap (·.kept? E p)) := by
  have kept := keeps_transform (E := E) patterns passes word
  have composition : (p.cleaned E).composition = p.composition := rfl
  have syllables : (p.cleaned E).syllables = p.syllables := rfl
  rw [sayWord, sayWord, kept.value, kept.diagnostics, composition, syllables]
  cases p.composition with
  | false => rfl
  | true =>
    cases p.syllables.split (p.transform E passes word).value separator with
    | none => simp [Diagnostic.kept?]
    | some value => rfl

theorem sayRuns_cleaned (patterns : p.literal = false) (passes : Nat) (separator : String)
    (rs : List Run) :
    (p.cleaned E).sayRuns E passes separator rs =
      ((p.sayRuns E passes separator rs).1,
        (p.sayRuns E passes separator rs).2.filterMap (·.kept? E p)) := by
  induction rs with
  | nil => rfl
  | cons r rest ih =>
    have first : (p.cleaned E).sayRun E passes separator r =
        ((p.sayRun E passes separator r).1,
          (p.sayRun E passes separator r).2.filterMap (·.kept? E p)) := by
      rw [sayRun, sayRun, sayWord_cleaned patterns]
      cases r.blank <;> rfl
    rw [sayRuns_cons, sayRuns_cons, ih, first]
    obtain ⟨value, ds⟩ := p.sayRun E passes separator r
    cases value <;> simp [follow]

/-! ### One report for each word -/

variable (E p) in
/-- What holds of a word on its way goes on to hold, whichever rule is applied and whenever passes
end. -/
structure Lasts (P : Progress → Prop) : Prop where
  applyRule : ∀ {q r place}, p.rules[place]? = some r → P q → P (applyRule E q r place)
  stop : ∀ {q} (word : String) (passes : Nat), P q →
    P { q with diagnostics := q.diagnostics ++ [.stillChanging word passes] }

section
variable {P : Progress → Prop}

theorem Lasts.foldl {f : Progress → Substitution → Nat → Progress}
    (move : ∀ {q r place}, p.rules[place]? = some r → P q → P (f q r place))
    {rules : List (Substitution × Nat)} (placed : ∀ x ∈ rules, p.rules[x.2]? = some x.1)
    {q : Progress} (h : P q) :
    P (rules.foldl (fun q (r, place) => f q r place) q) := by
  induction rules generalizing q with
  | nil => exact h
  | cons x rest ih =>
    exact ih (fun y member =>
      placed y (List.mem_cons_of_mem _ member)) (move (placed x List.mem_cons_self) h)

theorem Lasts.pass (L : Lasts E p P) {q : Progress} (h : P q) : P (p.pass E q) :=
  Lasts.foldl L.applyRule (fun _ member => List.mem_zipIdx_iff_getElem?.mp member) h

theorem Lasts.rescan (L : Lasts E p P) {word : String} {passes left : Nat} {q : Progress}
    (h : P q) :
    P (p.rescan E word passes left q) := by
  induction left generalizing q with
  | zero => exact L.stop word passes h
  | succ left ih =>
    rw [Phonology.rescan]
    split
    · exact L.pass h
    · exact ih (L.pass h)

theorem Lasts.step (L : Lasts E p P) {word : String} {passes place : Nat} {q : Progress}
    {r : Substitution} (here : p.rules[place]? = some r) (h : P q) :
    P (p.step E word passes q r place) := by
  rw [Phonology.step]
  split
  · exact L.rescan (L.applyRule here h)
  · exact L.applyRule here h

end

def Progress.Reports (place : Nat) (q : Progress) : Prop :=
  q.diagnostics.any (·.concerns place) = true

theorem Progress.reports_fail (q : Progress) (place : Nat) (e : Pattern.Error) :
    (q.fail place e).Reports place := by
  rw [fail]
  split
  · assumption
  · simp [Reports, Diagnostic.concerns]

theorem Progress.Reports.fail {place : Nat} {q : Progress} (h : q.Reports place) (other : Nat)
    (e : Pattern.Error) :
    (q.fail other e).Reports place := by
  rw [Progress.fail]
  split
  · exact h
  · simp only [Reports, List.any_append, Bool.or_eq_true] at h ⊢
    exact .inl h

theorem lasts_reports (place : Nat) : Lasts E p (Progress.Reports place) where
  applyRule {q r other} _ h := by
    rw [applyRule_eq]
    cases r.apply E q.value with
    | ok value => exact h
    | error e => exact h.fail other e
  stop word passes h := by
    simp only [Progress.Reports, List.any_append, Bool.or_eq_true] at h ⊢
    exact .inl h

/-- Of each place there is one report at most, and it tells how the rule at that place failed. -/
structure Faithful (E : Pattern.Engine) (p : Phonology) (q : Progress) : Prop where
  once : ∀ place, q.diagnostics.countP (·.concerns place) ≤ 1
  own : ∀ place e, .skipped place e ∈ q.diagnostics →
    ∃ r, p.rules[place]? = some r ∧ ∃ text, r.apply E text = .error e

theorem lasts_faithful : Lasts E p (Faithful E p) where
  applyRule {q r place} here h := by
    rw [applyRule_eq]
    cases result : r.apply E q.value with
    | ok value => exact ⟨h.once, h.own⟩
    | error e =>
      show Faithful E p (q.fail place e)
      rw [Progress.fail]
      split
      · exact h
      · rename_i fresh
        refine ⟨fun other => ?_, fun other e' reported => ?_⟩
        · have before := h.once other
          rw [List.countP_append, List.countP_singleton]
          by_cases same : other = place
          · subst same
            have none : q.diagnostics.countP (·.concerns other) = 0 := by
              rw [List.countP_eq_zero]
              simpa using fresh
            rw [none]
            split <;> omega
          · have differ : Diagnostic.concerns other (.skipped place e) = false := by
              simpa [Diagnostic.concerns] using Ne.symm same
            rw [differ]
            simpa using before
        · rcases List.mem_append.mp reported with earlier | new
          · exact h.own other e' earlier
          · obtain ⟨rfl, rfl⟩ := Diagnostic.skipped.inj (List.mem_singleton.mp new)
            exact ⟨r, here, q.value, result⟩
  stop word passes h :=
    ⟨fun place => by simpa [List.countP_append, Diagnostic.concerns] using h.once place,
      fun place e reported => h.own place e (by simpa using reported)⟩

theorem faithful_transform (passes : Nat) (word : String) :
    Faithful E p (p.transform E passes word) := by
  rw [transform]
  split
  · exact ⟨by simp, by simp⟩
  · exact Lasts.foldl lasts_faithful.step (fun _ member => List.mem_zipIdx_iff_getElem?.mp member)
      ⟨by simp, by simp⟩

/-- A rule that can not be used is reported when its turn comes, if not before. -/
theorem reports_transform (patterns : p.literal = false) {place : Nat} {r : Substitution}
    (here : p.rules[place]? = some r) (unusable : r.isUsable E = false) (passes : Nat)
    (word : String) :
    (p.transform E passes word).Reports place := by
  obtain ⟨e, -, fails⟩ := Substitution.apply_of_not_isUsable unusable
  obtain ⟨earlier, later, cut⟩ := List.append_of_mem
    (List.mem_zipIdx_iff_getElem?.mpr here : (r, place) ∈ p.rules.zipIdx)
  have placed : ∀ x ∈ later, p.rules[x.2]? = some x.1 := fun x member =>
    List.mem_zipIdx_iff_getElem?.mp (cut ▸ List.mem_append_right _ (List.mem_cons_of_mem _ member))
  rw [transform, patterns, cut, List.foldl_append, List.foldl_cons]
  refine Lasts.foldl (lasts_reports place).step placed ?_
  generalize earlier.foldl _ _ = q
  have failed : applyRule E q r place = q.fail place e := by rw [applyRule_eq, fails]
  have first : (applyRule E q r place).Reports place := failed ▸ q.reports_fail place e
  simp only [Phonology.step]
  split
  · exact (lasts_reports place).rescan first
  · exact first

/-- Each word has one report of a rule that can not be used. -/
theorem filter_concerns_sayWord (patterns : p.literal = false) {place : Nat} {r : Substitution}
    (here : p.rules[place]? = some r) (unusable : r.isUsable E = false) (passes : Nat)
    (separator word : String) :
    ∃ e, (∀ text, r.apply E text = .error e) ∧
      (p.sayWord E passes separator word).2.filter (·.concerns place) = [.skipped place e] := by
  obtain ⟨e, -, fails⟩ := Substitution.apply_of_not_isUsable unusable
  have faithful := p.faithful_transform (E := E) passes word
  have reports : (p.transform E passes word).Reports place :=
    reports_transform patterns here unusable passes word
  have some : 0 < (p.transform E passes word).diagnostics.countP (·.concerns place) :=
    List.countP_pos_iff.mpr (List.any_eq_true.mp reports)
  have one : (p.transform E passes word).diagnostics.countP (·.concerns place) = 1 :=
    Nat.le_antisymm (faithful.once place) some
  have sole : (p.transform E passes word).diagnostics.filter (·.concerns place) =
      [.skipped place e] := by
    rw [List.countP_eq_length_filter] at one
    obtain ⟨d, only⟩ := List.length_eq_one_iff.mp one
    obtain ⟨member, concerns⟩ := List.mem_filter.mp (only ▸ List.mem_singleton_self d)
    cases d with
    | skipped other e' =>
      obtain rfl : other = place := by simpa [Diagnostic.concerns] using concerns
      obtain ⟨r', here', text, failed⟩ := faithful.own other e' member
      obtain rfl : r = r' := Option.some.inj (here.symm.trans here')
      rw [only, Except.error.inj ((fails text).symm.trans failed)]
    | stillChanging => cases concerns
    | noSyllables => cases concerns
  refine ⟨e, fails, ?_⟩
  rw [sayWord]
  cases p.composition with
  | false => exact sole
  | true =>
    cases p.syllables.split (p.transform E passes word).value separator with
    | some value => exact sole
    | none => simpa [List.filter_append, Diagnostic.concerns] using sole

/-! ### A whole text -/

theorem snd_follow_of_isSome {x y : Option String × List Diagnostic} (h : x.1.isSome = true) :
    (follow x y).2 = x.2 ++ y.2 := by
  obtain ⟨value, ds⟩ := x
  obtain ⟨value, rfl⟩ := Option.isSome_iff_exists.mp h
  rfl

theorem snd_follow_of_not_isSome {x y : Option String × List Diagnostic} (h : x.1.isSome = false) :
    (follow x y).2 = x.2 := by
  obtain ⟨value, ds⟩ := x
  obtain rfl : value = none := by simpa using h
  rfl

/-- What is reported of a text is what is reported of the words that are looked at. -/
theorem diagnostics_pronounce (passes : Nat) (separator text : String) :
    (p.pronounce E passes separator text).diagnostics =
      (p.heard E passes separator text).flatMap fun word =>
        (p.sayWord E passes separator word).2 := by
  show (p.sayRuns E passes separator (runs text)).2 =
    ((runWords (runs text)).takeWhile (p.isSaid E passes separator)
      ++ ((runWords (runs text)).dropWhile (p.isSaid E passes separator)).take 1).flatMap _
  generalize runs text = rs
  induction rs with
  | nil => rfl
  | cons r rest ih =>
    rw [sayRuns_cons]
    cases kind : r.blank with
    | true =>
      rw [runWords_cons_of_blank kind, ← ih]
      simp [sayRun, kind, follow]
    | false =>
      have here : p.sayRun E passes separator r = p.sayWord E passes separator r.text := by
        simp [sayRun, kind]
      rw [runWords_cons_of_word kind, here, List.takeWhile_cons, List.dropWhile_cons]
      cases said : p.isSaid E passes separator r.text with
      | true =>
        rw [if_pos rfl, if_pos rfl, List.cons_append, List.flatMap_cons, ← ih,
          snd_follow_of_isSome said]
      | false =>
        rw [snd_follow_of_not_isSome said]
        simp

/-- **Rules at fault are as good as their absence.** Where patterns are on, deleting the rules that
are blank or can not be used changes nothing that is said, and of what is reported it takes away
what concerns those rules and counts the places anew. What is reported is told word by word, and
each word has one report of each rule that can not be used, at the place of the rule. -/
theorem pronounce_cleaned (E : Pattern.Engine) (p : Phonology) (patterns : p.literal = false)
    (passes : Nat) (separator text : String) :
    ((p.cleaned E).pronounce E passes separator text).value =
      (p.pronounce E passes separator text).value ∧
      ((p.cleaned E).pronounce E passes separator text).diagnostics =
        (p.pronounce E passes separator text).diagnostics.filterMap (·.kept? E p) ∧
      (p.pronounce E passes separator text).diagnostics =
        ((p.heard E passes separator text).flatMap fun word =>
          (p.sayWord E passes separator word).2) ∧
      ∀ word place r, p.rules[place]? = some r → r.isUsable E = false →
        ∃ e, (∀ text, r.apply E text = .error e) ∧
          (p.sayWord E passes separator word).2.filter (·.concerns place) = [.skipped place e] := by
  have runsCleaned := sayRuns_cleaned (E := E) patterns passes separator (runs text)
  refine ⟨?_, ?_, diagnostics_pronounce passes separator text, fun word place r here unusable =>
    filter_concerns_sayWord patterns here unusable passes separator word⟩
  · rw [pronounce, pronounce, runsCleaned]
  · rw [pronounce, pronounce, runsCleaned]

/-- The first rule does not compile, the third asks for a group that is not there, and the last is
blank. -/
theorem pronounce_cleaned_dada :
    let E := Settings.standard.engine
    let p : Phonology := {
      rules := [.ofTexts "(" "x", .ofTexts "t(?=a)" "d", .ofTexts "a" "$2", .ofTexts "" "e"]
      recursion := true }
    p.literal = false ∧ ((p.cleaned E).pronounce E 100 "˙" "ta ta").value = "da da" ∧
      (p.sayWord E 100 "˙" "ta").2.filter (·.concerns 2) =
      [.skipped 2 (.replacement "$2" (.noGroup 2))] := by
  intro E p
  have laws := pronounce_cleaned E p rfl 100 "˙" "ta ta"
  refine ⟨rfl, ?_, ?_⟩
  · rw [laws.1]
    decide +kernel
  · obtain ⟨e, fails, reported⟩ := laws.2.2.2 "ta" 2 _ rfl (by decide +kernel)
    have failed : Substitution.apply E (.ofTexts "a" "$2") "a" =
        .error (.replacement "$2" (.noGroup 2)) := by
      decide +kernel
    rw [reported, Except.error.inj ((fails "a").symm.trans failed)]

end

end Conlang.Phonology
