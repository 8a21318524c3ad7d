import Conlang.Definition.Loading
import Conlang.Proofs.Declension.Cleaning
import Conlang.Proofs.RuleSet.Operation
import Conlang.Proofs.Sound.Cleaning
import Conlang.Report.Validation

/-! What a clean validation leaves to go wrong.

Validation compiles every pattern of a language, so where it finds nothing, no pattern is reported
as illegal later on. It does not look at replacements: one that asks for a group which its pattern
lacks passes (`misfit_passes_validation`), and is reported in use. Such misfits, and searches that
are given up, are all that is left (`only_misfits_after_ok`). -/
namespace Conlang

/-! ### Replacements that do not fit -/

namespace Substitution

/-- The pattern compiles, and `e` is what is wrong with the replacement for it. -/
def Misfits (E : Pattern.Engine) (t : Substitution) (e : Pattern.Error) : Prop :=
  ∃ program, t.pattern.compile E = .ok program ∧
    Pattern.parseTemplate E program t.replacement = .error e

variable {E : Pattern.Engine} {t : Substitution} {text : String} {e : Pattern.Error}

/-- A misfit fails on every text, unless its pattern is blank. -/
theorem Misfits.apply (h : t.Misfits E e) (blank : t.pattern.isEmpty = false) (text : String) :
    t.apply E text = .error e := by
  obtain ⟨program, compiled, misfit⟩ := h
  rw [apply_of_not_isEmpty blank, Pattern.replaceAll, compiled]
  show Pattern.replaceAllWith E t.pattern program t.replacement text = _
  rw [Pattern.replaceAllWith, misfit]
  rfl

theorem isEmpty_of_apply (failed : t.apply E text = .error e) : t.pattern.isEmpty = false := by
  cases blank : t.pattern.isEmpty with
  | false => rfl
  | true => rw [Substitution.apply, blank] at failed; cases failed

theorem Misfits.not_isUsable (h : t.Misfits E e) (blank : t.pattern.isEmpty = false) :
    t.isUsable E = false := by
  obtain ⟨program, compiled, misfit⟩ := h
  simp [isUsable, blank, compiled, misfit, Except.toBool]

/-- A substitution whose pattern compiles fails because of its replacement or because a search is
given up. -/
theorem misfits_of_isLegal (legal : t.pattern.isLegal E = true)
    (failed : t.apply E text = .error e) :
    e.isRuntime = true ∨ t.Misfits E e := by
  obtain ⟨program, compiled⟩ := Pattern.isLegal_iff.mp legal
  cases parsed : Pattern.parseTemplate E program t.replacement with
  | error e' =>
    have misfit : t.Misfits E e' := ⟨program, compiled, parsed⟩
    have same := (misfit.apply (isEmpty_of_apply failed) text).symm.trans failed
    exact .inr (Except.error.inj same ▸ misfit)
  | ok pieces =>
    have usable : t.isUsable E = true := by simp [isUsable, compiled, parsed, Except.toBool]
    exact .inl (isRuntime_of_isUsable usable failed)

end Substitution

/-! ### Parts of speech are kept by their ids -/

/-- Each part of speech is kept under its own id. -/
def Lexicon.IsKeyed (l : Lexicon) : Prop :=
  ∀ (id : Id) (p : PartOfSpeech), l.partsOfSpeech[id]? = some p → p.id = id

namespace Lexicon

/-- A change to a lexicon. -/
inductive Change where
  | addPartOfSpeech (p : PartOfSpeech)
  | addClass (c : WordClass)
  | addWord (w : Word)
  | removePartOfSpeech (id : Id)
  | removeClass (id : Id)
  | removeWord (id : Id)

def change (l : Lexicon) : Change → Lexicon
  | .addPartOfSpeech p => l.addPartOfSpeech p
  | .addClass c => l.addClass c
  | .addWord w => l.addWord w
  | .removePartOfSpeech id => l.removePartOfSpeech id
  | .removeClass id => l.removeClass id
  | .removeWord id => l.removeWord id

theorem isKeyed_empty : empty.IsKeyed := fun id p found => by simp [empty] at found

theorem IsKeyed.change {l : Lexicon} (h : l.IsKeyed) (c : Change) : (l.change c).IsKeyed := by
  intro id p found
  cases c with
  | addPartOfSpeech q =>
    rw [Lexicon.change, addPartOfSpeech, Std.ExtTreeMap.getElem?_insert] at found
    split at found
    · rename_i same
      obtain rfl := Option.some.inj found
      exact Std.LawfulEqCmp.eq_of_compare same
    · exact h id p found
  | removePartOfSpeech other =>
    rw [Lexicon.change, removePartOfSpeech, Std.ExtTreeMap.getElem?_erase] at found
    split at found
    · cases found
    · exact h id p found
  | addClass c => exact h id p found
  | addWord w => exact h id p found
  | removeClass other => exact h id p found
  | removeWord other => exact h id p found

/-- Whatever is done to a lexicon, its parts of speech are kept by their ids. -/
theorem isKeyed_changes {l : Lexicon} (h : l.IsKeyed) (cs : List Change) :
    (cs.foldl change l).IsKeyed := by
  induction cs generalizing l with
  | nil => exact h
  | cons c rest ih => exact ih (h.change c)

theorem values_eq_map_toList {α β : Type} {cmp : α → α → Ordering} [Std.TransCmp cmp]
    (m : Std.ExtTreeMap α β cmp) : m.values = m.toList.map Prod.snd := by
  obtain ⟨m⟩ := m
  induction m using Std.ExtDTreeMap.inductionOn with
  | mk m =>
    show m.inner.values = (Std.DTreeMap.Internal.Impl.Const.toList m.inner).map Prod.snd
    rw [Std.DTreeMap.Internal.Impl.values_eq_map_snd,
      Std.DTreeMap.Internal.Impl.Const.toList_eq_toListModel_map, List.map_map]
    rfl

/-- A part of speech that is declared is among those that are listed. -/
theorem IsKeyed.exists_mem_values {l : Lexicon} (h : l.IsKeyed) {type : Id}
    (declared : l.declaresPartOfSpeech type = true) :
    ∃ p ∈ l.partsOfSpeech.values, p.id = type := by
  obtain ⟨p, found⟩ := Option.isSome_iff_exists.mp
    ((Std.ExtTreeMap.contains_eq_isSome_getElem? (t := l.partsOfSpeech)).symm.trans declared)
  refine ⟨p, ?_, h type p found⟩
  rw [values_eq_map_toList]
  exact List.mem_map_of_mem (f := Prod.snd) (Std.ExtTreeMap.mem_toList_iff_getElem?_eq_some.mpr
    found)

end Lexicon

namespace Definition

theorem isKeyed_loadLexicon {d : Definition} {l : Lexicon} (loaded : d.loadLexicon = .ok l) :
    l.IsKeyed := by
  have start : (d.partsOfSpeech.foldl Lexicon.addPartOfSpeech {}).IsKeyed :=
    List.foldlRecOn d.partsOfSpeech Lexicon.addPartOfSpeech Lexicon.isKeyed_empty
      fun _ h p _ => h.change (.addPartOfSpeech p)
  simp only [loadLexicon, bind_eq_ok_iff] at loaded
  obtain ⟨-, -, -, -, classed, classes, -, -, words⟩ := loaded
  have kept : classed.IsKeyed := by
    refine foldlM_keeps (fun {l l' c} h added => ?_) start classes
    simp only [loadClass, bind_eq_ok_iff] at added
    obtain ⟨-, -, -, -, added⟩ := added
    exact Except.ok.inj added ▸ h.change (.addClass c)
  refine foldlM_keeps (fun {l l' w} h added => ?_) kept words
  simp only [loadWord, bind_eq_ok_iff] at added
  obtain ⟨-, -, -, -, added⟩ := added
  exact Except.ok.inj added ▸ h.change (.addWord _)

/-- A language that is loaded keeps its parts of speech by their ids. -/
theorem isKeyed_ofToml {text : String} {l : Language} (loaded : Language.ofToml text = .ok l) :
    l.lexicon.IsKeyed := by
  simp only [Language.ofToml, load, bind_eq_ok_iff] at loaded
  obtain ⟨d, -, lexicon, read, rules, -, syllables, -, made⟩ := loaded
  exact Except.ok.inj made ▸ isKeyed_loadLexicon read

end Definition

/-! ### Validation -/

namespace Report

/-- The answer of a validation that found nothing. -/
def SaysOk (report : String) : Prop := ∃ summary, report = summary ++ "OK\n"

variable {E : Pattern.Engine} {l : Language}

theorem saysOk_validate : SaysOk (validate E l) ↔ problems E l = [] := by
  rw [validate]
  cases none : (problems E l).isEmpty with
  | true => exact ⟨fun _ => List.isEmpty_iff.mp none, fun _ => ⟨_, rfl⟩⟩
  | false =>
    refine iff_of_false ?_ fun found => by simp [found] at none
    rintro ⟨summary, same⟩
    -- The lines end differently.
    have ends := congrArg (fun report => report.toList.reverse.take 2) same
    simp [toString] at ends

theorem patternError?_eq_none {p : Pattern} : patternError? E p = none ↔ p.isLegal E = true := by
  rw [patternError?, Pattern.isLegal_iff]
  cases p.compile E <;> simp

/-- Where nothing is told of items by their places, each item is fine. -/
theorem filterMap_zipIdx_eq_nil {α : Type} {fine : α → Prop} {tell : α × Nat → Option String}
    (silent : ∀ x place, tell (x, place) = none ↔ fine x) {xs : List α} :
    xs.zipIdx.filterMap tell = [] ↔ ∀ x ∈ xs, fine x := by
  rw [List.filterMap_eq_nil_iff]
  constructor
  · intro none x member
    obtain ⟨place, here⟩ := List.mem_iff_getElem?.mp member
    exact (silent x place).mp (none (x, place) (List.mem_zipIdx_iff_getElem?.mpr here))
  · exact fun all x member => (silent x.1 x.2).mpr (all x.1 (List.fst_mem_of_mem_zipIdx member))

theorem soundProblems_eq_nil {label : String} {p : Phonology} :
    soundProblems E label p = [] ↔ ∀ r ∈ p.rules, r.pattern.isLegal E = true :=
  filterMap_zipIdx_eq_nil fun _ _ => Option.map_eq_none_iff.trans patternError?_eq_none

theorem ruleProblems_eq_nil {p : PartOfSpeech} {r : Rule} :
    ruleProblems E p r = [] ↔
      r.content.gate.isLegal E = true ∧ ∀ t ∈ r.content.transforms, t.pattern.isLegal E = true := by
  rw [ruleProblems, List.append_eq_nil_iff]
  exact and_congr (by simp [patternError?_eq_none])
    (filterMap_zipIdx_eq_nil fun _ _ => Option.map_eq_none_iff.trans patternError?_eq_none)

/-- Where validation finds nothing, every pattern of a rule that is in use compiles. -/
theorem isLegal_of_rulesFor (clean : problems E l = []) (keyed : l.lexicon.IsKeyed) {type : Id}
    {c : Combination} {r : Rule} (declared : l.lexicon.declaresPartOfSpeech type = true)
    (member : r ∈ l.rules.rulesFor type c) :
    r.content.gate.isLegal E = true ∧ ∀ t ∈ r.content.transforms, t.pattern.isLegal E = true := by
  obtain ⟨p, listed, rfl⟩ := keyed.exists_mem_values declared
  have ofType : r ∈ l.rules.rulesOf p.id := List.mem_of_mem_filter ((mem_sortBy ..).mp member)
  simp only [problems, List.append_eq_nil_iff, List.flatMap_eq_nil_iff] at clean
  have ofPart := clean.1.1.2 p listed
  simp only [partOfSpeechProblems, List.append_eq_nil_iff, List.flatMap_eq_nil_iff] at ofPart
  exact ruleProblems_eq_nil.mp (ofPart.1 r ofType)

end Report

/-! ### What is left -/

theorem Lexicon.declares_of_declinable {l : Lexicon} {word : Id} {w : Word}
    (h : l.declinable word = .ok w) :
    l.declaresPartOfSpeech w.type = true := by
  rw [declinable, word?_of_declinable h] at h
  by_contra undeclared
  simp [undeclared] at h

namespace Declension

/-- Of a rule whose patterns compile, only misfits and searches that are given up are reported. -/
theorem Diagnostic.IsOf.misfits {E : Pattern.Engine} {d : Diagnostic} {r : Rule} (h : d.IsOf E r)
    (gate : r.content.gate.isLegal E = true)
    (steps : ∀ t ∈ r.content.transforms, t.pattern.isLegal E = true) :
    d.error.isRuntime = true ∨ ∃ place t, d.location = .transform place ∧
    r.content.transforms[place]? = some t ∧
      t.Misfits E d.error := by
  obtain ⟨-, failed⟩ := h
  cases location : d.location with
  | gate =>
    rw [location] at failed
    obtain ⟨-, value, failed⟩ := failed
    exact .inl (Pattern.isRuntime_of_isLegal gate failed)
  | transform place =>
    rw [location] at failed
    obtain ⟨t, found, value, failed⟩ := failed
    refine (Substitution.misfits_of_isLegal (steps t (List.mem_of_getElem? found))
      failed).imp_right fun misfit => ?_
    exact ⟨place, t, rfl, found, misfit⟩

end Declension

namespace Phonology
open Text

variable {E : Pattern.Engine} {p : Phonology} {place : Nat} {e : Pattern.Error}

theorem skipped_mem_sayWord {passes : Nat} {separator word : String} :
    .skipped place e ∈ (p.sayWord E passes separator word).2 ↔
      .skipped place e ∈ (p.transform E passes word).diagnostics := by
  rw [sayWord]
  split
  · split <;> simp
  · rfl

theorem diagnostics_transform_of_literal (literal : p.literal = true) (passes : Nat)
    (word : String) :
    (p.transform E passes word).diagnostics = [] := by
  rw [transform, literal]
  rfl

theorem heard_ne_nil (passes : Nat) (separator : String) {text : String} (h : words text ≠ []) :
    p.heard E passes separator text ≠ [] := by
  rw [heard]
  cases ws : words text with
  | nil => exact absurd ws h
  | cons w rest => cases said : p.isSaid E passes separator w <;> simp [said]

theorem mem_words_of_mem_heard {passes : Nat} {separator text word : String}
    (h : word ∈ p.heard E passes separator text) : word ∈ words text := by
  rcases List.mem_append.mp h with said | unsaid
  · exact (List.takeWhile_prefix _).subset said
  · exact (List.dropWhile_suffix _).subset (List.mem_of_mem_take unsaid)

/-- Where all patterns compile, what is reported of rules other than searches that are given up are
exactly the misfits, as soon as there is a word. -/
theorem skipped_iff_misfits (legal : ∀ r ∈ p.rules, r.pattern.isLegal E = true) (passes : Nat)
    (separator text : String) (final : e.isRuntime = false) :
    .skipped place e ∈ (p.pronounce E passes separator text).diagnostics ↔
      words text ≠ [] ∧ p.literal = false ∧
        ∃ r, p.rules[place]? = some r ∧ r.pattern.isEmpty = false ∧ r.Misfits E e := by
  rw [diagnostics_pronounce, List.mem_flatMap]
  constructor
  · rintro ⟨word, member, reported⟩
    have reported := skipped_mem_sayWord.mp reported
    refine ⟨List.ne_nil_of_mem (mem_words_of_mem_heard member), ?_, ?_⟩
    · by_contra literal
      rw [diagnostics_transform_of_literal (by simpa using literal)] at reported
      cases reported
    · obtain ⟨r, here, text, failed⟩ := (faithful_transform passes word).own place e reported
      have misfits := Substitution.misfits_of_isLegal (legal r (List.mem_of_getElem? here)) failed
      exact ⟨r, here, Substitution.isEmpty_of_apply failed, misfits.resolve_left (by simp [final])⟩
  · rintro ⟨some, patterns, r, here, blank, misfit⟩
    obtain ⟨word, member⟩ :=
      List.exists_mem_of_ne_nil (p.heard E passes separator text)
      (heard_ne_nil passes separator some)
    obtain ⟨e', fails, reported⟩ :=
      filter_concerns_sayWord patterns here (misfit.not_isUsable blank) passes separator word
    obtain rfl := Except.error.inj ((fails text).symm.trans (misfit.apply blank text))
    exact ⟨word, member, List.mem_of_mem_filter (reported ▸ List.mem_singleton_self _)⟩

end Phonology

namespace Report
open Declension Phonology Text

/-- **A clean validation leaves misfits.** Where validation says OK, no pattern is reported as
illegal when words are formed or texts are said. In declensions there are, besides searches that are
given up, only replacements that do not fit their patterns; in what is said and romanized, each such
misfit is reported as soon as there is a word. -/
theorem only_misfits_after_ok (E : Pattern.Engine) (l : Language) (keyed : l.lexicon.IsKeyed)
    (ok : SaysOk (validate E l)) :
    (∀ word w c d, l.lexicon.word? word = some w → l.decline E word c = .ok d →
      ∀ x ∈ d.diagnostics, x.error.isRuntime = true ∨
        ∃ r ∈ l.rules.rulesFor w.type c, x.rule = r.id ∧ ∃ place t, x.location = .transform place ∧
          r.content.transforms[place]? = some t ∧ t.Misfits E x.error) ∧
      (∀ passes separator text place e, e.isRuntime = false →
        (.skipped place e ∈ (l.pronunciation.pronounce E passes separator text).diagnostics ↔
          words text ≠ [] ∧ l.pronunciation.literal = false ∧
            ∃ r, l.pronunciation.rules[place]? = some r ∧ r.pattern.isEmpty = false ∧
            r.Misfits E e)) ∧
      ∀ passes separator text place e, e.isRuntime = false →
        (.skipped place e ∈ (l.romanizer.romanize E passes separator text).diagnostics ↔
          l.romanizer.enabled = true ∧ words text ≠ [] ∧ l.romanizer.phonology.literal = false ∧
            ∃ r, l.romanizer.phonology.rules[place]? = some r ∧ r.pattern.isEmpty = false ∧
            r.Misfits E e) := by
  have clean : problems E l = [] := saysOk_validate.mp ok
  have parts := clean
  simp only [problems, List.append_eq_nil_iff] at parts
  refine ⟨?_, ?_, ?_⟩
  · intro word w c d known formed x reported
    cases declinable : l.lexicon.declinable word with
    | error fault =>
      rw [Language.decline, RuleSet.decline, RuleSet.declineTraced_error declinable] at formed
      cases formed
    | ok w' =>
      obtain rfl : w' = w :=
        Option.some.inj ((Lexicon.word?_of_declinable declinable).symm.trans known)
      rw [Language.decline, RuleSet.decline, RuleSet.declineTraced_ok declinable] at formed
      obtain rfl := Except.ok.inj formed
      rw [(replays_fold E w' _ _).diagnostics] at reported
      obtain ⟨r, member, failed⟩ := (replays_fold E w' _ _).honest.failed reported
      obtain ⟨gate, steps⟩ :=
        isLegal_of_rulesFor clean keyed (Lexicon.declares_of_declinable declinable) member
      exact (failed.misfits gate steps).imp_right fun misfit => ⟨r, member, failed.1, misfit⟩
  · intro passes separator text place e final
    exact skipped_iff_misfits (soundProblems_eq_nil.mp parts.1.2) passes separator text final
  · intro passes separator text place e final
    rw [Romanizer.romanize]
    cases l.romanizer.enabled with
    | false => simp
    | true =>
      rw [if_pos rfl,
        skipped_iff_misfits (soundProblems_eq_nil.mp parts.2) passes separator text final]
      simp

/-- The plural of "kat" and the way it is said both ask for a second group, where there is none. -/
def asksForSecondGroup : Language where
  lexicon :=
    (Lexicon.empty.addPartOfSpeech ⟨1, "noun"⟩).addWord { id := 1, value := "kat", type := 1 }
  rules := RuleSet.empty.run Settings.standard.engine
    [.insertExtra 1 ⟨7, "plural"⟩,
      .add 1 (.ofForm 7) { name := "plural", transforms := [.ofTexts "a" "$2"] }]
  pronunciation := { rules := [.ofTexts "a" "$2"] }

theorem isKeyed_asksForSecondGroup : asksForSecondGroup.lexicon.IsKeyed :=
  (Lexicon.isKeyed_empty.change (.addPartOfSpeech _)).change (.addWord _)

theorem saysOk_asksForSecondGroup : SaysOk (validate Settings.standard.engine asksForSecondGroup) :=
  saysOk_validate.mpr (by decide +kernel)

/-- Misfits pass the validation. -/
theorem misfit_passes_validation :
    let E := Settings.standard.engine
    let l := asksForSecondGroup
    let misfit := Pattern.Error.replacement "$2" (.noGroup 2)
    SaysOk (validate E l) ∧ l.lexicon.declaresPartOfSpeech 1 = true ∧
      (l.decline E 1 (.ofForm 7)).toOption.map (·.diagnostics) =
      some [⟨1, "plural", .transform 0, misfit⟩] ∧
      (l.pronunciation.pronounce E 100 "˙" "kat").diagnostics = [.skipped 0 misfit] :=
  ⟨saysOk_asksForSecondGroup, by decide +kernel, by decide +kernel, by decide +kernel⟩

theorem only_misfits_after_ok_second_group :
    let E := Settings.standard.engine
    let l := asksForSecondGroup
    let misfit := Pattern.Error.replacement "$2" (.noGroup 2)
    l.lexicon.IsKeyed ∧ SaysOk (validate E l) ∧ ∃ r, l.pronunciation.rules[0]? = some r ∧
      r.Misfits E misfit := by
  intro E l misfit
  have laws := only_misfits_after_ok E l isKeyed_asksForSecondGroup saysOk_asksForSecondGroup
  have reported : .skipped 0 misfit ∈ (l.pronunciation.pronounce E 100 "˙" "kat").diagnostics := by
    decide +kernel
  obtain ⟨-, -, r, here, -, misfits⟩ := (laws.2.1 100 "˙" "kat" 0 misfit rfl).mp reported
  exact ⟨isKeyed_asksForSecondGroup, saysOk_asksForSecondGroup, r, here, misfits⟩

end Report

end Conlang
