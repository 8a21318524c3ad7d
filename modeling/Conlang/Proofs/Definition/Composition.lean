import Conlang.Proofs.Definition.Acceptance
import Conlang.Proofs.Sound.Cleaning

/-! Which of the sound rules of a definition have its syllables.

Both the pronunciation and the romanization may be composed of syllables, but only the pronunciation
is given those of the definition. A word of a romanized text can only be composed when nothing is
left of it (`only_pronunciation_has_syllables`). -/
namespace Conlang
open Text

/-! ### What is reported of a text -/

namespace Phonology

/-- A word is reported that can not be cut into syllables. -/
def LacksSyllables (ds : List Diagnostic) : Prop :=
  ∃ word transformed, .noSyllables word transformed ∈ ds

theorem lacksSyllables_append {ds ds' : List Diagnostic} :
    LacksSyllables (ds ++ ds') ↔ LacksSyllables ds ∨ LacksSyllables ds' := by
  simp only [LacksSyllables, List.mem_append, exists_or]

theorem not_lacksSyllables_nil : ¬LacksSyllables [] := fun ⟨_, _, mem⟩ => nomatch mem

section
variable {E : Pattern.Engine} {p : Phonology}

/-- Rules report nothing of the kind. -/
theorem lasts_not_lacksSyllables : Lasts E p fun q => ¬LacksSyllables q.diagnostics where
  applyRule {q r place} _ h := by
    rw [applyRule_eq]
    cases r.apply E q.value with
    | ok value => exact h
    | error e =>
      show ¬LacksSyllables (q.fail place e).diagnostics
      rw [Progress.fail]
      split
      · exact h
      · simpa [LacksSyllables] using h
  stop word passes h := by simpa [LacksSyllables] using h

theorem not_lacksSyllables_transform (passes : Nat) (word : String) :
    ¬LacksSyllables (p.transform E passes word).diagnostics := by
  rw [transform]
  split
  · exact not_lacksSyllables_nil
  · exact Lasts.foldl (P := fun q => ¬LacksSyllables q.diagnostics) lasts_not_lacksSyllables.step
      (fun _ member =>
      List.mem_zipIdx_iff_getElem?.mp member) not_lacksSyllables_nil

/-- A word is reported exactly when it is not said. -/
theorem lacksSyllables_sayWord (passes : Nat) (separator word : String) :
    LacksSyllables (p.sayWord E passes separator word).2 ↔
      (p.sayWord E passes separator word).1 = none := by
  have quiet := not_lacksSyllables_transform (E := E) (p := p) passes word
  rw [sayWord]
  cases p.composition with
  | false => exact iff_of_false quiet (by simp)
  | true =>
    cases p.syllables.split (p.transform E passes word).value separator with
    | some value => exact iff_of_false quiet (by simp)
    | none =>
      exact iff_of_true (lacksSyllables_append.mpr (.inr ⟨word, _, List.mem_singleton_self _⟩)) rfl

theorem lacksSyllables_follow {x y : Option String × List Diagnostic}
    (first : LacksSyllables x.2 ↔ x.1 = none) (second : LacksSyllables y.2 ↔ y.1 = none) :
    LacksSyllables (follow x y).2 ↔ (follow x y).1 = none := by
  obtain ⟨value, ds⟩ := x
  obtain ⟨more, ds'⟩ := y
  cases value with
  | none => exact first
  | some value =>
    have quiet : ¬LacksSyllables ds := fun lacks => nomatch first.mp lacks
    show LacksSyllables (ds ++ ds') ↔ more.map (value ++ ·) = none
    rw [lacksSyllables_append, or_iff_right quiet, Option.map_eq_none_iff]
    exact second

theorem lacksSyllables_sayRuns (passes : Nat) (separator : String) (rs : List Run) :
    LacksSyllables (p.sayRuns E passes separator rs).2 ↔
      (p.sayRuns E passes separator rs).1 = none := by
  induction rs with
  | nil => exact iff_of_false not_lacksSyllables_nil (by simp [sayRuns])
  | cons r rest ih =>
    rw [sayRuns_cons]
    refine lacksSyllables_follow ?_ ih
    rw [sayRun]
    split
    · exact iff_of_false not_lacksSyllables_nil (by simp)
    · exact lacksSyllables_sayWord passes separator r.text

/-- Composing a text reports no such word exactly when every word has syllables. -/
theorem not_lacksSyllables_pronounce (composes : p.composition = true) (passes : Nat)
    (separator text : String) :
    ¬LacksSyllables (p.pronounce E passes separator text).diagnostics ↔
      p.ComposesAll E passes text := by
  have isSaid := p.isSome_say E passes separator text
  rw [composes, or_iff_right (by simp)] at isSaid
  rw [← isSaid, Option.isSome_iff_ne_none]
  exact not_congr (lacksSyllables_sayRuns passes separator (runs text))

end

end Phonology

namespace SyllableGrammar

/-- Without additions, only the empty word can be decomposed. -/
theorem decomposes_nil_iff {word : String} : (∃ list, Decomposes [] list word) ↔ word = "" := by
  constructor
  · rintro ⟨list, joined, syllables⟩
    cases list with
    | nil => exact joined.symm
    | cons syllable rest =>
      obtain ⟨source, added, -⟩ := (syllables syllable List.mem_cons_self).fits
      cases added
  · rintro rfl
    exact ⟨[], rfl, nofun⟩

theorem Built.composes_iff {adds : List Addition} {p : Phonology} (h : Built adds p.syllables)
    (E : Pattern.Engine) (passes : Nat) (word : String) :
    p.Composes E passes word ↔ ∃ list, Decomposes adds list (p.transform E passes word).value :=
  exists_congr fun _ => h.cut_iff_decomposes

end SyllableGrammar

/-! ### What is reported of the texts of a language -/

namespace Language
open Phonology SyllableGrammar

/-- **Only the pronunciation has the syllables of a definition.** Where it composes words, a text is
said without a report exactly when all its words, as the rules change them, can be decomposed as the
definition says. Where the romanization composes words, that is so exactly when the rules leave
nothing of any word. -/
theorem only_pronunciation_has_syllables (E : Pattern.Engine) (d : Definition) (l : Language)
    (loaded : d.load = .ok l) (passes : Nat) (separator text : String) :
    (d.pronunciation.composition = true →
      (¬LacksSyllables (l.pronunciation.pronounce E passes separator text).diagnostics ↔
        ∀ word ∈ words text, ∃ list,
          Decomposes d.syllables.additions list (l.pronunciation.transform E passes word).value)) ∧
    (d.romanizationEnabled = true → d.romanization.composition = true →
      (¬LacksSyllables (l.romanizer.romanize E passes separator text).diagnostics ↔
        ∀ word ∈ words text, (l.romanizer.phonology.transform E passes word).value = "")) := by
  obtain ⟨h, rfl⟩ := Definition.load_eq_ok_iff.mp loaded
  constructor
  · intro composes
    have built : Built d.syllables.additions d.language.pronunciation.syllables :=
      Definition.built_loadSyllables (Definition.loadSyllables_eq_ok_iff.mpr ⟨h.syllables, rfl⟩)
    rw [not_lacksSyllables_pronounce (p := d.language.pronunciation) composes]
    exact forall₂_congr fun word _ => built.composes_iff E passes word
  · intro enabled composes
    have on : d.language.romanizer.enabled = true := enabled
    have built : Built [] d.language.romanizer.phonology.syllables := built_empty
    rw [Romanizer.romanize, if_pos on,
      not_lacksSyllables_pronounce (p := d.language.romanizer.phonology) composes]
    exact forall₂_congr fun word _ => (built.composes_iff E passes word).trans decomposes_nil_iff

/-- Two sounds that make one syllable, "ta"; nothing is changed. -/
def ofTa : Definition where
  partsOfSpeech := []
  classes := []
  words := []
  dimensions := []
  extras := []
  rules := []
  suppressed := ""
  pronunciation := { composition := true }
  romanization := { composition := true }
  romanizationEnabled := true
  syllables := { categories := [("C", ["t"]), ("V", ["a"])], templates := ["CV"] }

theorem load_ofTa : ofTa.load = .ok ofTa.language := Definition.load_of_toBool (by decide +kernel)

theorem decomposes_tata : Decomposes ofTa.syllables.additions ["ta", "ta"] "tata" := by
  have cut : (build ofTa.syllables.additions).syllabify "tata" = some ["ta", "ta"] := by
    decide +kernel
  exact (built_build _).cut_iff_decomposes.mp (cut_of_solve _ cut)

theorem only_pronunciation_has_syllables_tata :
    let E := Settings.standard.engine
    ofTa.load = .ok ofTa.language ∧ ofTa.pronunciation.composition = true ∧
      ¬LacksSyllables (ofTa.language.pronunciation.pronounce E 100 "˙" "tata").diagnostics ∧
      LacksSyllables (ofTa.language.romanizer.romanize E 100 "˙" "tata").diagnostics := by
  intro E
  have laws := only_pronunciation_has_syllables E ofTa ofTa.language load_ofTa 100 "˙" "tata"
  have alone : words "tata" = ["tata"] := by decide +kernel
  rw [alone] at laws
  refine ⟨load_ofTa, rfl, (laws.1 rfl).mpr fun word mem => ?_, ?_⟩
  · obtain rfl := List.mem_singleton.mp mem
    exact ⟨["ta", "ta"], decomposes_tata⟩
  · by_contra quiet
    have vanishes := (laws.2 rfl rfl).mp quiet "tata" (List.mem_singleton_self _)
    revert vanishes
    decide +kernel

/-- "tata" has two syllables and is said so, but it is not romanized. -/
theorem romanization_lacks_syllables :
    let E := Settings.standard.engine
    let l := ofTa.language
    ofTa.load = .ok l ∧ ofTa.romanizationEnabled = true ∧ ofTa.romanization.composition = true ∧
      (∀ word ∈ words "tata", ∃ list,
        Decomposes ofTa.syllables.additions list
        (l.romanizer.phonology.transform E 100 word).value) ∧
      l.pronunciation.pronounce E 100 "˙" "tata" = ⟨"ta˙ta", []⟩ ∧
      l.romanizer.romanize E 100 "˙" "tata" = ⟨"", [.noSyllables "tata" "tata"]⟩ := by
  intro E l
  refine ⟨load_ofTa, rfl, rfl, fun word mem => ?_, by decide +kernel, by decide +kernel⟩
  have alone : words "tata" = ["tata"] := by decide +kernel
  obtain rfl := List.mem_singleton.mp (alone ▸ mem)
  exact ⟨["ta", "ta"], decomposes_tata⟩

end Language

end Conlang
