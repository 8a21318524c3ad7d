import Conlang.Proofs.Declension.Table
import Conlang.Proofs.Definition.Inflection
import Conlang.Proofs.Definition.Syllables
import Conlang.Proofs.RuleSet.Purging

/-! Which definitions are accepted, and what comes of them.

Each part of a definition is accepted exactly when it is consistent, and so is the whole
(`load_eq_ok_iff`). The language that comes of it declares what the definition declares, and nothing
in it refers to anything else (`load_accepts_consistent`). -/
namespace Conlang.Definition
open RuleSet Suppression

/-- The language of a definition, without the checks. -/
def language (d : Definition) : Language where
  lexicon := d.lexicon
  rules := (d.ruleSet.loadSuppressed d.suppressed).1
  pronunciation :=
    { loadSound d.pronunciation with
      syllables := SyllableGrammar.build d.syllables.sorted.additions }
  romanizer := ⟨loadSound d.romanization, d.romanizationEnabled⟩
  rejected := (d.ruleSet.loadSuppressed d.suppressed).2

theorem load_eq_ok_iff {d : Definition} {l : Language} :
    d.load = .ok l ↔ d.Consistent ∧ l = d.language := by
  have types := declaresPartOfSpeech_iff d.partsOfSpeech_lexicon
  rw [load, bind_eq_ok_iff]
  simp only [bind_eq_ok_iff, loadLexicon_eq_ok_iff, loadSyllables_eq_ok_iff]
  constructor
  · rintro ⟨_, ⟨lexical, rfl⟩, loadedRules, rules, _, ⟨syllables, rfl⟩, made⟩
    have values := declaresClassValue_iff lexical.classes d.classes_lexicon
    obtain ⟨inflectional, rfl⟩ := (loadRules_eq_ok_iff types values).mp rules
    exact ⟨⟨lexical, inflectional, syllables⟩, (Except.ok.inj made).symm⟩
  · rintro ⟨h, rfl⟩
    have values := declaresClassValue_iff h.classes d.classes_lexicon
    exact ⟨_, ⟨h.toLexicalConsistency, rfl⟩, _,
      (loadRules_eq_ok_iff types values).mpr ⟨h.toInflectionalConsistency, rfl⟩, _,
      ⟨h.syllables, rfl⟩, rfl⟩

theorem load_of_toBool {d : Definition} (accepted : d.load.toBool = true) :
    d.load = .ok d.language := by
  cases result : d.load with
  | ok l => rw [(load_eq_ok_iff.mp result).2]
  | error fault =>
    rw [result] at accepted
    cases accepted

/-! ### What comes of a consistent definition -/

section
variable {d : Definition} (h : d.Consistent)
include h

/-- A word can be formed because its part of speech is declared. -/
theorem Consistent.declinable {id : Id} {w : Word} (known : d.lexicon.word? id = some w) :
    d.lexicon.declinable id = .ok w := by
  obtain ⟨e, mem, -, rfl⟩ := (word?_lexicon h.words).mp known
  have declared : d.lexicon.declaresPartOfSpeech e.word.type = true := by
    rw [declaresPartOfSpeech_iff d.partsOfSpeech_lexicon, e.type_word]
    exact h.wordTypes e mem
  rw [Lexicon.declinable, known]
  exact if_pos declared

theorem Consistent.countStale : d.ruleSet.countStale d.lexicon = 0 := by
  refine countStale_eq_zero_iff.mpr fun r mem condition listed => ?_
  obtain ⟨e, entry, same⟩ := content_of_mem_rules h.combinations mem
  rw [← same] at listed
  obtain ⟨c, named, rfl⟩ := RuleEntry.of_mem_conditions listed
  exact (declaresClassValue_iff h.classes d.classes_lexicon c).mpr (h.ruleValues e entry c named)

end

/-- **A definition is accepted exactly when it is consistent, and then so is its language.** Its
words are those of the definition, and each can be formed in every combination. Its paradigms are as
declared. No condition of a rule is stale. The rules of each form come in the order of the
definition, numbered from one. Reported are just those entries of hidden forms that denote no form,
and hidden are just the forms that the others denote. -/
theorem load_accepts_consistent (E : Pattern.Engine) (d : Definition) :
    ((∃ l, d.load = .ok l) ↔ d.Consistent) ∧
      ∀ l, d.load = .ok l →
        (∀ id, (∃ w, l.lexicon.word? id = some w) ↔ ∃ e ∈ d.words, e.id = id) ∧
        (∀ id w, l.lexicon.word? id = some w →
          ∀ c, ∃ declension, l.decline E id c = .ok declension) ∧
        (∀ type, l.rules.paradigm type = d.paradigm type) ∧
        (l.rules.countStale l.lexicon = 0 ∧ l.rules.purge l.lexicon = l.rules) ∧
        (∀ type c,
          (l.rules.rulesFor type c).map (fun r => (r.content, r.id)) =
            ((d.rules.zipIdx 1).filter (·.1.isFor type c)).map (fun (e, place) =>
              (e.content, place)) ∧
          (l.rules.rulesFor type c).map (·.index) =
            List.range' 1 (l.rules.rulesFor type c).length) ∧
        l.rejected.map (·.entry) =
          ((entries d.suppressed.toList).filter (Malformed ·)).map .ofList ∧
        ∀ type c, l.rules.isSuppressed type c = true ↔
          ∃ entry ∈ entries d.suppressed.toList, TypedForm.Denotes entry ⟨type, c⟩ := by
  refine ⟨⟨fun ⟨l, loaded⟩ => (load_eq_ok_iff.mp loaded).1, fun h =>
    ⟨_, load_eq_ok_iff.mpr ⟨h, rfl⟩⟩⟩, ?_⟩
  intro l loaded
  obtain ⟨h, rfl⟩ := load_eq_ok_iff.mp loaded
  have kept : WellKept d.ruleSet := wellKept_ruleSet h.combinations
  have same (type : Id) (c : Combination) : d.language.rules.rulesFor type c =
      d.ruleSet.bucket type c :=
    kept.rulesFor_eq type c
  refine ⟨fun id => ?_, fun id w known c => ?_, d.paradigm_ruleSet,
    ⟨h.countStale, purge_eq_self h.countStale⟩, fun type c => ⟨?_, ?_⟩,
    entries_rejected d.suppressed, fun type c => contains_parse_iff⟩
  · constructor
    · rintro ⟨w, known⟩
      obtain ⟨e, mem, here, -⟩ := (word?_lexicon h.words).mp known
      exact ⟨e, mem, here⟩
    · rintro ⟨e, mem, here⟩
      exact ⟨e.word, (word?_lexicon h.words).mpr ⟨e, mem, here, rfl⟩⟩
  · exact ⟨_, RuleSet.declineTraced_ok (h.declinable known)⟩
  · rw [same, bucket_ruleSet h.combinations]
  · rw [same]
    exact kept.numbered type c

/-- A noun with two numbers, of which the singular is hidden; the other entry of hidden forms names
none. -/
def ofKat : Definition where
  partsOfSpeech := [⟨1, "noun"⟩]
  classes := [{ id := 4, name := "gender", appliesTo := [1], values := [⟨1, "feminine"⟩] }]
  words := [⟨1, "kat", 1, [⟨4, 1, false⟩]⟩]
  dimensions := [⟨1, ⟨1, "number", [⟨1, "singular"⟩, ⟨2, "plural"⟩]⟩⟩]
  extras := [⟨1, ⟨2, "vocative"⟩⟩]
  rules := [⟨1, ",2,", "plural", "", [⟨4, 1, false⟩], [⟨"$", "s"⟩]⟩]
  suppressed := "1,,1,;plural"
  pronunciation := {}
  romanization := {}
  romanizationEnabled := false
  syllables := { categories := [("C", ["k", "t"])], templates := ["Ca(C)"] }

/-- It is accepted. Its word has a plural, and the plain entry is reported. -/
theorem load_accepts_consistent_kat :
    let E := Settings.standard.engine
    let l := ofKat.language
    ofKat.load = .ok l ∧ ofKat.Consistent ∧
      (∃ declension, l.decline E 1 (.ofValues [2]) = .ok declension) ∧
      l.rules.isSuppressed 1 (.ofValues [1]) = true ∧ l.rejected.map (·.entry) = ["plural"] := by
  intro E l
  have laws := load_accepts_consistent E ofKat
  have loaded : ofKat.load = .ok l := load_of_toBool (by decide +kernel)
  obtain ⟨words, forms, -, -, -, rejected, hidden⟩ := laws.2 l loaded
  obtain ⟨w, known⟩ := (words 1).mpr ⟨_, List.mem_singleton_self _, rfl⟩
  refine ⟨loaded, laws.1.mp ⟨l, loaded⟩, forms 1 w known _, (hidden 1 _).mpr ?_, rejected.trans ?_⟩
  · exact ⟨"1,,1,".toList, by decide +kernel, ['1'], by decide +kernel, by decide,
      by decide +kernel⟩
  · decide +kernel

end Conlang.Definition
