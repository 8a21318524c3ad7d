import Conlang.Proofs.Declension.Table
import Conlang.Proofs.RuleSet.Cascade
import Conlang.Proofs.RuleSet.Purging

/-! What deleting leaves.

The lexicon and the rule set refer to one another by ids only, and neither is kept from naming what
the other has not got. So what goes from the lexicon has to go from the rules in the same change. A
part of speech leaves no rule, no paradigm and no hidden form behind; its words stay, but are
refused, and are bare when it is declared again (`TypeDeleted`). A class leaves no value in a word
and no condition in a rule, and with it go all other conditions that are stale (`ClassDeleted`). -/
namespace Conlang
open Std

theorem erase_erase {β : Type} (m : ExtTreeMap Id β) (k : Id) : (m.erase k).erase k = m.erase k :=
  ExtTreeMap.ext_getElem? fun a => by
    simp only [getElem?_erase_id]
    split <;> rfl

/-! ### The lexicon -/

namespace Lexicon
variable {l : Lexicon} {word : Id} {w : Word}

theorem class?_removeClass (l : Lexicon) (k c : Id) :
    (l.removeClass k).class? c = if c = k then none else l.class? c :=
  getElem?_erase_id l.classes k c

theorem word?_removeClass (l : Lexicon) (k id : Id) :
    (l.removeClass k).word? id = (l.word? id).map fun w =>
      { w with classes := w.classes.erase k } :=
  ExtTreeMap.getElem?_map

theorem declaresClassValue_removeClass (l : Lexicon) (k c value : Id) :
    (l.removeClass k).declaresClassValue c value = (c != k && l.declaresClassValue c value) := by
  rw [declaresClassValue, class?_removeClass, declaresClassValue]
  by_cases same : c = k <;> simp [same]

theorem removeClass_removeClass (l : Lexicon) (k : Id) :
    (l.removeClass k).removeClass k = l.removeClass k := by
  have words : (l.words.map fun _ w => { w with classes := w.classes.erase k }).map
      (fun _ w => { w with classes := w.classes.erase k }) =
        l.words.map fun _ w => { w with classes := w.classes.erase k } := by
    refine ExtTreeMap.ext_getElem? fun id => ?_
    simp only [ExtTreeMap.getElem?_map, Option.map_map, Function.comp_def, erase_erase]
  rw [removeClass, removeClass, erase_erase, words]

theorem declinable_of_undeclared (found : l.word? word = some w)
    (undeclared : l.partOfSpeech? w.type = none) :
    l.declinable word = .error (.unknownPartOfSpeech word w.type) := by
  simp [declinable, found, l.declaresPartOfSpeech_eq, undeclared]

theorem declinable_of_declared {p : PartOfSpeech} (found : l.word? word = some w)
    (declared : l.partOfSpeech? w.type = some p) : l.declinable word = .ok w := by
  simp [declinable, found, l.declaresPartOfSpeech_eq, declared]

end Lexicon

/-! ### The rule set -/

namespace RuleSet

/-- The rules, the paradigm and the hidden forms of a part of speech have gone, `n` rules in all;
everything else is as it was. -/
structure Cleared (s s' : RuleSet) (type : Id) (n : Nat) : Prop where
  rules : ∀ t, s'.rulesOf t = if t = type then [] else s.rulesOf t
  paradigms : ∀ t, s'.paradigm? t = if t = type then none else s.paradigm? t
  hidden : ∀ t c, s'.isSuppressed t c = if t = type then false else s.isSuppressed t c
  counted : n = (s.rulesOf type).length
  removed : n + s'.rules.length = s.rules.length
  counters : s'.lastRule = s.lastRule ∧ s'.lastItem = s.lastItem

theorem cleared_clearType (s : RuleSet) (type : Id) :
    s.Cleared (s.clearType type).2 type (s.clearType type).1 where
  rules t := by
    rw [rulesOf, rulesOf, clearType, List.filter_filter]
    split
    · next same =>
      subst same
      exact List.filter_eq_nil_iff.mpr (by simp)
    · next other =>
      refine List.filter_congr fun r _ => ?_
      by_cases ofType : r.type = t <;> simp [ofType, other]
  paradigms := paradigm?_erase rfl
  hidden t c := by
    have released : (s.clearType type).2.isSuppressed t c = true ↔ _ :=
      Suppression.contains_release s.suppressed type t (fun _ => true) c
    rw [Bool.eq_iff_iff, released]
    by_cases same : t = type <;> simp [same, isSuppressed]
  counted := rfl
  removed := (List.length_eq_length_filter_add (l := s.rules) fun r => r.type == type).symm
  counters := ⟨rfl, rfl⟩

namespace Cleared
variable {s s' : RuleSet} {type : Id} {n : Nat} (h : Cleared s s' type n)
include h

theorem rulesFor (t : Id) (c : Combination) :
    s'.rulesFor t c = if t = type then [] else s.rulesFor t c := by
  rw [RuleSet.rulesFor, bucket, h.rules]
  split
  · rfl
  · rfl

theorem forms_eq : s'.forms type = [⟨.ofValues [], ""⟩] := by
  have none : s'.paradigm? type = none := by rw [h.paradigms, if_pos rfl]
  rw [forms, allForms, paradigm, none]
  refine List.filter_eq_self.mpr fun f _ => ?_
  rw [h.hidden, if_pos rfl]
  rfl

theorem forms_of_ne {t : Id} (other : t ≠ type) : s'.forms t = s.forms t := by
  simp only [forms, allForms, paradigm, h.paradigms, h.hidden, if_neg other]

end Cleared

end RuleSet

/-! ### The language -/

namespace Language

def declarePartOfSpeech (l : Language) (p : PartOfSpeech) : Language :=
  { l with lexicon := l.lexicon.addPartOfSpeech p }

section
variable (E : Pattern.Engine)

/-- No form of the word can be had, whether one asks for one or for all. -/
structure Refuses (l : Language) (word : Id) (fault : Declension.Fault) : Prop where
  decline : ∀ c, l.decline E word c = .error fault
  forms : l.forms E word = .error fault

/-- The word stays as it is in every form, and has no form but the one of a part of speech without a
paradigm. -/
structure Bare (l : Language) (word : Id) (w : Word) : Prop where
  decline : ∀ c, l.decline E word c = .ok ⟨w.value, [], []⟩
  combinations : (l.rules.forms w.type).map (·.combination.text) = [","]
  forms : l.forms E word = .ok [⟨⟨.ofValues [], ""⟩, w.value, []⟩]

/-- The part of speech has gone with `n` rules and all else that was kept for it. Its words can not
be formed, and are bare once it is declared again under whatever name; other words have the forms
that they had. -/
structure TypeDeleted (l l' : Language) (type : Id) (n : Nat) : Prop where
  rules : l.rules.Cleared l'.rules type n
  declared : ∀ t, l'.lexicon.partOfSpeech? t = if t = type then none else l.lexicon.partOfSpeech? t
  lexicon : l'.lexicon = { l.lexicon with partsOfSpeech := l'.lexicon.partsOfSpeech }
  rest : l' = { l with lexicon := l'.lexicon, rules := l'.rules }
  refused : ∀ word w, l.lexicon.word? word = some w → w.type = type →
    l'.Refuses E word (.unknownPartOfSpeech word type)
  bare : ∀ word w name, l.lexicon.word? word = some w → w.type = type →
    (l'.declarePartOfSpeech ⟨type, name⟩).Bare E word w
  others : ∀ word w, l.lexicon.word? word = some w → w.type ≠ type →
    (∀ c, l'.decline E word c = l.decline E word c) ∧ l'.forms E word = l.forms E word

end

/-- The class has gone. No word has a value in it. Rules keep just the conditions that name a value
which is still declared, and `n` is how many they have lost; nothing else is changed, and nothing is
left to be deleted. -/
structure ClassDeleted (l l' : Language) (k : Id) (n : Nat) : Prop where
  declared : ∀ c, l'.lexicon.class? c = if c = k then none else l.lexicon.class? c
  words : ∀ word, l'.lexicon.word? word =
    (l.lexicon.word? word).map fun w => { w with classes := w.classes.erase k }
  bare : ∀ word w, l'.lexicon.word? word = some w → w.classes[k]? = none
  partsOfSpeech : l'.lexicon.partsOfSpeech = l.lexicon.partsOfSpeech
  trimmed : List.Forall₂ (Rule.Trimmed fun c => l'.lexicon.declaresClassValue c.wordClass c.value)
    l.rules.rules l'.rules.rules
  current : ∀ r ∈ l'.rules.rules, ∀ c ∈ r.content.conditions,
    c.wordClass ≠ k ∧ l.lexicon.declaresClassValue c.wordClass c.value = true
  counted : n + l'.rules.conditions.length = l.rules.conditions.length
  rules : l'.rules = { l.rules with rules := l'.rules.rules }
  rest : l' = { l with lexicon := l'.lexicon, rules := l'.rules }
  again : l'.deleteClass k = (0, l')

section
variable {E : Pattern.Engine} {l l' : Language} {word : Id} {w : Word} {fault : Declension.Fault}

theorem shown_eq (l : Language) (type : Id) : l.shown type = l.rules.forms type := rfl

theorem refuses_of_declinable (found : l.lexicon.word? word = some w)
    (refused : l.lexicon.declinable word = .error fault) (any : l.rules.forms w.type ≠ []) :
    l.Refuses E word fault := by
  have each (c : Combination) : l.decline E word c = .error fault :=
    RuleSet.declineTraced_error refused
  refine ⟨each, ?_⟩
  rw [forms_of_word E found, shown_eq]
  exact rows_refused E each any

theorem bare_of_declinable (found : l.lexicon.word? word = some w)
    (known : l.lexicon.declinable word = .ok w) (ruleless : ∀ c, l.rules.rulesFor w.type c = [])
    (only : l.rules.forms w.type = [⟨.ofValues [], ""⟩]) :
    l.Bare E word w := by
  have each (c : Combination) : l.decline E word c = .ok ⟨w.value, [], []⟩ := by
    refine (RuleSet.declineTraced_ok known).trans ?_
    rw [ruleless]
    rfl
  refine ⟨each, ?_, ?_⟩
  · rw [only]
    rfl
  · rw [forms_of_word E found, shown_eq, only, List.mapM_cons, declineForm, each]
    rfl

/-- A form depends on nothing but the word, its part of speech, the classes and the rules of the
form. -/
theorem decline_congr {c : Combination} (found : l.lexicon.word? word = some w)
    (found' : l'.lexicon.word? word = some w)
    (declared : l'.lexicon.partOfSpeech? w.type = l.lexicon.partOfSpeech? w.type)
    (classes : l'.lexicon.classes = l.lexicon.classes)
    (rules : l'.rules.rulesFor w.type c = l.rules.rulesFor w.type c) :
    l'.decline E word c = l.decline E word c := by
  rw [decline, decline, RuleSet.decline, RuleSet.decline]
  cases here : l.lexicon.partOfSpeech? w.type with
  | none =>
    rw [RuleSet.declineTraced_error (Lexicon.declinable_of_undeclared found here),
      RuleSet.declineTraced_error (Lexicon.declinable_of_undeclared found' (declared.trans here))]
  | some p =>
    rw [RuleSet.declineTraced_ok (Lexicon.declinable_of_declared found here),
      RuleSet.declineTraced_ok (Lexicon.declinable_of_declared found' (declared.trans here)),
      classes, rules]

/-- Equal forms make equal tables. -/
theorem forms_congr (found : l.lexicon.word? word = some w)
    (found' : l'.lexicon.word? word = some w) (each : ∀ c, l'.decline E word c = l.decline E word c)
    (same : l'.rules.forms w.type = l.rules.forms w.type) :
    l'.forms E word = l.forms E word := by
  have rows : l'.declineForm E word = l.declineForm E word := funext fun f => by
    rw [declineForm, declineForm, each]
  rw [forms_of_word E found, forms_of_word E found', shown_eq, shown_eq, same, rows]

end

theorem typeDeleted (E : Pattern.Engine) (l : Language) (type : Id) :
    l.TypeDeleted E (l.deletePartOfSpeech type).2 type (l.deletePartOfSpeech type).1 := by
  have cleared :
      l.rules.Cleared (l.deletePartOfSpeech type).2.rules type (l.deletePartOfSpeech type).1 :=
    RuleSet.cleared_clearType l.rules type
  have declared (t : Id) : (l.deletePartOfSpeech type).2.lexicon.partOfSpeech? t =
      if t = type then none else l.lexicon.partOfSpeech? t :=
        getElem?_erase_id l.lexicon.partsOfSpeech type t
  refine ⟨cleared, declared, rfl, rfl, ?_, ?_, ?_⟩
  · rintro word w found rfl
    refine refuses_of_declinable found (Lexicon.declinable_of_undeclared found ?_) ?_
    · rw [declared, if_pos rfl]
    · rw [cleared.forms_eq]
      exact List.cons_ne_nil _ _
  · rintro word w name found rfl
    refine bare_of_declinable found (Lexicon.declinable_of_declared found (p := ⟨w.type, name⟩) ?_)
      ?_ cleared.forms_eq
    · exact ExtTreeMap.getElem?_insert_self
    · intro c
      exact (cleared.rulesFor w.type c).trans (if_pos rfl)
  · intro word w found other
    have each (c : Combination) : (l.deletePartOfSpeech type).2.decline E word c =
        l.decline E word c := by
      refine decline_congr found found ((declared w.type).trans (if_neg other)) rfl ?_
      rw [cleared.rulesFor, if_neg other]
    exact ⟨each, forms_congr found found each (cleared.forms_of_ne other)⟩

theorem classDeleted (l : Language) (k : Id) :
    l.ClassDeleted (l.deleteClass k).2 k (l.deleteClass k).1 where
  declared := Lexicon.class?_removeClass l.lexicon k
  words := Lexicon.word?_removeClass l.lexicon k
  bare word w found := by
    have kept := (Lexicon.word?_removeClass l.lexicon k word).symm.trans found
    obtain ⟨w, -, rfl⟩ := Option.map_eq_some_iff.mp kept
    exact ExtTreeMap.getElem?_erase_self
  partsOfSpeech := rfl
  trimmed := RuleSet.trimmed_purge l.rules (l.lexicon.removeClass k)
  current r hr c hc := by
    have current := RuleSet.countStale_eq_zero_iff.mp
      (RuleSet.countStale_purge l.rules (l.lexicon.removeClass k)) r hr c hc
    rw [RuleSet.isCurrent, Lexicon.declaresClassValue_removeClass] at current
    simpa using current
  counted := RuleSet.countStale_add l.rules (l.lexicon.removeClass k)
  rules := rfl
  rest := rfl
  again := by
    have lexicon := Lexicon.removeClass_removeClass l.lexicon k
    have count := RuleSet.countStale_purge l.rules (l.lexicon.removeClass k)
    have rules := RuleSet.purge_purge l.rules (l.lexicon.removeClass k)
    simp only [deleteClass, lexicon, count, rules]

/-- **Deleting leaves nothing dangling.** A part of speech takes its rules, its paradigm and its
hidden forms with it, and the rules are counted; other parts of speech are as they were. From then
on its words are refused, and once it is declared again they are bare. A class takes its values from
words and its conditions from rules, and all other stale conditions with these, and the conditions
are counted; the rest of each rule is as it was, and deleting the class once more changes
nothing. -/
theorem deleting_leaves_nothing_dangling (E : Pattern.Engine) (l : Language) (type wordClass : Id) :
    l.TypeDeleted E (l.deletePartOfSpeech type).2 type (l.deletePartOfSpeech type).1 ∧
      l.ClassDeleted (l.deleteClass wordClass).2 wordClass (l.deleteClass wordClass).1 :=
  ⟨typeDeleted E l type, classDeleted l wordClass⟩

/-- Of three conditions, one names the class, one a class that was never declared, and one a value
that stays. -/
example :
    let gender : WordClass := { id := 4, name := "gender", values := [⟨1, "feminine"⟩] }
    let animacy : WordClass := { id := 5, name := "animacy", values := [⟨2, "animate"⟩] }
    let l : Language := {
      lexicon := (Lexicon.empty.addClass gender).addClass animacy
      rules :=
        RuleSet.empty.add 1 (.ofValues [])
        { conditions := [⟨4, 1, false⟩, ⟨9, 1, false⟩, ⟨5, 2, true⟩] } }
    (l.deleteClass 4).1 = 2 ∧ (l.deleteClass 4).2.rules.conditions = [⟨5, 2, true⟩] := by
  decide

end Language

end Conlang
