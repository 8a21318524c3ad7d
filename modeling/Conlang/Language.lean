import Conlang.Inflection.Declension
import Conlang.Sound.Phonology

/-! A language: its words, its rules of inflection and its sound rules, kept together.

Deleting a part of speech or a class takes along what depends on it. -/
namespace Conlang

structure Language where
  lexicon : Lexicon := {}
  rules : RuleSet := {}
  pronunciation : Phonology := {}
  romanizer : Romanizer := {}
  /-- Entries of hidden forms that could not be read. -/
  rejected : List Suppression.Rejected := []

/-- A form of a word with its name. -/
structure DeclinedForm where
  form : Form
  value : String
  diagnostics : List Declension.Diagnostic
  deriving DecidableEq

/-- All that is to be said about how a word gets one of its forms. -/
structure Explanation where
  word : Id
  base : String
  combination : Combination
  /-- How the form is called, if the paradigm declares it. -/
  label : Option String
  suppressed : Bool
  declension : Declension
  deriving DecidableEq

namespace Language

def empty : Language := {}

/-! ### Forms -/

section
variable (E : Pattern.Engine)

def decline (l : Language) (word : Id) (c : Combination) : Except Declension.Fault Declension :=
  l.rules.decline E l.lexicon word c

def declineForm (l : Language) (word : Id) (f : Form) : Except Declension.Fault DeclinedForm := do
  let d ← l.decline E word f.combination
  .ok ⟨f, d.value, d.diagnostics⟩

def lookUp (l : Language) (word : Id) : Except Declension.Fault Word :=
  match l.lexicon.word? word with
  | some w => .ok w
  | none => .error (.missingWord word)

/-- The forms of a word that are not hidden, in the order of the paradigm. -/
def forms (l : Language) (word : Id) : Except Declension.Fault (List DeclinedForm) := do
  let w ← l.lookUp word
  (l.rules.forms w.type).mapM (l.declineForm E word)

def explain (l : Language) (word : Id) (c : Combination) : Except Declension.Fault Explanation := do
  let declension ← l.decline E word c
  let w ← l.lookUp word
  .ok ⟨word, w.value, c, l.rules.label? w.type c, l.rules.isSuppressed w.type c, declension⟩

/-! ### Sound -/

def pronunciationOf (l : Language) (passes : Nat) (separator : String) (word : Id) :
    Except Declension.Fault Phonology.Pronunciation := do
  .ok (l.pronunciation.pronounce E passes separator (← l.lookUp word).value)

def romanizationOf (l : Language) (passes : Nat) (separator : String) (word : Id) :
    Except Declension.Fault Phonology.Pronunciation := do
  .ok (l.romanizer.romanize E passes separator (← l.lookUp word).value)

end

/-! ### Deleting

Each change answers with the number of rules, or of conditions, that went with it. -/

/-- Words of the part of speech stay, but have no forms any more. -/
def deletePartOfSpeech (l : Language) (type : Id) : Nat × Language :=
  let (count, rules) := l.rules.clearType type
  (count, { l with lexicon := l.lexicon.removePartOfSpeech type, rules })

def deleteClass (l : Language) (wordClass : Id) : Nat × Language :=
  let lexicon := l.lexicon.removeClass wordClass
  (l.rules.countStale lexicon, { l with lexicon, rules := l.rules.purge lexicon })

end Language

end Conlang
