import Conlang.Language

/-! What is wrong with a language.

Patterns that do not compile, rules of forms that are not declared, and entries of hidden forms that
could not be read are passed over in use; `problems` finds them. -/
namespace Conlang
namespace Report

section
variable (E : Pattern.Engine)

/-- The error of a pattern that does not compile. -/
def patternError? (p : Pattern) : Option Pattern.Error :=
  match p.compile E with
  | .ok _ => none
  | .error e => some e

def ruleProblems (p : PartOfSpeech) (r : Rule) : List String :=
  let rule := s!"{p.name} rule {r.content.name}"
  ((patternError? E r.content.gate).map fun e => s!"{rule} gate: {e.message}").toList
    ++ r.content.transforms.zipIdx.filterMap fun (t, place) =>
      (patternError? E t.pattern).map fun e => s!"{rule} transform {place + 1}: {e.message}"

def deprecationProblem (p : PartOfSpeech) (r : Rule) : String :=
  s!"{p.name} rule {r.content.name} targets {r.combination.text}, which the template no longer declares"

def partOfSpeechProblems (s : RuleSet) (p : PartOfSpeech) : List String :=
  (s.rulesOf p.id).flatMap (ruleProblems E p) ++ (s.deprecated p.id).map (deprecationProblem p)

def soundProblems (label : String) (p : Phonology) : List String :=
  p.rules.zipIdx.filterMap fun (r, place) =>
    (patternError? E r.pattern).map fun e => s!"{label} rule {place + 1}: {e.message}"

def problems (l : Language) : List String :=
  l.rejected.map (·.message)
    ++ l.lexicon.partsOfSpeech.values.flatMap (partOfSpeechProblems E l.rules)
    ++ soundProblems E "pronunciation" l.pronunciation
    ++ soundProblems E "romanization" l.romanizer.phonology

/-- The rules of the parts of speech that are declared. -/
def ruleCount (l : Language) : Nat :=
  (l.lexicon.partsOfSpeech.values.flatMap fun p => l.rules.rulesOf p.id).length

def validate (l : Language) : String :=
  let found := problems E l
  s!"{l.lexicon.partsOfSpeech.size} parts of speech, {l.lexicon.words.size} words, "
    ++ s!"{ruleCount l} conjugation rules, {l.pronunciation.rules.length} pronunciation rules\n"
    ++ if found.isEmpty then "OK\n"
      else String.join (found.map fun p => s!"  ! {p}\n") ++ s!"{found.length} problems\n"

end

end Report

end Conlang
