import Conlang.Definition.Basic
import Conlang.Language

/-! From a definition to a language.

Loading refuses a definition that gives an id twice, that refers to something which it does not
declare, or whose combinations or syllable templates are malformed. The first such place decides, in
the order: parts of speech, classes, words, dimensions, extra forms, rules, syllables. Hidden forms
that are malformed are left out and reported. -/
namespace Conlang
namespace Definition

/-- What an id stands for. -/
inductive Kind where
  | partOfSpeech
  | wordClass
  | classValue
  | word
  deriving Repr, DecidableEq

def Kind.text : Kind → String
  | .partOfSpeech => "part of speech"
  | .wordClass => "class"
  | .classValue => "class value"
  | .word => "word"

/-- The entry that a fault is in. -/
inductive Place where
  | wordClass (name : String)
  | word (value : String)
  | dimension (label : String)
  | extra (label : String)
  | rule (name : String)
  deriving Repr, DecidableEq

def Place.text : Place → String
  | .wordClass name => s!"class \"{name}\""
  | .word value => s!"word \"{value}\""
  | .dimension label => s!"dimension \"{label}\""
  | .extra label => s!"extra form \"{label}\""
  | .rule name => s!"rule \"{name}\""

inductive Fault where
  | toml (fault : Toml.Fault)
  | repeatedId (kind : Kind) (id : Id)
  | unknownPartOfSpeech (place : Place) (type : Id)
  | unknownClassValue (place : Place) (wordClass value : Id)
  | combination (place : Place) (malformed : Combination.Malformed)
  | paradigm (type : Id) (fault : RuleSet.Fault)
  | categoryLetter (key : String)
  | template (fault : SyllableTemplate.Fault)
  deriving Repr, DecidableEq

def Fault.message : Fault → String
  | .toml fault => fault.message
  | .repeatedId kind id => s!"duplicate {kind.text} id {id}"
  | .unknownPartOfSpeech place type => s!"{place.text} refers to unknown part of speech {type}"
  | .unknownClassValue place wordClass value =>
    s!"{place.text} refers to unknown class value {wordClass}:{value}"
  | .combination place malformed => s!"{place.text}: {malformed.message}"
  | .paradigm type fault => s!"part of speech {type}: {fault.message}"
  | .categoryLetter key => s!"syllable category \"{key}\" must be a single character"
  | .template fault => fault.message

/-! ### Checks -/

/-- No id may come twice. -/
def checkDistinct (kind : Kind) (seen : List Id) : List Id → Except Fault Unit
  | [] => .ok ()
  | id :: rest =>
    if seen.contains id then .error (.repeatedId kind id) else checkDistinct kind (id :: seen) rest

def requireType (l : Lexicon) (place : Place) (type : Id) : Except Fault Unit :=
  if l.declaresPartOfSpeech type then .ok () else .error (.unknownPartOfSpeech place type)

def requireClass (l : Lexicon) (place : Place) (c : ClassEntry) : Except Fault Unit :=
  if l.declaresClassValue c.wordClass c.value then .ok ()
  else .error (.unknownClassValue place c.wordClass c.value)

/-! ### The lexicon -/

def loadClass (l : Lexicon) (c : WordClass) : Except Fault Lexicon := do
  checkDistinct .classValue [] (c.values.map (·.id))
  c.appliesTo.forM (requireType l (.wordClass c.name))
  return l.addClass c

def loadWord (l : Lexicon) (w : WordEntry) : Except Fault Lexicon := do
  requireType l (.word w.value) w.type
  w.classes.forM (requireClass l (.word w.value))
  return l.addWord (w.classes.foldl (fun entry c => entry.withClassValue c.wordClass c.value)
    { id := w.id, value := w.value, type := w.type })

def loadLexicon (d : Definition) : Except Fault Lexicon := do
  checkDistinct .partOfSpeech [] (d.partsOfSpeech.map (·.id))
  let l := d.partsOfSpeech.foldl Lexicon.addPartOfSpeech {}
  checkDistinct .wordClass [] (d.classes.map (·.id))
  let l ← d.classes.foldlM loadClass l
  checkDistinct .word [] (d.words.map (·.id))
  d.words.foldlM loadWord l

/-! ### The rules of inflection -/

def loadDimension (l : Lexicon) (s : RuleSet) (e : DimensionEntry) : Except Fault RuleSet := do
  requireType l (.dimension e.dimension.label) e.type
  match s.insertDimension e.type e.dimension with
  | (.ok (), s) => .ok s
  | (.error fault, _) => .error (.paradigm e.type fault)

def loadExtra (l : Lexicon) (s : RuleSet) (e : ExtraEntry) : Except Fault RuleSet := do
  requireType l (.extra e.form.label) e.type
  (s.insertExtra e.type e.form).mapError (.paradigm e.type)

/-- The pattern of a step is looked for anywhere. -/
def StepEntry.substitution (e : StepEntry) : Substitution := .ofTexts e.pattern e.replacement

def loadRule (l : Lexicon) (s : RuleSet) (e : RuleEntry) : Except Fault RuleSet := do
  requireType l (.rule e.name) e.type
  let c ← (Combination.parse e.combination).mapError (.combination (.rule e.name))
  e.classes.forM (requireClass l (.rule e.name))
  let content :=
    e.classes.foldl (fun content c => content.addCondition ⟨c.wordClass, c.value, c.negated⟩)
    ({ name := e.name, transforms := e.transforms.map (·.substitution) } : RuleContent)
  return s.add e.type c (content.setGate e.gate)

def loadRules (d : Definition) (l : Lexicon) :
    Except Fault (RuleSet × List Suppression.Rejected) := do
  let s ← d.dimensions.foldlM (loadDimension l) {}
  let s ← d.extras.foldlM (loadExtra l) s
  let s ← d.rules.foldlM (loadRule l) s
  return s.loadSuppressed d.suppressed

/-! ### Sound -/

def loadSound (e : SoundEntry) : Phonology :=
  { rules := e.rules.map (·.substitution), literal := e.literal, recursion := e.recursion,
    composition := e.composition, ignoreCase := e.ignoreCase }

def loadCategory (g : SyllableGrammar) (category : String × List String) :
    Except Fault SyllableGrammar :=
  match category.1.toList with
  | [letter] => .ok (g.addCategory letter category.2)
  | _ => .error (.categoryLetter category.1)

/-- Categories are taken in the order of their keys. -/
def loadSyllables (e : SyllablesEntry) : Except Fault SyllableGrammar := do
  let g ← (sortBy (fun a b => a.1 ≤ b.1) e.categories).foldlM loadCategory {}
  let g ← (e.templates.foldlM SyllableGrammar.addTemplate g).mapError .template
  return e.clusters.foldl SyllableGrammar.addCluster g

def load (d : Definition) : Except Fault Language := do
  let lexicon ← d.loadLexicon
  let (rules, rejected) ← d.loadRules lexicon
  let syllables ← loadSyllables d.syllables
  return {
    lexicon
    rules
    pronunciation := { loadSound d.pronunciation with syllables }
    romanizer := ⟨loadSound d.romanization, d.romanizationEnabled⟩
    rejected }

end Definition

/-- The language that a TOML document defines. -/
def Language.ofToml (text : String) : Except Definition.Fault Language := do
  let d ← (Definition.ofToml text).mapError .toml
  d.load

end Conlang
