import Conlang.Inflection.Rule
import Conlang.Toml.Decode
import Conlang.Toml.Reader

/-! A language as it is written down.

A definition lists parts of speech, classes, words, dimensions, extra forms, rules, hidden forms,
sound rules and the make-up of syllables. Nothing is checked yet beyond the kind of each value. -/
namespace Conlang
open Toml

namespace Definition

/-- A word's value in a class, or a rule's condition on one. -/
structure ClassEntry where
  wordClass : Id
  value : Id
  negated : Bool
  deriving Repr, DecidableEq

structure WordEntry where
  id : Id
  value : String
  type : Id
  classes : List ClassEntry
  deriving Repr, DecidableEq

structure DimensionEntry where
  type : Id
  dimension : Dimension
  deriving Repr, DecidableEq

structure ExtraEntry where
  type : Id
  form : ExtraForm
  deriving Repr, DecidableEq

/-- A step of a rule, or a sound rule. -/
structure StepEntry where
  pattern : String
  replacement : String
  deriving Repr, DecidableEq

structure RuleEntry where
  type : Id
  combination : String
  name : String
  gate : String
  classes : List ClassEntry
  transforms : List StepEntry
  deriving Repr, DecidableEq

structure SoundEntry where
  literal : Bool := false
  recursion : Bool := false
  composition : Bool := false
  ignoreCase : Bool := false
  rules : List StepEntry := []
  deriving Repr, DecidableEq

structure SyllablesEntry where
  /-- Every category with its members; the key should be one letter. -/
  categories : List (String × List String) := []
  templates : List String := []
  clusters : List String := []
  deriving Repr, DecidableEq

end Definition

structure Definition where
  partsOfSpeech : List PartOfSpeech
  classes : List WordClass
  words : List Definition.WordEntry
  dimensions : List Definition.DimensionEntry
  extras : List Definition.ExtraEntry
  rules : List Definition.RuleEntry
  suppressed : String
  pronunciation : Definition.SoundEntry
  romanization : Definition.SoundEntry
  romanizationEnabled : Bool
  syllables : Definition.SyllablesEntry
  deriving Repr, DecidableEq

namespace Definition

/-! ### Entries -/

def partOfSpeech : Decoder PartOfSpeech := fun v => do
  let f ← Fields.ofRecord ["id", "name"] v
  return ⟨← f.get "id" Decode.id, ← f.get "name" Decode.string⟩

def classValue : Decoder ClassValue := fun v => do
  let f ← Fields.ofRecord ["id", "name"] v
  return ⟨← f.get "id" Decode.id, ← f.get "name" Decode.string⟩

def wordClass : Decoder WordClass := fun v => do
  let f ← Fields.ofRecord ["id", "name", "applies_to", "values"] v
  return ⟨← f.get "id" Decode.id, ← f.get "name" Decode.string,
    ← f.getD "applies_to" (Decode.list Decode.id) [], ← f.getD "values" (Decode.list classValue) []⟩

def classEntry : Decoder ClassEntry := fun v => do
  let f ← Fields.ofRecord ["class", "value", "negated"] v
  return ⟨← f.get "class" Decode.id, ← f.get "value" Decode.id,
    ← f.getD "negated" Decode.boolean false⟩

def wordEntry : Decoder WordEntry := fun v => do
  let f ← Fields.ofRecord ["id", "value", "type", "classes"] v
  return ⟨← f.get "id" Decode.id, ← f.get "value" Decode.string, ← f.get "type" Decode.id,
    ← f.getD "classes" (Decode.list classEntry) []⟩

def dimensionValue : Decoder DimensionValue := fun v => do
  let f ← Fields.ofRecord ["id", "label"] v
  return ⟨← f.get "id" Decode.id, ← f.get "label" Decode.string⟩

def dimensionEntry : Decoder DimensionEntry := fun v => do
  let f ← Fields.ofRecord ["type", "id", "label", "values"] v
  return ⟨← f.get "type" Decode.id, ← f.get "id" Decode.id, ← f.get "label" Decode.string,
    ← f.getD "values" (Decode.list dimensionValue) []⟩

def extraEntry : Decoder ExtraEntry := fun v => do
  let f ← Fields.ofRecord ["type", "id", "label"] v
  return ⟨← f.get "type" Decode.id, ← f.get "id" Decode.id, ← f.get "label" Decode.string⟩

def stepNames : List String := ["pattern", "replacement"]

def stepEntryOf (f : Fields) : Except Toml.Fault StepEntry := do
  return ⟨← f.get "pattern" Decode.string, ← f.getD "replacement" Decode.string ""⟩

def stepEntry : Decoder StepEntry := fun v => Fields.ofRecord stepNames v >>= stepEntryOf

/-- A step that must not be given more than its two fields. -/
def closedStepEntry :
    Decoder StepEntry := fun v => Fields.ofClosedRecord stepNames v >>= stepEntryOf

def ruleEntry : Decoder RuleEntry := fun v => do
  let f ← Fields.ofRecord ["type", "combination", "name", "gate", "classes", "transforms"] v
  return ⟨← f.get "type" Decode.id, ← f.get "combination" Decode.string,
    ← f.getD "name" Decode.string "", ← f.getD "gate" Decode.string "",
    ← f.getD "classes" (Decode.list classEntry) [],
    ← f.getD "transforms" (Decode.list stepEntry) []⟩

def soundEntryOf (step : Decoder StepEntry) (f : Fields) : Except Toml.Fault SoundEntry := do
  return ⟨← f.getD "regex_disabled" Decode.boolean false, ← f.getD "recursion" Decode.boolean false,
    ← f.getD "syllable_composition" Decode.boolean false,
    ← f.getD "ignore_case" Decode.boolean false,
    ← f.getD "rules" (Decode.list step) []⟩

def soundEntry : Decoder SoundEntry := fun v => do
  soundEntryOf stepEntry (← Fields.ofRecord
    ["regex_disabled", "recursion", "syllable_composition", "ignore_case", "rules"] v)

/-- The sound rules of the romanization, and whether it is on; they are given as a table only. -/
def romanizationEntry : Decoder (SoundEntry × Bool) := fun v => do
  let f ← Fields.ofTable v
  return (← soundEntryOf closedStepEntry f, ← f.getD "enabled" Decode.boolean false)

def syllablesEntry : Decoder SyllablesEntry := fun v => do
  let f ← Fields.ofRecord ["categories", "templates", "illegal_clusters"] v
  let texts := Decode.list Decode.string
  return ⟨← f.getD "categories" (Decode.map texts) [], ← f.getD "templates" texts [],
    ← f.getD "illegal_clusters" texts []⟩

/-! ### Documents -/

def decode (f : Fields) : Except Toml.Fault Definition := do
  let (romanization, romanizationEnabled) ← f.getD "romanization" romanizationEntry ({}, false)
  return {
    partsOfSpeech := ← f.getD "parts_of_speech" (Decode.list partOfSpeech) []
    classes := ← f.getD "classes" (Decode.list wordClass) []
    words := ← f.getD "words" (Decode.list wordEntry) []
    dimensions := ← f.getD "dimensions" (Decode.list dimensionEntry) []
    extras := ← f.getD "extra_forms" (Decode.list extraEntry) []
    rules := ← f.getD "rules" (Decode.list ruleEntry) []
    suppressed := ← f.getD "suppressed" Decode.string ""
    pronunciation := ← f.getD "pronunciation" soundEntry {}
    romanization
    romanizationEnabled
    syllables := ← f.getD "syllables" syllablesEntry {} }

def ofToml (text : String) : Except Toml.Fault Definition := do
  decode (← Fields.ofTable (.table (← Toml.read text)))

end Definition

end Conlang
