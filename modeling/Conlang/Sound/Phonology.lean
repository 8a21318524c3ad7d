import Conlang.Substitution
import Conlang.Sound.Syllable
import Conlang.Text.Blank
import Conlang.Text.Literal

/-! Sound rules, and saying a text by them.

A word goes through the rules in order. Where recursion is on, a rule that looks around and changes
the word starts full passes over all rules, until one changes nothing or the allowed passes are used
up. Where patterns are off, rules replace their text literally. The result may be composed of
syllables; a word that can not be is not said, and then the whole text is not. -/
namespace Conlang
open Text

structure Phonology where
  rules : List Substitution := []
  literal : Bool := false
  recursion : Bool := false
  composition : Bool := false
  /-- Counts only where rules are literal. -/
  ignoreCase : Bool := false
  syllables : SyllableGrammar := {}

namespace Phonology

def empty : Phonology := {}

def looksAround (p : Phonology) : Bool := p.rules.any (·.pattern.looksAround)

/-! ### The row of rules -/

def add (p : Phonology) (r : Substitution) : Phonology := { p with rules := p.rules ++ [r] }

/-- Puts a rule at a place, or at the end when there are not so many rules. -/
def insert (p : Phonology) (place : Nat) (r : Substitution) : Phonology :=
  { p with rules := p.rules.take place ++ r :: p.rules.drop place }

def clear (p : Phonology) : Phonology := { p with rules := [] }

def delete (p : Phonology) (place : Nat) : Phonology := { p with rules := p.rules.eraseIdx place }

/-- Exchanges a rule with the one behind it, if both are there. -/
def swap? (p : Phonology) (place : Nat) : Option Phonology :=
  match p.rules[place]?, p.rules[place + 1]? with
  | some r, some s => some { p with rules := (p.rules.set place s).set (place + 1) r }
  | _, _ => none

def moveUp? (p : Phonology) (place : Nat) : Option Phonology :=
  if place = 0 then none else p.swap? (place - 1)

def moveDown? (p : Phonology) (place : Nat) : Option Phonology := p.swap? place

def edit (p : Phonology) (place : Nat) (pattern replacement : Option String) : Phonology :=
  { p with
    rules := p.rules.modify place fun r =>
      ⟨{ r.pattern with source := pattern.getD r.pattern.source }, replacement.getD r.replacement⟩ }

/-! ### Changing a word -/

inductive Diagnostic where
  | skipped (place : Nat) (error : Pattern.Error)
  | stillChanging (word : String) (passes : Nat)
  | noSyllables (word transformed : String)
  deriving Repr, DecidableEq

def Diagnostic.message : Diagnostic → String
  | .skipped place error => s!"rule {place + 1} skipped: {error.message}"
  | .stillChanging word passes =>
      s!"\"{word}\": rules still changing after {passes} recursive passes"
  | .noSyllables word transformed =>
      s!"\"{word}\" (as \"{transformed}\") cannot be split into syllables"

/-- A word on its way through the rules, and what went wrong so far. -/
structure Progress where
  value : String
  diagnostics : List Diagnostic := []
  deriving Repr, DecidableEq

def Diagnostic.concerns (place : Nat) : Diagnostic → Bool
  | .skipped q _ => q == place
  | _ => false

/-- Of each rule the first failure in a word is kept. -/
def Progress.fail (q : Progress) (place : Nat) (error : Pattern.Error) : Progress :=
  if q.diagnostics.any (·.concerns place) then q
  else { q with diagnostics := q.diagnostics ++ [.skipped place error] }

section
variable (E : Pattern.Engine)

/-- Applies a rule; one that is blank or fails leaves the word as it is. -/
def applyRule (q : Progress) (r : Substitution) (place : Nat) : Progress :=
  if r.pattern.isEmpty then q
  else
    match r.pattern.replaceAll E r.replacement q.value with
    | .ok value => { q with value }
    | .error e => q.fail place e

/-- Applies all rules in order. -/
def pass (p : Phonology) (q : Progress) : Progress :=
  p.rules.zipIdx.foldl (fun q (r, place) => applyRule E q r place) q

/-- Passes over all rules until one changes nothing, or `left` of them are done. -/
def rescan (p : Phonology) (word : String) (passes : Nat) : (left : Nat) → Progress → Progress
  | 0, q => { q with diagnostics := q.diagnostics ++ [.stillChanging word passes] }
  | left + 1, q =>
    let next := p.pass E q
    if next.value = q.value then next else rescan p word passes left next

def step (p : Phonology) (word : String) (passes : Nat) (q : Progress) (r : Substitution)
    (place : Nat) :
    Progress :=
  let next := applyRule E q r place
  if next.value != q.value && p.recursion && r.pattern.looksAround then
    p.rescan E word passes passes next
  else next

/-- What the rules make of a word. -/
def transform (p : Phonology) (passes : Nat) (word : String) : Progress :=
  if p.literal then
    ⟨p.rules.foldl
      (fun w r => replaceLiteral r.pattern.source r.replacement p.ignoreCase w) word, []⟩
  else p.rules.zipIdx.foldl (fun q (r, place) => p.step E word passes q r place) ⟨word, []⟩

/-! ### Saying a text -/

structure Pronunciation where
  /-- Empty when a word could not be composed of syllables. -/
  value : String
  diagnostics : List Diagnostic
  deriving Repr, DecidableEq

/-- What is said for a word, if it can be said. -/
def sayWord (p : Phonology) (passes : Nat) (separator word : String) :
    Option String × List Diagnostic :=
  let q := p.transform E passes word
  if p.composition then
    match p.syllables.split q.value separator with
    | some value => (some value, q.diagnostics)
    | none => (none, q.diagnostics ++ [.noSyllables word q.value])
  else (some q.value, q.diagnostics)

def sayRun (p : Phonology) (passes : Nat) (separator : String) (r : Run) :
    Option String × List Diagnostic :=
  if r.blank then (some r.text, []) else p.sayWord E passes separator r.text

/-- Says run after run, up to the first that can not be said. -/
def sayRuns (p : Phonology) (passes : Nat) (separator : String) :
    List Run → Option String × List Diagnostic
  | [] => (some "", [])
  | r :: rest =>
    match p.sayRun E passes separator r with
    | (none, ds) => (none, ds)
    | (some value, ds) =>
      let (more, ds') := sayRuns p passes separator rest
      (more.map (value ++ ·), ds ++ ds')

/-- Says a text word by word; the blanks between words stay. -/
def pronounce (p : Phonology) (passes : Nat) (separator text : String) : Pronunciation :=
  let (value, ds) := p.sayRuns E passes separator (runs text)
  ⟨value.getD "", ds⟩

end

end Phonology

/-! ### Romanization -/

/-- Rules that write a text in Latin letters, which may be switched off. -/
structure Romanizer where
  phonology : Phonology := {}
  enabled : Bool := false

/-- A text stays as it is while the romanizer is off. -/
def Romanizer.romanize (E : Pattern.Engine) (r : Romanizer) (passes : Nat)
    (separator text : String) :
    Phonology.Pronunciation :=
  if r.enabled then r.phonology.pronounce E passes separator text else ⟨text, []⟩

end Conlang
