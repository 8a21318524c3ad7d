import Std.Data.ExtTreeMap

/-! The words of a language, its parts of speech and its word classes.

Everything goes by an id, and listings are in the order of ids. A word keeps its part of speech and
its class values as ids; nothing says that these are declared, so the lexicon answers whether they
are. -/
namespace Conlang
open Std

/-- Ids of words, parts of speech, classes and of what a paradigm declares. -/
abbrev Id := UInt32

structure Word where
  id : Id
  value : String
  type : Id
  /-- The value that the word has in each class. -/
  classes : ExtTreeMap Id Id := ∅

structure PartOfSpeech where
  id : Id
  name : String
  deriving Repr, DecidableEq

structure ClassValue where
  id : Id
  name : String
  deriving Repr, DecidableEq

/-- A class of words, such as gender or animacy. -/
structure WordClass where
  id : Id
  name : String
  /-- The parts of speech that the class applies to; none named means every one. -/
  appliesTo : List Id := []
  values : List ClassValue := []
  deriving Repr, DecidableEq

structure Lexicon where
  partsOfSpeech : ExtTreeMap Id PartOfSpeech := ∅
  classes : ExtTreeMap Id WordClass := ∅
  words : ExtTreeMap Id Word := ∅

namespace Word

def withClassValue (w : Word) (wordClass value : Id) : Word :=
  { w with classes := w.classes.insert wordClass value }

def hasClassValue (w : Word) (wordClass value : Id) : Bool := w.classes[wordClass]? == some value

end Word

def WordClass.appliesToType (c : WordClass) (type : Id) : Bool :=
  c.appliesTo.isEmpty || c.appliesTo.contains type

namespace Lexicon

def empty : Lexicon := {}

/-! ### Changes -/

def addPartOfSpeech (l : Lexicon) (p : PartOfSpeech) : Lexicon :=
  { l with partsOfSpeech := l.partsOfSpeech.insert p.id p }

def addClass (l : Lexicon) (c : WordClass) : Lexicon :=
  { l with classes := l.classes.insert c.id c }

def addWord (l : Lexicon) (w : Word) : Lexicon := { l with words := l.words.insert w.id w }

def removeWord (l : Lexicon) (id : Id) : Lexicon := { l with words := l.words.erase id }

/-- Words of the part of speech stay. -/
def removePartOfSpeech (l : Lexicon) (id : Id) : Lexicon :=
  { l with partsOfSpeech := l.partsOfSpeech.erase id }

/-- No word keeps a value in the class. -/
def removeClass (l : Lexicon) (id : Id) : Lexicon :=
  { l with
    classes := l.classes.erase id
    words := l.words.map fun _ w => { w with classes := w.classes.erase id } }

/-! ### Questions -/

def word? (l : Lexicon) (id : Id) : Option Word := l.words[id]?

def partOfSpeech? (l : Lexicon) (id : Id) : Option PartOfSpeech := l.partsOfSpeech[id]?

def class? (l : Lexicon) (id : Id) : Option WordClass := l.classes[id]?

def declaresPartOfSpeech (l : Lexicon) (id : Id) : Bool := l.partsOfSpeech.contains id

def declaresClassValue (l : Lexicon) (wordClass value : Id) : Bool :=
  (l.class? wordClass).any fun c => c.values.any (·.id == value)

/-- The first word that is written so. -/
def wordByValue? (l : Lexicon) (value : String) : Option Word :=
  l.words.values.find? (·.value == value)

def partOfSpeechByName? (l : Lexicon) (name : String) : Option PartOfSpeech :=
  l.partsOfSpeech.values.find? (·.name == name)

/-- The classes that apply to words of a part of speech. -/
def classesFor (l : Lexicon) (type : Id) : List Id :=
  (l.classes.values.filter (·.appliesToType type)).map (·.id)

end Lexicon

end Conlang
