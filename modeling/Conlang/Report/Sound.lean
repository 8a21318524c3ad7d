import Conlang.Language

/-! How texts sound, as it is printed. -/
namespace Conlang
namespace Report
open Text

def pronunciation (p : Phonology.Pronunciation) : String :=
  (if p.value.isEmpty then "(no pronunciation)\n" else s!"{p.value}\n")
    ++ String.join (p.diagnostics.map fun d => s!"  ! {d.message}\n")

section
variable (E : Pattern.Engine) (passes : Nat) (separator : String)

def pronounce (l : Language) (text : String) : String :=
  pronunciation (l.pronunciation.pronounce E passes separator text)

def romanize (l : Language) (text : String) : String :=
  pronunciation (l.romanizer.romanize E passes separator text)
    ++ if l.romanizer.enabled then "" else "  (romanization disabled; input shown unchanged)\n"

end

/-- The syllables of each word as it is written. -/
def syllables (separator : String) (l : Language) (text : String) : String :=
  String.join ((words text).map fun word =>
    match l.pronunciation.syllables.split word separator with
    | some split => s!"{word}: {split}\n"
    | none => s!"{word}: (no decomposition)\n")

end Report

end Conlang
