import Conlang.Pattern.Replace

/-! A substitution: a pattern and what its matches are replaced with. -/
namespace Conlang

structure Substitution where
  pattern : Pattern
  replacement : String
  deriving Repr, DecidableEq

namespace Substitution

def ofTexts (pattern replacement : String) : Substitution := ⟨⟨pattern, false⟩, replacement⟩

/-- One with a blank pattern changes nothing, and any other replaces every match. -/
def apply (E : Pattern.Engine) (r : Substitution) (text : String) : Except Pattern.Error String :=
  if r.pattern.isEmpty then .ok text else r.pattern.replaceAll E r.replacement text

/-- Two substitutions are written alike. -/
def sameText (r s : Substitution) : Bool :=
  r.pattern.sameSource s.pattern && r.replacement == s.replacement

end Substitution

end Conlang
