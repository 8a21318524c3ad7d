/-! What can go wrong with a pattern. -/
namespace Conlang.Pattern

/-- Why a text is no pattern. -/
inductive Fault where
  | trailingBackslash
  | unknownEscape (c : Char)
  | badHexEscape
  | notACharacter (code : Nat)
  | unknownProperty (name : String)
  | unclosedClass
  | badClassRange
  | unclosedGroup
  | unopenedGroup
  | tooDeep
  | badGroupName
  | unknownGroup
  | namedAndNumbered
  | unknownFlag
  | badCondition
  | nothingToRepeat
  | badRepeat (least : Nat) (most : Option Nat)
  | unboundedLookbehind
  | tooLarge
  deriving Repr, DecidableEq

/-- Why a search has no answer. -/
inductive Failure where
  /-- It has come back too often. -/
  | backtracks
  /-- It keeps too many ways. -/
  | depth
  /-- A group that is referred to ends before it begins. -/
  | crossed
  /-- The matches have no end. -/
  | endless
  deriving Repr, DecidableEq

/-- Why a replacement text can not be used. -/
inductive TemplateFault where
  | trailingBackslash
  | unclosedName
  | noName (name : String)
  | noGroup (index : Nat)
  | loneDollar
  deriving Repr, DecidableEq

namespace TemplateFault

def reason : TemplateFault → String
  | .trailingBackslash => "trailing backslash"
  | .unclosedName => "unclosed group name"
  | .noName name => s!"no group named \"{name}\""
  | .noGroup index => s!"no group {index}"
  | .loneDollar => "\"$\" must be followed by a group reference"

end TemplateFault

inductive Error where
  | illegal (pattern : String) (fault : Fault)
  | runtime (pattern : String) (cause : Failure)
  | lookaroundScope (pattern : String)
  | replacement (template : String) (fault : TemplateFault)
  deriving Repr, DecidableEq

namespace Error

/-- Stands in a message for the finer reason, which is not part of its text. -/
def withheld : String := "<reason>"

def message : Error → String
  | .illegal pattern _ => s!"illegal pattern \"{pattern}\": {withheld}"
  | .runtime pattern _ => s!"pattern \"{pattern}\" failed while matching: {withheld}"
  | .lookaroundScope pattern =>
    s!"pattern \"{pattern}\" uses lookahead/lookbehind and can only replace every instance"
  | .replacement template fault => s!"replacement \"{template}\": {fault.reason}"

end Error

end Conlang.Pattern
