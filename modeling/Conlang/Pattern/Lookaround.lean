/-! Finding lookarounds by their look.

`looksAround` reads a text without parsing it as a pattern: it reports a parenthesis that is
followed by `?=`, `?!`, `?<=` or `?<!` and that is neither escaped nor inside brackets. A backslash
escapes the character after it. A bracket that is not escaped opens a class; the next bracket that
is not escaped closes it, unless it stands right after the opening one or its caret. -/
namespace Conlang.Pattern.Lookaround

def openers : List (List Char) := [['?', '='], ['?', '!'], ['?', '<', '='], ['?', '<', '!']]

def opensHere (rest : List Char) : Bool := openers.any (·.isPrefixOf rest)

/-- Where the scanner is. In a class, `fresh` says that no member has been read. -/
inductive Mode where
  | text
  | escaped
  | classStart
  | classMembers (fresh : Bool)
  | classEscaped

def scan : Mode → List Char → Bool
  | _, [] => false
  | .text, c :: rest =>
    if c = '(' && opensHere rest then true
    else scan (if c = '\\' then .escaped else if c = '[' then .classStart else .text) rest
  | .escaped, _ :: rest => scan .text rest
  | .classStart, c :: rest =>
    scan (if c = '^' then .classMembers true else if c = '\\' then .classEscaped
      else .classMembers false) rest
  | .classMembers fresh, c :: rest =>
    scan (if c = ']' && !fresh then .text else if c = '\\' then .classEscaped
      else .classMembers false) rest
  | .classEscaped, _ :: rest => scan (.classMembers false) rest

/-- The text uses lookahead or lookbehind, as far as its look tells. -/
def looksAround (text : String) : Bool := scan .text text.toList

end Conlang.Pattern.Lookaround
