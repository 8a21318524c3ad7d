import Conlang.Text.Category
import Conlang.Text.Property

/-! Text in quotes, with all that can not be seen written out.

Quotes, backslashes, tabs, line ends and the character zero have short escapes. Other characters
that are not printed, and marks that would join the character before, are written by their number in
hexadecimal. -/
namespace Conlang.Text

/-- Blanks other than the space, controls, and characters without a meaning of their own. -/
def unprintedChars : CharSet :=
  Category.assignedChars.complement.union
    (Category.groupChars [.control, .format, .privateUse, .unassigned, .lineSeparator,
    .paragraphSeparator,
      .spaceSeparator])

def hexDigits (n : Nat) : List Char := Nat.toDigits 16 n

def quotedChar (c : Char) : List Char :=
  if c = '\x00' then ['\\', '0']
  else if c = '\t' then ['\\', 't']
  else if c = '\r' then ['\\', 'r']
  else if c = '\n' then ['\\', 'n']
  else if c = '"' || c = '\\' then ['\\', c]
  else if c != ' ' && (Property.graphemeExtendChars.contains c || unprintedChars.contains c) then
    ['\\', 'u', '{'] ++ hexDigits c.toNat ++ ['}']
  else [c]

def quoted (s : String) : String := .ofList ('"' :: s.toList.flatMap quotedChar ++ ['"'])

end Conlang.Text
