import Conlang.Text.Blank
import Conlang.Text.Category
import Conlang.Text.Property

/-! Letters, digits and the characters that words are made of. -/
namespace Conlang.Text

def digitChars : CharSet := Category.decimalNumberChars

def alphanumericChars : CharSet :=
  Property.alphabeticChars.union (Category.groupChars [.decimalNumber, .letterNumber, .otherNumber])

/-- What a word boundary separates from the rest: letters, marks, digits, connecting punctuation and
the joiners. -/
def wordChars : CharSet :=
  .unions [Property.alphabeticChars,
    Category.groupChars [.nonspacingMark, .spacingMark, .enclosingMark],
    Category.decimalNumberChars, Category.connectorPunctuationChars, Property.joinControlChars]

def isAlphanumeric (c : Char) : Bool :=
  if c.toNat < 128 then c.isAlphanum else alphanumericChars.contains c

def isWordChar (c : Char) : Bool :=
  if c.toNat < 128 then c.isAlphanum || c == '_' else wordChars.contains c

end Conlang.Text
