import Conlang.Text.Category
import Conlang.Text.Property
import Conlang.Text.Script

/-! Sets of characters by name.

Names are compared without case, blanks, hyphens and underscores, and without a leading "is". A name
alone is looked up among the properties, then among the general categories, then among the scripts;
a name with a value says which of the latter two is meant. -/
namespace Conlang.Text

/-- A name in the form in which names are compared. -/
def foldName (name : String) : String :=
  let cs := name.toList
  let marked := match cs with
    | a :: b :: _ => a.toLower == 'i' && b.toLower == 's'
    | _ => false
  let kept := (if marked then cs.drop 2 else cs).filter fun c =>
    c.toNat < 128 && c != ' ' && c != '_' && c != '-'
  let folded := kept.map Char.toLower
  .ofList (if marked && folded == ['c'] then ['i', 's', 'c'] else folded)

def propertyChars? (folded : String) : Option CharSet :=
  (Property.named.find? fun row => row.1.contains folded).map fun row => row.2.chars

/-- A category, a group of them, or one of the three sets that go by names of their own. -/
def categoryChars? (folded : String) : Option CharSet :=
  if folded = "any" then some .full
  else if folded = "assigned" then some Category.assignedChars
  else if folded = "ascii" then some ⟨[(0, 0x7F)]⟩
  else (Category.named.find? fun row => row.1.contains folded).map fun row =>
    Category.groupChars row.2

def scriptChars? (folded : String) : Option CharSet := (Script.find? folded).map Script.chars

/-- Three short names belong to a category although a property has them too. -/
def categoryFirst : List String := ["cf", "sc", "lc"]

/-- The set that a name alone stands for. -/
def namedChars? (name : String) : Option CharSet :=
  let folded := foldName name
  (if categoryFirst.contains folded then none else propertyChars? folded)
    <|> categoryChars? folded <|> scriptChars? folded

/-- The set that a name with a value stands for. -/
def valuedChars? (name value : String) : Option CharSet :=
  let folded := foldName value
  match foldName name with
  | "gc" | "generalcategory" => categoryChars? folded
  | "sc" | "script" => scriptChars? folded
  | "scx" | "scriptextensions" => (Script.find? folded).map Script.usedChars
  | _ => none

def isPlainByte (b : UInt8) : Bool :=
  'a'.toUInt8 ≤ b && b ≤ 'z'.toUInt8 || '0'.toUInt8 ≤ b && b ≤ '9'.toUInt8

/-- Small letters and digits, by the bytes of a name: its characters are slow to decode. -/
def isPlainName (name : String) : Bool := name.toByteArray.data.toList.all isPlainByte

theorem tables_plain : (Property.named.all fun row => row.1.all isPlainName) = true ∧
    (Category.named.all fun row => row.1.all isPlainName) = true ∧
    (Script.all.all fun row => row.names.all isPlainName) = true := by
  decide +kernel

end Conlang.Text
