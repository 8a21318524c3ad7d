import Conlang.Text.CharSet

/-! White space, and text cut at it.

`runs` cuts a text into its runs of blank and of other characters; `words` keeps the latter. -/
namespace Conlang.Text

/-- The characters with the property White_Space. -/
def blankChars : CharSet :=
  ⟨[(0x09, 0x0D), (0x20, 0x20), (0x85, 0x85), (0xA0, 0xA0), (0x1680, 0x1680), (0x2000, 0x200A),
    (0x2028, 0x2029), (0x202F, 0x202F), (0x205F, 0x205F), (0x3000, 0x3000)]⟩

def isBlank (c : Char) : Bool := blankChars.contains c

/-- The text without the blank characters at its ends. -/
def trimChars (s : List Char) : List Char :=
  ((s.dropWhile isBlank).reverse.dropWhile isBlank).reverse

def trim (s : String) : String := .ofList (trimChars s.toList)

theorem trimChars_eq_self {s : List Char} (h : ∀ c ∈ s, isBlank c = false) : trimChars s = s := by
  have drop {l : List Char} (hl : ∀ c ∈ l, isBlank c = false) : l.dropWhile isBlank = l := by
    cases l with
    | nil => rfl
    | cons c rest => rw [List.dropWhile_cons_of_neg (by simp [hl c])]
  rw [trimChars, drop h, drop (by simpa using h), List.reverse_reverse]

/-! ### Runs -/

/-- A stretch of text that is blank throughout, or holds no blank. -/
structure Run where
  blank : Bool
  text : String
  deriving Repr, DecidableEq

/-- The longest stretches of blank and of other characters, in order. -/
def charRuns (s : List Char) : List (List Char) := s.splitBy fun a b => isBlank a == isBlank b

def Run.ofChars (s : List Char) : Run := ⟨s.head?.any isBlank, .ofList s⟩

def runs (s : String) : List Run := (charRuns s.toList).map .ofChars

def words (s : String) : List String := ((runs s).filter (!·.blank)).map (·.text)

end Conlang.Text
