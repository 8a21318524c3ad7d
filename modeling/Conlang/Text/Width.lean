import Conlang.Text.Category
import Conlang.Text.Property

/-! How many columns a text takes where every character has a place of its own.

A character takes one column. East Asian wide characters and emoji take two; marks that join the
character before, and characters that are not shown, take none. Some rows of characters are shown as
one: an emoji with its modifiers and joiners, a lam with an alef, and a line end of two
characters. -/
namespace Conlang.Text

/-- The characters that East Asian text sets wide. -/
def wideChars : CharSet := .ofHex
  "1100-115F 231A-231B 2329-232A 23E9-23EC 23F0 23F3 25FD-25FE 2614-2615 2630-2637 2648-2653
    267F 268A-268F 2693 26A1 26AA-26AB 26BD-26BE 26C4-26C5 26CE 26D4 26EA 26F2-26F3 26F5 26FA
    26FD 2705 270A-270B 2728 274C 274E 2753-2755 2757 2795-2797 27B0 27BF 2B1B-2B1C 2B50 2B55
    2E80-2E99 2E9B-2EF3 2F00-2FD5 2FF0-303E 3041-3096 3099-30FF 3105-312F 3131-318E 3190-31E5
    31EF-321E 3220-3247 3250-A48C A490-A4C6 A960-A97C AC00-D7A3 F900-FAFF FE10-FE19 FE30-FE52
    FE54-FE66 FE68-FE6B FF01-FF60 FFE0-FFE6 16FE0-16FE4 16FF0-16FF1 17000-187F7 18800-18CD5
    18CFF-18D08 1AFF0-1AFF3 1AFF5-1AFFB 1AFFD-1AFFE 1B000-1B122 1B132 1B150-1B152 1B155
    1B164-1B167 1B170-1B2FB 1D300-1D356 1D360-1D376 1F004 1F0CF 1F18E 1F191-1F19A 1F200-1F202
    1F210-1F23B 1F240-1F248 1F250-1F251 1F260-1F265 1F300-1F320 1F32D-1F335 1F337-1F37C
    1F37E-1F393 1F3A0-1F3CA 1F3CF-1F3D3 1F3E0-1F3F0 1F3F4 1F3F8-1F43E 1F440 1F442-1F4FC
    1F4FF-1F53D 1F54B-1F54E 1F550-1F567 1F57A 1F595-1F596 1F5A4 1F5FB-1F64F 1F680-1F6C5 1F6CC
    1F6D0-1F6D2 1F6D5-1F6D7 1F6DC-1F6DF 1F6EB-1F6EC 1F6F4-1F6FC 1F7E0-1F7EB 1F7F0 1F90C-1F93A
    1F93C-1F945 1F947-1F9FF 1FA70-1FA7C 1FA80-1FA89 1FA8F-1FAC6 1FACE-1FADC 1FADF-1FAE9
    1FAF0-1FAF8 20000-2FFFD 30000-3FFFD"

/-- The vowels and final consonants that complete a Hangul syllable. -/
def jamoChars : CharSet := ⟨[(0x1160, 0x11FF), (0xD7B0, 0xD7C6), (0xD7CB, 0xD7FB)]⟩

/-- Signs that enclose or precede what follows them, and a few marks that are not counted among the
extending ones. -/
def attachedChars : CharSet := .ofHex
  "605 70F 890-891 8E2 CC0 CC7-CC8 CCA-CCB D4E 1B3B 1B3D 1B43 A8FA 111C2-111C3 113D1 1193F 11941 11A3A
    11A84-11A89 11D46 11F02"

def unseenChars : CharSet :=
  .unions [Property.defaultIgnorableCodePointChars, Property.graphemeExtendChars, jamoChars,
    attachedChars]

/-- The initial filler of Hangul is not shown, but stands for a syllable that is. -/
def hangulFiller : Char := '\u115f'

/-- The Tifinagh joiner is seen where it has nothing to join. -/
def tifinaghJoiner : Char := '\u2d7f'

def charWidth (c : Char) : Nat :=
  if ' ' ≤ c ∧ c < '\x7f' then 1
  else if c = hangulFiller then 2
  else if c = tifinaghJoiner then 1
  else if unseenChars.contains c then 0
  else if wideChars.contains c then 2
  else 1

/-! ### Characters that are shown as one -/

def joiner : Char := '\u200d'

/-- Asks for the coloured picture of the character before. -/
def pictureSelector : Char := '\ufe0f'

/-- Asks for the plain sign of the character before. -/
def signSelector : Char := '\ufe0e'

/-- How many characters a single emoji at the front takes. -/
def emojiLength? : List Char → Option Nat
  | c :: d :: rest =>
    if Property.emojiChars.contains c && d = pictureSelector then
      some (if Property.emojiModifierBaseChars.contains c
        && rest.head?.any Property.emojiModifierChars.contains then 3 else 2)
    else if Property.emojiModifierBaseChars.contains c && Property.emojiModifierChars.contains d
      then some 2
    else if Property.regionalIndicatorChars.contains c then
      if Property.regionalIndicatorChars.contains d then some 2 else none
    else if Property.emojiPresentationChars.contains c then some 1
    else none
  | [c] =>
    if Property.emojiPresentationChars.contains c && !Property.regionalIndicatorChars.contains c
      then some 1
    else none
  | [] => none

/-- How many characters a row of joined emoji at the front takes, at most `fuel` emoji. -/
def emojiRow? : (fuel : Nat) → List Char → Option Nat
  | 0, _ => none
  | fuel + 1, s =>
    (emojiLength? s).map fun n =>
      match s.drop n with
      | c :: rest => if c = joiner then ((emojiRow? fuel rest).map (n + 1 + ·)).getD n else n
      | [] => n

def lamChars : CharSet := .ofHex "644 6B5-6B8 76A 8A6 8C7"

def alefChars : CharSet := .ofHex "622-623 625 627 671-673 675 773-774 870-882"

/-- How many characters a lam, its marks and an alef take at the front. -/
def lamAlef? : List Char → Option Nat
  | [] => none
  | c :: rest =>
    let marks := rest.takeWhile fun d => Property.graphemeExtendChars.contains d
    if lamChars.contains c && (rest.drop marks.length).head?.any alefChars.contains then
      some (marks.length + 2)
    else none

/-- The characters at the front that are shown as one: how many they are, and their width. -/
def shownAsOne? (s : List Char) : Option (Nat × Nat) :=
  match s with
  | '\r' :: '\n' :: _ => some (2, 1)
  | c :: d :: _ =>
    if c.toNat < 128 ∧ d.toNat < 128 then none
    else if d = signSelector && Property.emojiPresentationChars.contains c
        && !(0x1F200 ≤ c.toNat && c.toNat < 0x1F300) then some (2, 1)
    else ((emojiRow? s.length s).map (·, 2)) <|> (lamAlef? s).map (·, 1)
  | _ => none

/-- The width of a text whose first `skip` characters are counted already. -/
def widthFrom : (skip : Nat) → List Char → Nat
  | _, [] => 0
  | skip + 1, _ :: rest => widthFrom skip rest
  | 0, c :: rest =>
    match shownAsOne? (c :: rest) with
    | some (n, width) => width + widthFrom (n - 1) rest
    | none => charWidth c + widthFrom 0 rest

def width (s : String) : Nat := widthFrom 0 s.toList

/-- Blanks that fill a text up to a width. -/
def padding (s : String) (columns : Nat) : String :=
  .ofList (List.replicate (columns - width s) ' ')

end Conlang.Text
