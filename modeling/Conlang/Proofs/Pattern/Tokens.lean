import Conlang.Proofs.Pattern.Scanning

/-! What a pattern is cut into.

A pattern language cuts a pattern into tokens, and what looks around opens with a token of its own.
A token may be known only by what follows it: a parenthesis is no more than a parenthesis where
nothing that looks around opens behind it. So a text is cut up to what is left of it (`IsCut`), and
cuts of one stretch and of the next are put together (`Cuts.trans`). -/
namespace Conlang.Pattern.Lookaround

/-! ### Tokens -/

/-- A piece of a pattern. -/
inductive Token where
  /-- A character that stands for itself or for an operation, a parenthesis among them. -/
  | sign (c : Char)
  /-- A backslash and the character behind it, with the digits or the name that go with it. -/
  | escape (c : Char) (more : List Char)
  /-- A class of characters behind its opening bracket. -/
  | set (body : List Char)
  /-- A comment, or blanks that do not count. -/
  | gap (text : List Char)
  /-- What opens a lookahead or a lookbehind. Behind its parenthesis there may be a gap. -/
  | look (between opener : List Char)
  deriving Repr, DecidableEq

namespace Token

def text : Token → List Char
  | .sign c => [c]
  | .escape c more => '\\' :: c :: more
  | .set body => '[' :: body
  | .gap text => text
  | .look between opener => '(' :: (between ++ opener)

def isLook : Token → Bool
  | .look _ _ => true
  | _ => false

/-- The token is one of the language, in front of this text. -/
def Fits (rest : List Char) : Token → Prop
  | .sign c => c ≠ '\\' ∧ c ≠ '[' ∧ (c = '(' → opensHere rest = false)
  | .escape _ more => Mute more
  | .set body => IsClass body
  | .gap _ => True
  | .look _ opener => opener ∈ openers

instance (rest : List Char) : DecidablePred (Fits rest)
  | .sign c => inferInstanceAs (Decidable (c ≠ '\\' ∧ c ≠ '[' ∧ (c = '(' → opensHere rest = false)))
  | .escape _ more => inferInstanceAs (Decidable (Mute more))
  | .set body => inferInstanceAs (Decidable (IsClass body))
  | .gap _ => isTrue trivial
  | .look _ opener => inferInstanceAs (Decidable (opener ∈ openers))

end Token

/-- The text that tokens spell. -/
def spelling (tokens : List Token) : List Char := tokens.flatMap Token.text

/-- Each token has a property in front of what the others and the rest spell. -/
def Each (P : List Char → Token → Prop) (rest : List Char) : List Token → Prop
  | [] => True
  | k :: ks => P (spelling ks ++ rest) k ∧ Each P rest ks

theorem each_append {P : List Char → Token → Prop} {rest : List Char} {ks ls : List Token} :
    Each P rest (ks ++ ls) ↔ Each P (spelling ls ++ rest) ks ∧ Each P rest ls := by
  induction ks with
  | nil => simp only [List.nil_append, Each, true_and]
  | cons k ks ih =>
    simp only [List.cons_append, Each, ih, spelling, List.flatMap_append, List.append_assoc,
      and_assoc]

instance Each.decidable {P : List Char → Token → Prop} [∀ rest, DecidablePred (P rest)]
    (rest : List Char) : DecidablePred (Each P rest)
  | [] => isTrue trivial
  | k :: ks =>
    have := Each.decidable (P := P) rest ks
    inferInstanceAs (Decidable (P (spelling ks ++ rest) k ∧ Each P rest ks))

/-! ### Cuts -/

/-- Up to what is left of it, a text is cut into tokens of the language. -/
structure IsCut (s rest : List Char) (tokens : List Token) (looks : Bool) : Prop where
  spells : s = spelling tokens ++ rest
  fits : Each Token.Fits rest tokens
  /-- Whether a token looks around. -/
  looks : tokens.any Token.isLook = looks

/-- A text can be cut up to what is left of it. -/
def Cuts (s rest : List Char) (looks : Bool) : Prop := ∃ tokens, IsCut s rest tokens looks

namespace Cuts

variable {s t rest : List Char} {looks looks' : Bool}

theorem refl (s : List Char) : Cuts s s false := ⟨[], rfl, trivial, rfl⟩

theorem trans (h : Cuts s t looks) (h' : Cuts t rest looks') : Cuts s rest (looks || looks') := by
  obtain ⟨ks, rfl, fits, rfl⟩ := h
  obtain ⟨ls, rfl, fits', rfl⟩ := h'
  refine ⟨ks ++ ls, ?_, each_append.mpr ⟨fits, fits'⟩, List.any_append ..⟩
  simp [spelling]

theorem suffix (h : Cuts s rest looks) : rest <:+ s := by
  obtain ⟨tokens, rfl, -, -⟩ := h
  exact List.suffix_append _ _

theorem token {k : Token} (fits : k.Fits rest) : Cuts (k.text ++ rest) rest k.isLook :=
  ⟨[k], by simp [spelling], ⟨fits, trivial⟩, Bool.or_false _⟩

/-- Where nothing is taken the text is still the same. -/
theorem unmoved (h : Cuts s rest looks) (still : rest.length = s.length) : rest = s :=
  h.suffix.eq_of_length still

end Cuts

end Conlang.Pattern.Lookaround
