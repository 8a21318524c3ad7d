import Conlang.Proofs.Pattern.Slicing
import Mathlib.Data.List.DropRight

/-! What has the look of a lookaround.

A place in a text is `Escaped` by the backslashes right before it, and `InClass` if a bracket before
it opens a class that no bracket in between closes. Neither is told by reading the text from the
front. Still the scanner, which does that, is always in the mode that fits the place
(`stands_after`), and so it reports just what has the look of a lookaround and is neither escaped
nor in a class (`looksAround_iff_opener`). -/
namespace Conlang.Pattern.Lookaround

/-- An odd run of backslashes stands right before the place. -/
def Escaped (s : List Char) (k : Nat) : Prop := ((s.take k).rtakeWhile (· = '\\')).length % 2 = 1

/-- A bracket at `j` would close a class that begins at `i`: it is not escaped, and does not stand
right behind the bracket that opens the class or behind the caret after this one. -/
def Closes (s : List Char) (i j : Nat) : Prop :=
  s[j]? = some ']' ∧ ¬Escaped s j ∧ j ≠ i + 1 ∧ ¬(s[i + 1]? = some '^' ∧ j = i + 2)

/-- Before the place a bracket that is not escaped and not in a class itself opens a class, and none
in between closes it. -/
def InClass (s : List Char) (k : Nat) : Prop :=
  ∃ i, ∃ _ : i < k, s[i]? = some '[' ∧ ¬Escaped s i ∧ ¬InClass s i ∧ ∀ j, i < j → j < k →
    ¬Closes s i j
termination_by k

/-- The class that begins at `i` is open at `k`. -/
structure OpenSince (s : List Char) (i k : Nat) : Prop where
  before : i < k
  bracket : s[i]? = some '['
  free : ¬Escaped s i
  outside : ¬InClass s i
  lasts : ∀ j, i < j → j < k → ¬Closes s i j

section
variable {s : List Char} {c : Char} {i i' k : Nat}

theorem inClass_iff : InClass s k ↔ ∃ i, OpenSince s i k := by
  rw [InClass]
  constructor
  · intro h
    obtain ⟨i, before, bracket, free, outside, lasts⟩ := h
    exact ⟨i, before, bracket, free, outside, lasts⟩
  · intro h
    obtain ⟨i, h⟩ := h
    exact ⟨i, h.before, h.bracket, h.free, h.outside, h.lasts⟩

/-! ### One character further -/

theorem escaped_succ (here : s[k]? = some c) : Escaped s (k + 1) ↔ c = '\\' ∧ ¬Escaped s k := by
  rw [Escaped, Escaped, List.take_add_one, here, Option.toList_some, List.rtakeWhile_concat]
  by_cases backslash : c = '\\'
  · simp only [backslash, decide_true, if_true, List.length_append, List.length_singleton, true_and]
    omega
  · simp [backslash]

theorem OpenSince.restrict (h : OpenSince s i k) (before : i < i') (le : i' ≤ k) :
    OpenSince s i i' :=
  ⟨before, h.bracket, h.free, h.outside, fun j after lt =>
    h.lasts j after (Nat.lt_of_lt_of_le lt le)⟩

/-- Just one class is open at a place, for no class begins in a class. -/
theorem OpenSince.unique (h : OpenSince s i k) (h' : OpenSince s i' k) : i = i' := by
  rcases Nat.lt_trichotomy i i' with lt | same | lt
  · exact absurd (inClass_iff.mpr ⟨i, h.restrict lt (Nat.le_of_lt h'.before)⟩) h'.outside
  · exact same
  · exact absurd (inClass_iff.mpr ⟨i', h'.restrict lt (Nat.le_of_lt h.before)⟩) h.outside

theorem OpenSince.stays (h : OpenSince s i k) (other : ¬Closes s i k) : OpenSince s i (k + 1) := by
  refine ⟨Nat.lt_succ_of_lt h.before, h.bracket, h.free, h.outside, fun j after lt => ?_⟩
  rcases Nat.lt_succ_iff_lt_or_eq.mp lt with lt | rfl
  · exact h.lasts j after lt
  · exact other

theorem openSince_start (bracket : s[k]? = some '[') (free : ¬Escaped s k)
    (outside : ¬InClass s k) :
    OpenSince s k (k + 1) :=
  ⟨Nat.lt_succ_self k, bracket, free, outside, fun j after lt => by omega⟩

/-- A class that is open behind a character was open before it, or begins with it. -/
theorem OpenSince.cases (h : OpenSince s i (k + 1)) : OpenSince s i k ∧ ¬Closes s i k ∨ i = k := by
  rcases Nat.lt_succ_iff_lt_or_eq.mp h.before with lt | rfl
  · exact .inl ⟨h.restrict lt (Nat.le_succ k), h.lasts k lt (Nat.lt_succ_self k)⟩
  · exact .inr rfl

theorem OpenSince.closed (h : OpenSince s i k) (closes : Closes s i k) : ¬InClass s (k + 1) := by
  intro inside
  obtain ⟨i', h'⟩ := inClass_iff.mp inside
  rcases h'.cases with ⟨before, other⟩ | rfl
  · exact other (h.unique before ▸ closes)
  · cases closes.1.symm.trans h'.bracket

theorem not_inClass_succ (outside : ¬InClass s k) (plain : s[k]? = some '[' → Escaped s k) :
    ¬InClass s (k + 1) := by
  intro inside
  obtain ⟨i, h⟩ := inClass_iff.mp inside
  rcases h.cases with ⟨before, -⟩ | rfl
  · exact outside (inClass_iff.mpr ⟨i, before⟩)
  · exact h.free (plain h.bracket)

end

/-! ### The scanner -/

/-- The mode in which a scanner has to be at a place. -/
def Stands (s : List Char) (k : Nat) : Mode → Prop
  | .text => ¬Escaped s k ∧ ¬InClass s k
  | .escaped => Escaped s k ∧ ¬InClass s k
  | .classStart => ¬Escaped s k ∧ ∃ i, OpenSince s i k ∧ k = i + 1
  | .classMembers fresh => ¬Escaped s k ∧ ∃ i, OpenSince s i k ∧ i + 1 < k ∧
    (fresh = true ↔ s[i + 1]? = some '^' ∧ k = i + 2)
  | .classEscaped => Escaped s k ∧ ∃ i, OpenSince s i k ∧ i + 1 < k

theorem Stands.text_iff {s : List Char} {k : Nat} {m : Mode} (h : Stands s k m) :
    m = .text ↔ ¬Escaped s k ∧ ¬InClass s k := by
  have inside {i : Nat} (since : OpenSince s i k) : InClass s k := inClass_iff.mpr ⟨i, since⟩
  cases m with
  | text => exact iff_of_true rfl h
  | escaped => exact iff_of_false nofun fun free => free.1 h.1
  | classEscaped => exact iff_of_false nofun fun free => free.1 h.1
  | classStart =>
    obtain ⟨-, i, since, -⟩ := h
    exact iff_of_false nofun fun free => free.2 (inside since)
  | classMembers fresh =>
    obtain ⟨-, i, since, -⟩ := h
    exact iff_of_false nofun fun free => free.2 (inside since)

/-- What a character does to the mode of the scanner, it does to the place. -/
theorem Stands.next {s : List Char} {k : Nat} {c : Char} {m : Mode} (h : Stands s k m)
    (here : s[k]? = some c) :
    Stands s (k + 1) (m.next c) := by
  have escapes := escaped_succ here
  cases m with
  | text =>
    obtain ⟨free, outside⟩ := h
    rw [Mode.next]
    split_ifs with backslash bracket
    · exact ⟨escapes.mpr ⟨backslash, free⟩, not_inClass_succ outside (by simp [here, backslash])⟩
    · subst bracket
      exact ⟨fun escaped => by simp [escapes] at escaped, k, openSince_start here free outside, rfl⟩
    · exact ⟨by simp [escapes, backslash], not_inClass_succ outside (by simp [here, bracket])⟩
  | escaped =>
    obtain ⟨escaped, outside⟩ := h
    exact ⟨by simp [escapes, escaped], not_inClass_succ outside fun _ => escaped⟩
  | classStart =>
    obtain ⟨free, i, since, rfl⟩ := h
    have stays := since.stays fun closes => closes.2.2.1 rfl
    rw [Mode.next]
    split_ifs with caret backslash
    · exact ⟨by simp [escapes, caret], i, stays, by omega, iff_of_true rfl ⟨caret ▸ here, rfl⟩⟩
    · exact ⟨escapes.mpr ⟨backslash, free⟩, i, stays, by omega⟩
    · exact ⟨by simp [escapes, backslash], i, stays, by omega, by simp [here, caret]⟩
  | classMembers fresh =>
    obtain ⟨free, i, since, before, behind⟩ := h
    have closes : Closes s i k ↔ c = ']' ∧ fresh = false := by
      rw [Closes, here, Option.some.injEq, ← behind.not]
      simp [free, Nat.ne_of_gt before]
    have later : ¬(s[i + 1]? = some '^' ∧ k + 1 = i + 2) := fun caret => by omega
    rw [Mode.next]
    split_ifs with ends backslash
    · have shut : c = ']' ∧ fresh = false := by simpa using ends
      exact ⟨by simp [escapes, shut.1], since.closed (closes.mpr shut)⟩
    · have stays := since.stays (closes.not.mpr (by simpa using ends))
      exact ⟨escapes.mpr ⟨backslash, free⟩, i, stays, by omega⟩
    · have stays := since.stays (closes.not.mpr (by simpa using ends))
      exact ⟨by simp [escapes, backslash], i, stays, by omega, iff_of_false (by decide) later⟩
  | classEscaped =>
    obtain ⟨escaped, i, since, before⟩ := h
    have stays := since.stays fun closes => closes.2.1 escaped
    have later : ¬(s[i + 1]? = some '^' ∧ k + 1 = i + 2) := fun caret => by omega
    exact ⟨by simp [escapes, escaped], i, stays, by omega, iff_of_false (by decide) later⟩

/-- The scanner is always in the mode that fits the place. -/
theorem stands_after (s : List Char) {k : Nat} (within : k ≤ s.length) :
    Stands s k (Mode.text.after (s.take k)) := by
  induction k with
  | zero =>
    refine ⟨by simp [Escaped], fun inside => ?_⟩
    obtain ⟨i, since⟩ := inClass_iff.mp inside
    exact absurd since.before (Nat.not_lt_zero i)
  | succ k ih =>
    have here : s[k]? = some s[k] := List.getElem?_eq_getElem within
    rw [List.take_add_one, here, Mode.after, List.foldl_append]
    exact (ih (Nat.le_of_lt within)).next here

theorem reports_iff {m : Mode} {c : Char} {rest : List Char} :
    m.reports c rest = true ↔ m = .text ∧ c = '(' ∧ ∃ opener ∈ openers, opener <+: rest := by
  cases m <;> simp [Mode.reports, opensHere]

theorem scan_iff {m : Mode} {s : List Char} : scan m s = true ↔
    ∃ k c, s[k]? = some c ∧ (m.after (s.take k)).reports c (s.drop (k + 1)) = true := by
  induction s generalizing m with
  | nil => simp
  | cons c s ih =>
    rw [scan_cons, Bool.or_eq_true, ih]
    constructor
    · intro h
      rcases h with here | ⟨k, d, found, later⟩
      · exact ⟨0, c, rfl, here⟩
      · exact ⟨k + 1, d, found, later⟩
    · intro h
      obtain ⟨k, d, found, reported⟩ := h
      cases k with
      | zero =>
        obtain rfl : c = d := Option.some.inj found
        exact .inl reported
      | succ k => exact .inr ⟨k, d, found, reported⟩

theorem looksAround_iff_opener {p : String} : looksAround p = true ↔
    ∃ k, p.toList[k]? = some '(' ∧ (∃ opener ∈ openers, opener <+: p.toList.drop (k + 1)) ∧
      ¬Escaped p.toList k ∧ ¬InClass p.toList k := by
  rw [looksAround, scan_iff]
  have text {k : Nat} {c : Char} (here : p.toList[k]? = some c) :=
    (stands_after p.toList (Nat.le_of_lt (List.getElem?_eq_some_iff.mp here).1)).text_iff
  constructor
  · intro h
    obtain ⟨k, c, here, reported⟩ := h
    obtain ⟨mode, rfl, opens⟩ := reports_iff.mp reported
    exact ⟨k, here, opens, (text here).mp mode⟩
  · intro h
    obtain ⟨k, here, opens, free⟩ := h
    exact ⟨k, '(', here, reports_iff.mpr ⟨(text here).mpr free, rfl, opens⟩⟩

/-- What is reported stays reported when a text goes on. -/
theorem scan_append {m : Mode} {s : List Char} (found : scan m s = true) (more : List Char) :
    scan m (s ++ more) = true := by
  induction s generalizing m with
  | nil => simp at found
  | cons c s ih =>
    rw [scan_cons, Bool.or_eq_true] at found
    rw [List.cons_append, scan_cons, Bool.or_eq_true]
    rcases found with here | later
    · obtain ⟨mode, paren, opener, mem, front⟩ := reports_iff.mp here
      exact .inl (reports_iff.mpr ⟨mode, paren, opener, mem,
        front.trans (List.prefix_append s more)⟩)
    · exact .inr (ih later)

/-- **Reported is what has the look of a lookaround**: a parenthesis with the signs of one behind
it, neither escaped nor in a class. What follows the text does not change that. A scanner that goes
through the bytes of the text finds the same, and wherever it slices the text there is no character
that it would cut. -/
theorem looksAround_by_rule (p : String) :
    (looksAround p = true ↔
      ∃ k, p.toList[k]? = some '(' ∧ (∃ opener ∈ openers, opener <+: p.toList.drop (k + 1)) ∧
        ¬Escaped p.toList k ∧ ¬InClass p.toList k) ∧
    (∀ more, looksAround p = true → looksAround (p ++ more) = true) ∧
    ∃ cuts, scanBytes {} 0 p.toByteArray.data.toList = (looksAround p, cuts) ∧
      ∀ cut ∈ cuts, (⟨cut⟩ : String.Pos.Raw).IsValid p := by
  refine ⟨looksAround_iff_opener, fun more found => ?_, ?_⟩
  · rw [looksAround, String.toList_append]
    exact scan_append found more.toList
  · obtain ⟨found, between⟩ := scanBytes_eq (show Agrees {} 0 p.toList .text from ⟨rfl, rfl⟩)
    rw [bytes_toList]
    exact ⟨_, Prod.ext found rfl, fun cut mem => (between cut mem).isValid⟩

end Conlang.Pattern.Lookaround
