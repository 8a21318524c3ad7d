import Conlang.Pattern.Lookaround
import Mathlib.Data.List.Basic

/-! The scanner for lookarounds, character by character.

The scanner knows only a parenthesis, the two brackets and the backslash (`marks`), and goes through
any other text without a change (`scan_mute`). Nor does it lose its way in a class: it counts no
brackets, but behind the bracket that closes a class it is always in the text again
(`leaves_of_closes`). Inside, it may leave the class too early, and then it may take members for a
group. That needs a class in a class. -/
namespace Conlang.Pattern.Lookaround

/-! ### Steps -/

/-- Where the scanner is behind a character. -/
def Mode.next : Mode → Char → Mode
  | .text, c => if c = '\\' then .escaped else if c = '[' then .classStart else .text
  | .escaped, _ => .text
  | .classStart, c =>
    if c = '^' then .classMembers true else if c = '\\' then .classEscaped else .classMembers false
  | .classMembers fresh, c =>
    if c = ']' && !fresh then .text else if c = '\\' then .classEscaped else .classMembers false
  | .classEscaped, _ => .classMembers false

/-- The scanner reports what opens with a character. -/
def Mode.reports : Mode → Char → List Char → Bool
  | .text, c, rest => c = '(' && opensHere rest
  | _, _, _ => false

/-- Where the scanner is behind a text. -/
def Mode.after (m : Mode) (cs : List Char) : Mode := cs.foldl Mode.next m

@[simp] theorem Mode.after_cons (m : Mode) (c : Char) (cs : List Char) :
    m.after (c :: cs) = (m.next c).after cs := rfl

@[simp] theorem scan_nil (m : Mode) : scan m [] = false := by cases m <;> rfl

theorem scan_cons (m : Mode) (c : Char) (rest : List Char) :
    scan m (c :: rest) = (m.reports c rest || scan (m.next c) rest) := by
  cases m with
  | text =>
    rw [scan, Mode.reports, Mode.next]
    cases decide (c = '(') && opensHere rest <;> rfl
  | _ => rfl

/-! ### Text that the scanner passes -/

/-- The characters that mean something to the scanner. -/
def marks : List Char := ['(', '[', ']', '\\']

/-- Nothing in the text means anything to the scanner. -/
def Mute (cs : List Char) : Prop := ∀ c ∈ cs, c ∉ marks

instance (cs : List Char) : Decidable (Mute cs) := List.decidableBAll (· ∉ marks) cs

theorem reports_of_mute (m : Mode) {c : Char} (mute : c ∉ marks) (rest : List Char) :
    m.reports c rest = false := by
  have other : c ≠ '(' := by rintro rfl; exact mute (by decide)
  cases m <;> simp [Mode.reports, other]

theorem scan_mute {cs : List Char} (mute : Mute cs) (rest : List Char) :
    scan .text (cs ++ rest) = scan .text rest := by
  induction cs with
  | nil => rfl
  | cons c cs ih =>
    obtain ⟨first, others⟩ := List.forall_mem_cons.mp mute
    have stays : Mode.text.next c = .text := by
      simp only [marks, List.mem_cons, List.not_mem_nil, or_false, not_or] at first
      simp [Mode.next, first]
    rw [List.cons_append, scan_cons, reports_of_mute _ first, stays, ih others]
    rfl

/-- Nowhere in the text, as it stands before the rest, is there a parenthesis that has the look of a
lookaround. -/
def Lookless : List Char → List Char → Prop
  | [], _ => True
  | c :: cs, rest => (c = '(' → opensHere (cs ++ rest) = false) ∧ Lookless cs rest

instance Lookless.decidable : ∀ cs rest, Decidable (Lookless cs rest)
  | [], _ => isTrue trivial
  | c :: cs, rest =>
    have := Lookless.decidable cs rest
    inferInstanceAs (Decidable ((c = '(' → opensHere (cs ++ rest) = false) ∧ Lookless cs rest))

theorem Lookless.reports {c : Char} {cs rest : List Char} (h : Lookless (c :: cs) rest) (m : Mode) :
    m.reports c (cs ++ rest) = false := by
  by_cases paren : c = '('
  · have quiet := h.1 paren
    cases m <;> simp [Mode.reports, quiet]
  · cases m <;> simp [Mode.reports, paren]

theorem scan_lookless {cs rest : List Char} (h : Lookless cs rest) (m : Mode) :
    scan m (cs ++ rest) = scan (m.after cs) rest := by
  induction cs generalizing m with
  | nil => rfl
  | cons c cs ih =>
    rw [List.cons_append, scan_cons, h.reports, ih h.2, Mode.after_cons]
    rfl

/-! ### Classes -/

/-- How many brackets are open behind a character that does not close the class. -/
def nestAfter (nest : Nat) (c : Char) : Nat :=
  if c = '[' then nest + 1 else if c = ']' then nest - 1 else nest

/-- The text ends with the bracket that closes the outermost of so many open classes. In a class
brackets are counted, and a backslash escapes the character after it. -/
def closes : Nat → List Char → Bool
  | nest, '\\' :: _ :: s => closes nest s
  | nest, c :: s => if c = ']' ∧ nest = 1 then s.isEmpty else closes (nestAfter nest c) s
  | _, [] => false

/-- What stands behind a leading character, if it is there. -/
def behind (c : Char) (s : List Char) : List Char := if s.head? = some c then s.tail else s

theorem behind_of_ne {c : Char} {s : List Char} (other : ∀ t, s ≠ c :: t) : behind c s = s := by
  refine if_neg fun first => ?_
  obtain ⟨t, same⟩ := List.head?_eq_some_iff.mp first
  exact other t same

/-- The text is what stands behind the bracket that opens a class: a caret may come first, and a
bracket behind that is a member of the class. -/
def IsClass (s : List Char) : Prop := closes 1 (behind ']' (behind '^' s)) = true

instance (s : List Char) : Decidable (IsClass s) := inferInstanceAs (Decidable (_ = _))

/-- Where the scanner can be in a class of which so many brackets are open. It is at the head of a
class only when it has seen one open that is not the outermost, or when no bracket follows that it
would take for a member. -/
def Tracks : Mode → Nat → List Char → Prop
  | .text, nest, _ => 0 < nest
  | .classStart, nest, s =>
    1 < nest ∨ nest = 1 ∧ (∀ rest, s ≠ '^' :: rest) ∧ ∀ rest, s ≠ ']' :: rest
  | .classMembers fresh, nest, s => 1 < nest ∨ nest = 1 ∧ (fresh = true → ∀ rest, s ≠ ']' :: rest)
  | _, _, _ => False

theorem Tracks.closed {m : Mode} {s : List Char} (h : Tracks m 1 (']' :: s)) :
    m.next ']' = .text := by
  cases m with
  | text => rfl
  | classStart =>
    rcases h with nested | ⟨-, -, plain⟩
    · exact (Nat.lt_irrefl 1 nested).elim
    · exact (plain s rfl).elim
  | classMembers fresh =>
    cases fresh with
    | false => rfl
    | true =>
      rcases h with nested | ⟨-, plain⟩
      · exact (Nat.lt_irrefl 1 nested).elim
      · exact (plain rfl s rfl).elim
  | escaped => exact h.elim
  | classEscaped => exact h.elim

theorem nestAfter_pos {nest : Nat} {c : Char} (pos : 0 < nest) (stays : ¬(c = ']' ∧ nest = 1)) :
    0 < nestAfter nest c := by
  rw [nestAfter]
  split_ifs with opens closes
  · omega
  · have more : nest ≠ 1 := fun once => stays ⟨closes, once⟩
    omega
  · exact pos

theorem tracks_members {nest : Nat} (pos : 0 < nest) (s : List Char) :
    Tracks (.classMembers false) nest s := by
  rcases Nat.lt_or_ge 1 nest with nested | once
  · exact .inl nested
  · exact .inr ⟨by omega, nofun⟩

theorem Tracks.pos {m : Mode} {nest : Nat} {s : List Char} (h : Tracks m nest s) : 0 < nest := by
  cases m with
  | text => exact h
  | classStart => rcases h with nested | ⟨once, -⟩ <;> omega
  | classMembers fresh => rcases h with nested | ⟨once, -⟩ <;> omega
  | escaped => exact h.elim
  | classEscaped => exact h.elim

theorem Tracks.step {m : Mode} {nest : Nat} {c : Char} {s : List Char} (h : Tracks m nest (c :: s))
    (plain : c ≠ '\\') (stays : ¬(c = ']' ∧ nest = 1)) :
    Tracks (m.next c) (nestAfter nest c) s := by
  have pos := nestAfter_pos h.pos stays
  cases m with
  | text =>
    rw [Mode.next, if_neg plain]
    split_ifs with opens
    · have := h.pos
      exact .inl (by rw [nestAfter, if_pos opens]; omega)
    · exact pos
  | classStart =>
    rw [Mode.next]
    split_ifs with caret
    · subst caret
      rcases h with nested | ⟨-, plain, -⟩
      · exact .inl nested
      · exact (plain s rfl).elim
    · exact tracks_members pos s
  | classMembers fresh =>
    rw [Mode.next]
    split_ifs with closes
    · exact pos
    · exact tracks_members pos s
  | escaped => exact h.elim
  | classEscaped => exact h.elim

theorem Tracks.escape {m : Mode} {nest : Nat} {s : List Char} (h : Tracks m nest s) :
    m.next '\\' = .escaped ∨ m.next '\\' = .classEscaped := by
  cases m with
  | text => exact .inl rfl
  | classStart => exact .inr rfl
  | classMembers fresh => exact .inr rfl
  | escaped => exact h.elim
  | classEscaped => exact h.elim

/-- The scanner is in a class. -/
def Mode.inClass : Mode → Bool
  | .text | .escaped => false
  | _ => true

theorem Mode.inClass_next {m : Mode} {c : Char} (inside : m.inClass) (stays : c ≠ ']') :
    (m.next c).inClass := by
  cases m with
  | text => cases inside
  | escaped => cases inside
  | classStart => rw [Mode.next]; split_ifs <;> rfl
  | classMembers fresh => simp only [Mode.next, stays]; split_ifs <;> simp_all [Mode.inClass]
  | classEscaped => rfl

/-- Behind the text the scanner is out of the class. Without a bracket inside it has reported
nothing, whatever follows. -/
structure Leaves (m : Mode) (nest : Nat) (s : List Char) : Prop where
  after : m.after s = .text
  flat : m.inClass → nest = 1 → '[' ∉ s → ∀ rest, scan m (s ++ rest) = scan .text rest

theorem Leaves.cons {m : Mode} {nest k : Nat} {c : Char} {s : List Char} (h : Leaves (m.next c) k s)
    (stays : m.inClass → nest = 1 → c ≠ '[' → (m.next c).inClass ∧ k = 1) :
    Leaves m nest (c :: s) := by
  refine ⟨h.after, fun inside once none rest => ?_⟩
  obtain ⟨other, none⟩ := not_or.mp (List.mem_cons.not.mp none)
  obtain ⟨inside', once'⟩ := stays inside once (Ne.symm other)
  rw [List.cons_append, scan_cons, h.flat inside' once' none]
  cases m with
  | text => cases inside
  | _ => rfl

/-- **Behind the bracket that closes a class the scanner is in the text.** -/
theorem leaves_of_closes {m : Mode} {nest : Nat} {s : List Char} (tracks : Tracks m nest s)
    (closed : closes nest s = true) : Leaves m nest s := by
  fun_induction closes nest s generalizing m with
  | case1 nest c s ih =>
    have pos := tracks.pos
    have inside (still : m.inClass) (once : nest = 1) : (m.next '\\').inClass ∧ nest = 1 :=
      ⟨Mode.inClass_next still (by decide), once⟩
    rcases tracks.escape with escaped | escaped
    · have text : (m.next '\\').next c = .text := by rw [escaped]; rfl
      refine .cons (.cons (k := nest) (text ▸ ih pos closed) fun still => ?_) fun still once _ =>
        inside still once
      rw [escaped] at still
      cases still
    · have members : (m.next '\\').next c = .classMembers false := by rw [escaped]; rfl
      refine .cons (.cons (k := nest) (members ▸ ih (tracks_members pos s) closed) fun _ once _ =>
        ?_)
        fun still once _ => inside still once
      exact ⟨by rw [members]; rfl, once⟩
  | case2 nest c s _ ends =>
    obtain ⟨rfl, rfl⟩ := ends
    obtain rfl := List.isEmpty_iff.mp closed
    refine ⟨tracks.closed, fun still _ _ rest => ?_⟩
    have quiet : m.reports ']' rest = false := by cases m <;> simp [Mode.reports]
    rw [List.cons_append, List.nil_append, scan_cons, quiet, tracks.closed]
    rfl
  | case3 nest c s plain stays ih =>
    have other : c ≠ '\\' := by
      rintro rfl
      cases s with
      | nil => cases closed
      | cons d s => exact plain d s rfl rfl
    refine .cons (ih (tracks.step other stays) closed) fun inside once bracket => ?_
    have stays : c ≠ ']' := fun closes => stays ⟨closes, once⟩
    exact ⟨Mode.inClass_next inside stays, by simp [nestAfter, bracket, stays, once]⟩
  | case4 => cases closed

/-- Behind a class the scanner is in the text, and without a class in it it has reported nothing. -/
theorem leaves_of_isClass {s : List Char} (h : IsClass s) : Leaves .classStart 1 s := by
  rw [IsClass] at h
  by_cases caret : ∃ t, s = '^' :: t
  · obtain ⟨t, rfl⟩ := caret
    refine .cons (k := 1) ?_ fun _ _ _ => ⟨rfl, rfl⟩
    by_cases bracket : ∃ u, t = ']' :: u
    · obtain ⟨u, rfl⟩ := bracket
      exact .cons (leaves_of_closes (tracks_members Nat.one_pos u) h) fun _ _ _ => ⟨rfl, rfl⟩
    · have plain : ∀ u, t ≠ ']' :: u := fun u same => bracket ⟨u, same⟩
      have same : behind ']' t = t := behind_of_ne plain
      exact leaves_of_closes (m := .classMembers true) (.inr ⟨rfl, fun _ => plain⟩) (same ▸ h)
  · have uncaret : ∀ t, s ≠ '^' :: t := fun t same => caret ⟨t, same⟩
    rw [behind_of_ne uncaret] at h
    by_cases bracket : ∃ u, s = ']' :: u
    · obtain ⟨u, rfl⟩ := bracket
      exact .cons (leaves_of_closes (tracks_members Nat.one_pos u) h) fun _ _ _ => ⟨rfl, rfl⟩
    · have plain : ∀ u, s ≠ ']' :: u := fun u same => bracket ⟨u, same⟩
      rw [behind_of_ne plain] at h
      exact leaves_of_closes (m := .classStart) (.inr ⟨rfl, uncaret, plain⟩) h

end Conlang.Pattern.Lookaround
