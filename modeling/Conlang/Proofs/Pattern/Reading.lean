import Conlang.Pattern.Replace

/-! Reading goes on the same when the end of a frame follows.

A frame ends in a parenthesis that closes and a dollar (`frameEnd`). Neither begins or continues
anything that is read by characters: gaps, numbers, names, bounds, escapes and classes. So whatever
of these is read from a text is read alike when the end of a frame is put behind it, and leaves that
end. There is one exception: a comment to the end of the line takes the end of the frame too
(`GapEnds.swallowed`). -/
namespace Conlang.Pattern
open Text

/-- What a frame puts behind a pattern. -/
def frameEnd : List Char := [')', '$']

/-- Before the end of a frame stands what has no parenthesis of the frame in it. -/
theorem append_frameEnd_ne_append {s head : List Char} (other : ')' ∉ head)
    (h : ∀ rest, s = head ++ rest → False) (rest : List Char) :
    s ++ frameEnd = head ++ rest → False := by
  intro same
  rcases List.append_eq_append_iff.mp same with ⟨after, split, ended⟩ | ⟨after, split, -⟩
  · cases after with
    | nil => exact h [] (by rw [split, List.append_nil, List.append_nil])
    | cons c after =>
      obtain rfl : c = ')' := (List.cons.inj ended).1.symm
      exact other (split ▸ List.mem_append_right s List.mem_cons_self)
  · exact h after split

/-- The end of a frame begins only what its parenthesis begins. -/
theorem append_frameEnd_ne_cons {s : List Char} {c : Char} (other : c ≠ ')')
    (h : ∀ rest, s = c :: rest → False) (rest : List Char) : s ++ frameEnd = c :: rest → False := by
  cases s with
  | nil => exact fun same => other (List.cons.inj same).1.symm
  | cons d after => exact fun same => h after (by rw [(List.cons.inj same).1])

/-! ### Reading on -/

/-- Where `x` reads something, `y` reads the same and leaves the end of the frame too. -/
def ReadsOn {α : Type} (x y : Except Fault (α × List Char)) : Prop :=
  ∀ a rest, x = .ok (a, rest) → y = .ok (a, rest ++ frameEnd)

theorem ReadsOn.ok {α : Type} (a : α) (rest : List Char) :
    ReadsOn (.ok (a, rest)) (.ok (a, rest ++ frameEnd)) := by
  rintro b after same
  obtain ⟨rfl, rfl⟩ := Prod.mk.inj (Except.ok.inj same)
  rfl

theorem ReadsOn.error {α : Type} (e : Fault) (y : Except Fault (α × List Char)) :
    ReadsOn (.error e) y := nofun

theorem ReadsOn.bind {α β : Type} {x y : Except Fault (α × List Char)}
    {f g : α × List Char → Except Fault (β × List Char)} (h : ReadsOn x y)
    (next : ∀ a rest, ReadsOn (f (a, rest)) (g (a, rest ++ frameEnd))) :
    ReadsOn (x >>= f) (y >>= g) := by
  cases x with
  | error e => exact .error _ _
  | ok read =>
    rw [h read.1 read.2 rfl]
    exact next read.1 read.2

/-! ### Gaps -/

namespace Reader

/-- What is left behind a gap of a text, and behind the same gap where the end of a frame follows
the text. -/
inductive GapEnds : Except Fault (List Char) → Except Fault (List Char) → Prop where
  | same (rest) : GapEnds (.ok rest) (.ok (rest ++ frameEnd))
  | swallowed : GapEnds (.ok []) (.ok [])
  /-- The end of the frame does not close an open note, or it does. -/
  | unclosed (e e') : GapEnds (.error e) (.error e')
  | closed (e) : GapEnds (.error e) (.ok ['$'])

theorem skipGap_append (spaced : Bool) (g : Gap) (s : List Char) :
    GapEnds (skipGap spaced g s) (skipGap spaced g (s ++ frameEnd)) := by
  -- A note begins before the end of the frame or not at all.
  have noNote {c : Char} {rest : List Char} (h : ∀ r, c = '(' → rest = '?' :: '#' :: r → False)
      (r : List Char) (open' : c = '(') (begins : rest ++ frameEnd = '?' :: '#' :: r) : False := by
    rcases rest with _ | ⟨d, _ | ⟨e, rest⟩⟩
    · simp [frameEnd] at begins
    · simp [frameEnd] at begins
    · simp only [List.cons_append, List.cons.injEq] at begins
      exact h rest open' (by rw [begins.1, begins.2.1])
  fun_induction skipGap spaced g s with
  | case1 => cases spaced <;> exact .same []
  | case2 rest ih => exact ih
  | case3 c rest plain hash ih =>
    rw [List.cons_append, skipGap, if_pos hash]
    · exact ih
    · exact noNote plain
  | case4 c rest plain hash blank ih =>
    rw [List.cons_append, skipGap, if_neg hash, if_pos blank]
    · exact ih
    · exact noNote plain
  | case5 c rest plain hash blank =>
    rw [List.cons_append, skipGap, if_neg hash, if_neg blank]
    · exact .same (c :: rest)
    · exact noNote plain
  | case6 => exact .swallowed
  | case7 c rest ih => exact ih
  | case8 escaped => 
    cases escaped
    · cases spaced <;> exact .closed _
    · exact .unclosed _ _
  | case9 c rest ih => exact ih
  | case10 c rest ih => exact ih

end Reader

/-! ### Numbers and names -/

section
variable {p : Char → Bool} (ends : p ')' = false) (s : List Char)

include ends

theorem takeWhile_append_frameEnd : (s ++ frameEnd).takeWhile p = s.takeWhile p := by
  induction s with
  | nil => simp [frameEnd, ends]
  | cons c rest ih => cases h : p c <;> simp [h, ih]

theorem dropWhile_append_frameEnd : (s ++ frameEnd).dropWhile p = s.dropWhile p ++ frameEnd := by
  induction s with
  | nil => simp [frameEnd, ends]
  | cons c rest ih => cases h : p c <;> simp [h, ih]

end

theorem readNumber?_append (s : List Char) :
    readNumber? (s ++ frameEnd) = (readNumber? s).map fun (n, rest) => (n, rest ++ frameEnd) := by
  rw [readNumber?, readNumber?, takeWhile_append_frameEnd (by decide),
    dropWhile_append_frameEnd (by decide)]
  simp only
  split <;> rfl

/-- A name after its hyphen. -/
def nameAfter? (close : Char) (sign body : List Char) : Option (String × List Char) :=
  match body.dropWhile isNameChar with
  | c :: rest =>
    if c = close && !(sign ++ body.takeWhile isNameChar).isEmpty then
      some (.ofList (sign ++ body.takeWhile isNameChar), rest)
    else none
  | [] => none

theorem nameAfter?_append {close : Char} {sign body rest : List Char} {name : String}
    (h : nameAfter? close sign body = some (name, rest)) :
    nameAfter? close sign (body ++ frameEnd) = some (name, rest ++ frameEnd) := by
  have ends : isNameChar ')' = false := by decide +kernel
  rw [nameAfter?] at h ⊢
  rw [takeWhile_append_frameEnd ends, dropWhile_append_frameEnd ends]
  cases left : body.dropWhile isNameChar with
  | nil => rw [left] at h; cases h
  | cons c after =>
    rw [left] at h
    simp only [List.cons_append] at h ⊢
    split at h
    · rename_i fits
      obtain ⟨rfl, rfl⟩ := Prod.mk.inj (Option.some.inj h)
      rw [if_pos fits]
    · cases h

theorem readName?_of_ne {close : Char} {hyphen : Bool} {s : List Char}
    (h : ∀ rest, hyphen = true → s ≠ '-' :: rest) :
    readName? close hyphen s = nameAfter? close [] s := by
  rw [readName?]
  · rfl
  · exact h

theorem readName?_append {close : Char} {hyphen : Bool} {s rest : List Char} {name : String}
    (h : readName? close hyphen s = some (name, rest)) :
    readName? close hyphen (s ++ frameEnd) = some (name, rest ++ frameEnd) := by
  by_cases signed : ∃ body, hyphen = true ∧ s = '-' :: body
  · obtain ⟨body, rfl, rfl⟩ := signed
    have after : nameAfter? close ['-'] body = some (name, rest) := h
    exact nameAfter?_append after
  · have unsigned (body : List Char) (on : hyphen = true) : s ≠ '-' :: body := fun same =>
      signed ⟨body, on, same⟩
    have unsigned' (body : List Char) (on : hyphen = true) : s ++ frameEnd ≠ '-' :: body :=
      append_frameEnd_ne_cons (by decide) (fun rest => unsigned rest on) body
    rw [readName?_of_ne unsigned] at h
    rw [readName?_of_ne unsigned']
    exact nameAfter?_append h

/-! ### Bounds -/

namespace Reader

theorem bind_skipGap_append {β : Type} {spaced : Bool} {f : List Char → Option β} {g : β → β}
    (same : ∀ rest, f (rest ++ frameEnd) = (f rest).map g) (nothing : f [] = none)
    (dollar : f ['$'] = none) (s : List Char) :
    ((skipGap spaced .outside (s ++ frameEnd)).toOption >>= f) =
      ((skipGap spaced .outside s).toOption >>= f).map g := by
  have ends := skipGap_append spaced .outside s
  revert ends
  generalize skipGap spaced .outside s = x
  generalize skipGap spaced .outside (s ++ frameEnd) = y
  intro ends
  cases ends with
  | same rest => exact same rest
  | swallowed => show f [] = (f []).map g; rw [nothing]; rfl
  | unclosed => rfl
  | closed => exact dollar

/-- The text behind bounds is followed by the end of the frame. -/
abbrev withEnd : Nat × Option Nat × List Char → Nat × Option Nat × List Char
  | (least, most, rest) => (least, most, rest ++ frameEnd)

/-- Bounds behind their first number. -/
def boundsAfter? (spaced : Bool) (least : Nat) (s : List Char) :
    Option (Nat × Option Nat × List Char) := do
  let s ← (skipGap spaced .outside s).toOption
  match s with
  | '}' :: rest => some (least, some least, rest)
  | ',' :: s =>
    let s ← (skipGap spaced .outside s).toOption
    let (most, s) := match readNumber? s with
      | some (n, rest) => (if n = maxNumber then none else some n, rest)
      | none => (none, s)
    match ← (skipGap spaced .outside s).toOption with
    | '}' :: rest => some (least, most, rest)
    | _ => none
  | _ => none

theorem readBounds?_eq (spaced : Bool) (s : List Char) :
    readBounds? spaced s = ((skipGap spaced .outside s).toOption >>= fun s =>
      match s with
      | ',' :: _ => boundsAfter? spaced 0 s
      | _ => readNumber? s >>= fun (least, s) => boundsAfter? spaced least s) := by
  rw [readBounds?]
  refine congrArg _ (funext fun s => ?_)
  cases s <;> rfl

theorem boundsAfter?_append (spaced : Bool) (least : Nat) (s : List Char) :
    boundsAfter? spaced least (s ++ frameEnd) = (boundsAfter? spaced least s).map withEnd := by
  have closes (most : Option Nat) (rest : List Char) :
      (match rest ++ frameEnd with
        | '}' :: rest => some (least, most, rest)
        | _ => none) =
      (match rest with
        | '}' :: rest => some (least, most, rest)
        | _ => none).map withEnd := by
    rcases rest with _ | ⟨c, rest⟩
    · rfl
    · by_cases brace : c = '}'
      · subst brace; rfl
      · simp [brace]
  refine bind_skipGap_append (fun rest => ?_) rfl rfl s
  rcases rest with _ | ⟨c, rest⟩
  · rfl
  · by_cases brace : c = '}'
    · subst brace; rfl
    · by_cases comma : c = ','
      · subst comma
        refine bind_skipGap_append (fun rest => ?_) rfl (by cases spaced <;> rfl) rest
        rw [readNumber?_append]
        cases readNumber? rest with
        | none => exact bind_skipGap_append (closes none) rfl rfl rest
        | some read => exact bind_skipGap_append (closes _) rfl rfl read.2
      · simp [brace, comma]

theorem readBounds?_append (spaced : Bool) (s : List Char) :
    readBounds? spaced (s ++ frameEnd) = (readBounds? spaced s).map withEnd := by
  rw [readBounds?_eq, readBounds?_eq]
  have numbered (rest : List Char) :
      (readNumber? (rest ++ frameEnd) >>= fun (least, s) => boundsAfter? spaced least s) =
        (readNumber? rest >>= fun (least, s) => boundsAfter? spaced least s).map withEnd := by
    rw [readNumber?_append]
    cases readNumber? rest with
    | none => rfl
    | some read => exact boundsAfter?_append ..
  refine bind_skipGap_append (fun rest => ?_) rfl rfl s
  cases rest with
  | nil => rfl
  | cons c rest =>
    by_cases comma : c = ','
    · subst comma; exact boundsAfter?_append spaced 0 (',' :: rest)
    · simpa [comma] using numbered (c :: rest)

theorem quantifier?_append (spaced : Bool) (s : List Char) :
    quantifier? spaced (s ++ frameEnd) = (quantifier? spaced s).map withEnd := by
  fun_cases quantifier? spaced s with
  | case1 => rfl
  | case2 => rfl
  | case3 => rfl
  | case4 rest => exact readBounds?_append spaced rest
  | case5 s once any some bounds =>
    rw [quantifier?]
    · rfl
    · exact append_frameEnd_ne_cons (by decide) once
    · exact append_frameEnd_ne_cons (by decide) any
    · exact append_frameEnd_ne_cons (by decide) some
    · exact append_frameEnd_ne_cons (by decide) bounds

end Reader

/-! ### Escapes -/

namespace Escape

theorem cutAt?_append {c : Char} {s before after : List Char}
    (h : cutAt? [c] s = some (before, after)) :
    cutAt? [c] (s ++ frameEnd) = some (before, after ++ frameEnd) := by
  induction s generalizing before with
  | nil => cases h
  | cons d rest ih =>
    rw [List.cons_append]
    rw [cutAt?] at h ⊢
    simp only [List.isPrefixOf_cons_cons, List.isPrefixOf_nil_left, Bool.and_true] at h ⊢
    split at h
    · rename_i found
      obtain ⟨rfl, rfl⟩ := Prod.mk.inj (Option.some.inj h)
      rw [if_pos found]
      rfl
    · rename_i differs
      rw [if_neg differs]
      obtain ⟨⟨before', after'⟩, found, same⟩ := Option.map_eq_some_iff.mp h
      obtain ⟨rfl, rfl⟩ := Prod.mk.inj same
      rw [ih found]
      rfl

theorem readsOn_ofCode (code : Nat) (rest : List Char) :
    ReadsOn (ofCode code rest) (ofCode code (rest ++ frameEnd)) := by
  rw [ofCode, ofCode]
  split
  · exact .ok _ _
  · exact .error _ _

theorem readsOn_readHex (digits : Nat) (s : List Char) :
    ReadsOn (readHex digits s) (readHex digits (s ++ frameEnd)) := by
  rw [readHex.eq_def, readHex.eq_def]
  simp only
  split
  · rename_i plain
    have enough : digits ≤ s.length := by
      simp only [Bool.and_eq_true, decide_eq_true_eq, List.length_take] at plain
      omega
    rw [List.take_append_of_le_length enough, List.drop_append_of_le_length enough, if_pos plain]
    exact readsOn_ofCode _ _
  · rename_i braced
    split
    · rename_i body
      have some : digits ≠ 0 := by
        rintro rfl
        simp at braced
      obtain ⟨n, rfl⟩ := Nat.exists_eq_succ_of_ne_zero some
      have open' : isHexDigit '{' = false := by decide
      have ends : isHexDigit ')' = false := by decide
      rw [if_neg (by simp [open'])]
      simp only [List.cons_append]
      rw [takeWhile_append_frameEnd ends, dropWhile_append_frameEnd ends]
      split
      · rename_i rest left
        rw [left]
        simp only [List.cons_append]
        split
        · exact .error _ _
        · exact readsOn_ofCode _ _
      · exact .error _ _
    · exact .error _ _

theorem readsOn_propertySet (foldCase negated : Bool) (text rest : List Char) :
    ReadsOn ((propertySet foldCase negated text).map fun chars => (Escape.set chars, rest))
      ((propertySet foldCase negated text).map fun chars =>
        (Escape.set chars, rest ++ frameEnd)) := by
  cases propertySet foldCase negated text with
  | error fault => exact .error _ _
  | ok chars => exact .ok _ _

theorem readsOn_readProperty (foldCase negated : Bool) (s : List Char) :
    ReadsOn (readProperty foldCase negated s) (readProperty foldCase negated (s ++ frameEnd)) := by
  fun_cases readProperty foldCase negated s with
  | case1 => exact .error _ _
  | case2 body cut => exact .error _ _
  | case3 body name rest cut =>
    rw [List.cons_append, readProperty, cutAt?_append cut]
    exact readsOn_propertySet _ _ _ _
  | case4 c rest plain =>
    rw [List.cons_append, readProperty]
    · exact readsOn_propertySet _ _ _ _
    · exact plain

theorem readsOn_named (close : Char) (s : List Char) :
    ReadsOn (readOutside?.named close s) (readOutside?.named close (s ++ frameEnd)) := by
  rw [readOutside?.named]
  cases found : readName? close true s with
  | none => exact .error _ _
  | some name =>
    rw [readOutside?.named, readName?_append found]
    exact .ok _ _

theorem readsOn_boundary (place : Assertion) (s : List Char) :
    ReadsOn (boundary place s) (boundary place (s ++ frameEnd)) := by
  fun_cases boundary place s with
  | case1 => exact .error _ _
  | case2 _ brace =>
    rw [boundary]
    · exact .ok _ _
    · exact append_frameEnd_ne_cons (by decide) brace

theorem readOutside?_append {s : List Char} (begun : s ≠ []) :
    match readOutside? s with
    | none => readOutside? (s ++ frameEnd) = none
    | some x => ∃ y, readOutside? (s ++ frameEnd) = some y ∧ ReadsOn x y := by
  fun_cases readOutside? s with
  | case1 => exact ⟨_, rfl, .ok _ _⟩
  | case2 => exact ⟨_, rfl, .ok _ _⟩
  | case3 rest => exact ⟨_, rfl, readsOn_boundary _ rest⟩
  | case4 rest => exact ⟨_, rfl, readsOn_boundary _ rest⟩
  | case5 => exact ⟨_, rfl, .ok _ _⟩
  | case6 => exact ⟨_, rfl, .ok _ _⟩
  | case7 => exact ⟨_, rfl, .ok _ _⟩
  | case8 => exact ⟨_, rfl, .ok _ _⟩
  | case9 rest => exact ⟨_, rfl, readsOn_named _ rest⟩
  | case10 rest => exact ⟨_, rfl, readsOn_named _ rest⟩
  | case11 rest quote angle =>
    refine ⟨.error .badGroupName, ?_, .error _ _⟩
    rw [List.cons_append, readOutside?]
    · exact append_frameEnd_ne_cons (by decide) quote
    · exact append_frameEnd_ne_cons (by decide) angle
  | case12 s h1 h2 h3 h4 h5 h6 h7 h8 h9 h10 h11 =>
    have other {c : Char} (h : ∀ rest, s = c :: rest → False) (rest : List Char) :
        s ++ frameEnd = c :: rest → False := by
      obtain ⟨d, after, rfl⟩ := List.exists_cons_of_ne_nil begun
      exact fun same => h after (by rw [(List.cons.inj same).1])
    rw [readOutside?]
    all_goals first | exact other ‹_› | exact fun _ => other h11 _

theorem readsOn_read (foldCase inClass : Bool) (s : List Char) :
    ReadsOn (read foldCase inClass s) (read foldCase inClass (s ++ frameEnd)) := by
  cases s with
  | nil => exact .error _ _
  | cons c rest =>
    rw [List.cons_append, read.eq_def, read.eq_def]
    simp only
    split
    · rw [← List.cons_append, readNumber?_append]
      cases readNumber? (c :: rest) with
      | none => exact .error _ _
      | some n => exact .ok _ _
    · have outside : (if inClass then none else readOutside? (c :: rest)) = none ∧
            (if inClass then none else readOutside? (c :: (rest ++ frameEnd))) = none ∨
          ∃ x y, (if inClass then none else readOutside? (c :: rest)) = some x ∧
            (if inClass then none else readOutside? (c :: (rest ++ frameEnd))) = some y ∧
            ReadsOn x y := by
        cases inClass with
        | true => exact .inl ⟨rfl, rfl⟩
        | false =>
          have goes := readOutside?_append (s := c :: rest) (List.cons_ne_nil c rest)
          simp only [List.cons_append, Bool.false_eq_true, if_false] at goes ⊢
          cases found : readOutside? (c :: rest) with
          | none => rw [found] at goes; exact .inl ⟨rfl, goes⟩
          | some x =>
            rw [found] at goes
            obtain ⟨y, found', goes⟩ := goes
            exact .inr ⟨x, y, rfl, found', goes⟩
      rcases outside with ⟨none, none'⟩ | ⟨x, y, found, found', goes⟩
      · rw [none, none']
        simp only
        cases letterSet? c with
        | some chars => exact .ok _ _
        | none =>
          simp only
          split
          · exact readsOn_readHex _ _
          · exact readsOn_readHex _ _
          · exact readsOn_readHex _ _
          · exact readsOn_readProperty _ _ _
          · exact readsOn_readProperty _ _ _
          · cases letterChar? c with
            | some named => exact .ok _ _
            | none =>
              simp only
              split
              · exact .error _ _
              · exact .ok _ _
      · rw [found, found']
        exact goes

end Escape

/-! ### Classes -/

namespace CharClass

theorem readsOn_scanEscape (foldCase : Bool) (s : List Char) :
    ReadsOn (scanEscape foldCase s) (scanEscape foldCase (s ++ frameEnd)) := by
  by_cases hex : (∃ rest, s = 'h' :: rest) ∨ ∃ rest, s = 'H' :: rest
  · rcases hex with ⟨rest, rfl⟩ | ⟨rest, rfl⟩
    · exact .ok _ _
    · exact .ok _ _
  · have lower (rest : List Char) (same : s = 'h' :: rest) : False := hex (.inl ⟨rest, same⟩)
    have upper (rest : List Char) (same : s = 'H' :: rest) : False := hex (.inr ⟨rest, same⟩)
    rw [scanEscape, scanEscape]
    · have escape := Escape.readsOn_read foldCase true s
      cases found : Escape.read foldCase true s with
      | error fault => exact .error _ _
      | ok read =>
        obtain ⟨e, rest⟩ := read
        rw [escape _ _ found]
        cases e with
        | char c coded => exact .ok _ _
        | set chars => exact .ok _ _
        | _ => exact .error _ _
    · exact append_frameEnd_ne_cons (by decide) lower
    · exact append_frameEnd_ne_cons (by decide) upper
    · exact lower
    · exact upper

theorem readsOn_scan (foldCase : Bool) {fuel fuel' : Nat} (enough : fuel ≤ fuel') (nest : Nat)
    (s : List Char) :
    ReadsOn (scan foldCase fuel nest s) (scan foldCase fuel' nest (s ++ frameEnd)) := by
  fun_induction scan foldCase fuel nest s generalizing fuel' with
  | case1 => exact .error _ _
  | case2 => exact .error _ _
  | case3 fuel nest rest ih =>
    obtain ⟨fuel', rfl⟩ := Nat.exists_eq_succ_of_ne_zero (show fuel' ≠ 0 by omega)
    rw [List.cons_append, scan]
    refine (readsOn_scanEscape foldCase rest).bind fun tokens after => ?_
    exact (ih after (by omega)).bind fun more left => .ok _ _
  | case4 fuel nest c rest escape closes =>
    obtain ⟨fuel', rfl⟩ := Nat.exists_eq_succ_of_ne_zero (show fuel' ≠ 0 by omega)
    rw [List.cons_append, scan, if_pos closes]
    · exact .ok _ _
    · exact escape
  | case5 fuel nest c rest escape stays nest' =>
    rename_i ih
    obtain ⟨fuel', rfl⟩ := Nat.exists_eq_succ_of_ne_zero (show fuel' ≠ 0 by omega)
    rw [List.cons_append, scan, if_neg stays]
    · exact (ih (by omega)).bind fun more left => .ok _ _
    · exact escape

/-- A character that has a role of its own at the head of a class. -/
def lead (c : Char) : List Char → List Token × List Char
  | [] => ([], [])
  | d :: rest => if d = c then ([.bare c], rest) else ([], d :: rest)

theorem lead_append {c : Char} (other : c ≠ ')') (s : List Char) :
    lead c (s ++ frameEnd) = ((lead c s).1, (lead c s).2 ++ frameEnd) := by
  cases s with
  | nil => exact if_neg other.symm
  | cons d rest =>
    rw [List.cons_append, lead, lead]
    split <;> rfl

theorem scanOpened_eq (foldCase : Bool) (s : List Char) :
    scanOpened foldCase s =
      scan foldCase ((lead ']' (lead '^' s).2).2.length + 1) 1
        (lead ']' (lead '^' s).2).2 >>= fun x =>
        .ok ((lead '^' s).1 ++ (lead ']' (lead '^' s).2).1 ++ x.1, x.2) := by
  fun_cases scanOpened foldCase s with
  | case1 first left caret second left' bracket =>
    have leads : lead '^' s = (first, left) := by
      cases s with
      | nil => exact caret
      | cons d rest => rw [lead]; split at caret <;> simp_all
    have leads' : lead ']' left = (second, left') := by
      cases left with
      | nil => exact bracket
      | cons d rest => rw [lead]; split at bracket <;> simp_all
    rw [leads, leads']

theorem readsOn_scanOpened (foldCase : Bool) (s : List Char) :
    ReadsOn (scanOpened foldCase s) (scanOpened foldCase (s ++ frameEnd)) := by
  rw [scanOpened_eq, scanOpened_eq, lead_append (by decide), lead_append (by decide)]
  exact (readsOn_scan foldCase (by simp) 1 _).bind fun tokens rest => .ok _ _

theorem readsOn_read (foldCase : Bool) (s : List Char) :
    ReadsOn (read foldCase s) (read foldCase (s ++ frameEnd)) := by
  rw [read, read]
  refine (readsOn_scanOpened foldCase s).bind fun tokens rest => ?_
  simp only
  cases opened foldCase (2 * tokens.length + 2) tokens with
  | error fault => exact .error _ _
  | ok read =>
    obtain ⟨chars, left⟩ := read
    cases left with
    | nil => exact .ok _ _
    | cons t ts => exact .error _ _

end CharClass

end Conlang.Pattern
