import Conlang.Proofs.Pattern.Framing
import Conlang.Proofs.Pattern.Passing

/-! What is read is cut into tokens.

As a reader goes on, what lies behind it is cut (`Cuts`), and whether one of the tokens looks around
is whether the node does that has been read (`Keeps`). A parenthesis has to wait for what it opens,
and for the gap in between (`Opened`). So each pattern that is read is cut into tokens, one of which
looks around exactly if the pattern does (`exists_isCut`). -/
namespace Conlang.Pattern

namespace Reader

/-! ### Where a reader ends -/

/-- What holds where a reader ends, if it reads. -/
def Ends {α : Type} (m : ReadM α) (s : State) (Q : α → State → Prop) : Prop :=
  ∀ ⦃a r⦄, m s = .ok (a, r) → Q a r

section
variable {α β : Type} {m : ReadM α} {f : α → ReadM β} {s : State}
variable {Q : α → State → Prop} {R : β → State → Prop}

theorem Ends.pure {a : α} (h : Q a s) : Ends (Pure.pure a) s Q := by
  intro b r read
  obtain ⟨rfl, rfl⟩ := Prod.mk.inj (Except.ok.inj read)
  exact h

theorem Ends.throw (e : Fault) : Ends (MonadExcept.throw e) s Q := nofun

theorem Ends.refused (e : Fault) : Ends (MonadExcept.throw e >>= f) s R := nofun

theorem Ends.bind (h : Ends m s fun a r => Ends (f a) r R) : Ends (m >>= f) s R := by
  intro b r read
  obtain ⟨a, after, first, rest⟩ := bind_ok read
  exact h first rest

theorem Ends.map {g : α → β} (h : Ends m s fun a r => R (g a) r) : Ends (g <$> m) s R := by
  rw [← bind_pure_comp]
  exact bind fun a r read => .pure (h read)

theorem Ends.imp {Q' : α → State → Prop} (h : Ends m s Q) (weaker : ∀ a r, Q a r → Q' a r) :
    Ends m s Q' :=
  fun a r read => weaker a r (h read)

theorem Ends.get {f : State → ReadM β} (h : Ends (f s) s R) : Ends (MonadState.get >>= f) s R := h

theorem Ends.setRest {rest : List Char} {f : Unit → ReadM β} (h : Ends (f ()) { s with rest } R) :
    Ends (Reader.setRest rest >>= f) s R := h

theorem Ends.setRest_last {rest : List Char} {Q : Unit → State → Prop} (h : Q () { s with rest }) :
    Ends (Reader.setRest rest) s Q := by
  rintro ⟨⟩ r read
  obtain ⟨-, rfl⟩ := Prod.mk.inj (Except.ok.inj read)
  exact h

theorem Ends.modify {g : State → State} {f : Unit → ReadM β} (h : Ends (f ()) (g s) R) :
    Ends (modify g >>= f) s R := h

theorem Ends.set {s' : State} {f : Unit → ReadM β} (h : Ends (f ()) s' R) :
    Ends (MonadStateOf.set s' >>= f) s R := h

theorem Ends.lift {x : Except Fault α} (h : ∀ a, x = .ok a → Ends (f a) s R) :
    Ends (liftM x >>= f) s R := by
  cases x with
  | error e => exact nofun
  | ok a => exact h a rfl

end

theorem skipGap_mark (spaced : Bool) (rest : List Char) :
    skipGap spaced .outside ('?' :: rest) = .ok ('?' :: rest) := by
  cases spaced <;> rfl

theorem skipGap_suffix {spaced : Bool} {g : Gap} {s rest : List Char}
    (skipped : skipGap spaced g s = .ok rest) : rest <:+ s := by
  fun_induction skipGap spaced g s with
  | case1 => cases skipped; exact List.suffix_refl _
  | case2 t ih => exact (ih skipped).trans ⟨['(', '?', '#'], rfl⟩
  | case3 c t plain hash ih => exact (ih skipped).trans (List.suffix_cons c t)
  | case4 c t plain hash blank ih => exact (ih skipped).trans (List.suffix_cons c t)
  | case5 c t plain hash blank => cases skipped; exact List.suffix_refl _
  | case6 => cases skipped; exact List.suffix_refl _
  | case7 c t ih => exact (ih skipped).trans (List.suffix_cons c t)
  | case8 => cases skipped
  | case9 c t ih => exact (ih skipped).trans (List.suffix_cons c t)
  | case10 c t ih => exact (ih skipped).trans (List.suffix_cons c t)

section
variable {s : State} {rest : List Char} (begins : s.rest = '?' :: rest)

include begins

theorem skip_of_mark : skip s = .ok ((), s) := by
  rw [skip_apply, begins, skipGap_mark, ← begins]
  rfl

/-- Nothing can be read where there is nothing to repeat. -/
theorem alternatives_of_mark (n d : Nat) {Q : Node → State → Prop} :
    Ends (alternatives n d) s Q := by
  have skipped {β : Type} {f : Unit → ReadM β} {R : β → State → Prop} (h : Ends (f ()) s R) :
      Ends (skip >>= f) s R :=
    fun b r read => h ((bind_of_ok (skip_of_mark begins)).symm.trans read)
  match n with
  | 0 => rw [alternatives]; exact .throw _
  | 1 => rw [alternatives, branch]; exact .refused _
  | n + 2 =>
    rw [alternatives, branch]
    refine .bind (.get ?_)
    rw [begins]
    refine .bind ?_
    cases n with
    | zero => rw [atom]; exact .throw _
    | succ n =>
      rw [atom]
      refine skipped (.get ?_)
      rw [begins]
      refine .pure (.bind ?_)
      rw [quantified]
      refine skipped (.get ?_)
      rw [begins]
      exact .refused _

end

end Reader

namespace Lookaround
open Reader Text

/-! ### Cuts that go on -/

section
variable {t s rest : List Char} {looks : Bool}

theorem Cuts.on (h : Cuts t s looks) (more : Cuts s rest false) : Cuts t rest looks := by
  simpa using h.trans more

theorem Cuts.sign {c : Char} (h : Cuts t (c :: rest) looks) (backslash : c ≠ '\\')
    (bracket : c ≠ '[') (paren : c = '(' → opensHere rest = false) : Cuts t rest looks :=
  h.on (.token (k := .sign c) ⟨backslash, bracket, paren⟩)

theorem Cuts.cons {c : Char} (h : Cuts t (c :: rest) looks) (mute : c ∉ marks) :
    Cuts t rest looks := by
  simp only [marks, List.mem_cons, List.not_mem_nil, or_false, not_or] at mute
  exact h.sign mute.2.2.2 mute.2.1 fun paren => absurd paren mute.1

theorem Cuts.passes (h : Cuts t s looks) (passes : Passes s rest) : Cuts t rest looks := by
  obtain ⟨cs, rfl, mute⟩ := passes
  induction cs with
  | nil => exact h
  | cons c cs ih =>
    obtain ⟨first, others⟩ := mute_cons.mp mute
    exact ih others (h.cons first)

theorem Cuts.gap {text : List Char} (h : Cuts t (text ++ rest) looks) : Cuts t rest looks :=
  h.on (.token (k := .gap text) trivial)

theorem Cuts.skipped {spaced : Bool} (h : Cuts t s looks)
    (skipped : skipGap spaced .outside s = .ok rest) : Cuts t rest looks := by
  obtain ⟨text, rfl⟩ := skipGap_suffix skipped
  exact h.gap

theorem Cuts.escape {foldCase : Bool} {e : Escape} (h : Cuts t ('\\' :: s) looks)
    (read : Escape.read foldCase false s = .ok (e, rest)) : Cuts t rest looks := by
  obtain ⟨c, after, rfl, more, rfl, mute⟩ := passes_escape read
  exact h.on (.token (k := .escape c more) mute)

theorem Cuts.set {foldCase : Bool} {chars : CharSet} (h : Cuts t ('[' :: s) looks)
    (read : CharClass.read foldCase s = .ok (chars, rest)) : Cuts t rest looks := by
  obtain ⟨body, rfl, isClass⟩ := isClass_of_read read
  exact h.on (.token (k := .set body) isClass)

theorem Cuts.quiet {look : Bool} (h : Cuts t rest looks) (quiet : look = false) :
    Cuts t rest (looks || look) := by
  rwa [quiet, Bool.or_false]

end

/-! ### What a parenthesis opens -/

theorem not_opensHere {s : List Char} (ahead : ∀ rest, s = '?' :: '=' :: rest → False)
    (aheadNot : ∀ rest, s = '?' :: '!' :: rest → False)
    (behind : ∀ rest, s = '?' :: '<' :: '=' :: rest → False)
    (behindNot : ∀ rest, s = '?' :: '<' :: '!' :: rest → False) : opensHere s = false := by
  rw [Bool.eq_false_iff]
  intro opens
  obtain ⟨opener, listed, begins⟩ := List.any_eq_true.mp opens
  obtain ⟨rest, rfl⟩ := List.isPrefixOf_iff_prefix.mp begins
  simp only [openers, List.mem_cons, List.not_mem_nil, or_false] at listed
  rcases listed with rfl | rfl | rfl | rfl
  · exact ahead rest rfl
  · exact aheadNot rest rfl
  · exact behind rest rfl
  · exact behindNot rest rfl

theorem opensHere_of_ne {s : List Char} (other : ∀ rest, s ≠ '?' :: rest) : opensHere s = false :=
  not_opensHere (fun _ => other _) (fun _ => other _) (fun _ => other _) fun _ => other _

/-- Behind a parenthesis there is a gap, perhaps, and then what it opens. -/
def Opened (t rest : List Char) (looks : Bool) : Prop :=
  ∃ between, Cuts t ('(' :: (between ++ rest)) looks ∧
    (between = [] ∨ opensHere (between ++ rest) = false)

section
variable {t s rest : List Char} {looks : Bool}

theorem opened_of_skipped {spaced : Bool} (h : Cuts t ('(' :: s) looks)
    (skipped : skipGap spaced .outside s = .ok rest) : Opened t rest looks := by
  obtain ⟨between, rfl⟩ := skipGap_suffix skipped
  refine ⟨between, h, ?_⟩
  by_cases marked : ∃ after, between ++ rest = '?' :: after
  · -- A question mark is not in a gap, so that nothing has been skipped.
    obtain ⟨after, same⟩ := marked
    rw [same, skipGap_mark] at skipped
    exact .inl (List.append_left_eq_self.mp (same.trans (Except.ok.inj skipped)))
  · exact .inr (opensHere_of_ne fun after same => marked ⟨after, same⟩)

theorem Opened.look {opener : List Char} (h : Opened t (opener ++ rest) looks)
    (mem : opener ∈ openers) : Cuts t rest true := by
  obtain ⟨between, cuts, -⟩ := h
  have fits : (Token.look between opener).Fits rest := mem
  have token : Cuts ('(' :: (between ++ (opener ++ rest))) rest true := by
    simpa [Token.text, Token.isLook] using Cuts.token fits
  simpa using cuts.trans token

theorem Opened.plain (h : Opened t rest looks) (plain : opensHere rest = false) :
    Cuts t rest looks := by
  obtain ⟨between, cuts, rfl | quiet⟩ := h
  · exact cuts.sign (by decide) (by decide) fun _ => plain
  · exact (cuts.sign (by decide) (by decide) fun _ => quiet).gap

end

/-- The text opens a lookaround exactly when the reader sees one. -/
theorem opening_spec (s : List Char) :
    match opening s with
    | .look _ rest => ∃ opener ∈ openers, s = opener ++ rest
    | .named rest | .label rest | .atomic rest => opensHere s = false ∧ Passes s rest
    | .condition rest => opensHere s = false ∧ s = '?' :: '(' :: rest
    | .flagged rest => opensHere s = false ∧ s = '?' :: rest
    | .numbered => opensHere s = false := by
  fun_cases opening s with
  | case1 rest => exact ⟨['?', '='], by decide, rfl⟩
  | case2 rest => exact ⟨['?', '!'], by decide, rfl⟩
  | case3 rest => exact ⟨['?', '<', '='], by decide, rfl⟩
  | case4 rest => exact ⟨['?', '<', '!'], by decide, rfl⟩
  | case5 rest behind behindNot =>
    refine ⟨not_opensHere (by simp) (by simp) ?_ ?_, ['?', '<'], rfl, by decide⟩
    · exact fun after same => behind after (List.cons.inj (List.cons.inj same).2).2
    · exact fun after same => behindNot after (List.cons.inj (List.cons.inj same).2).2
  | case6 rest => exact ⟨rfl, ['?', 'P', '<'], rfl, by decide⟩
  | case7 rest => exact ⟨rfl, ['?', 'P', '='], rfl, by decide⟩
  | case8 rest => exact ⟨rfl, ['?', '>'], rfl, by decide⟩
  | case9 rest => exact ⟨rfl, rfl⟩
  | case10 rest ahead aheadNot behind behindNot =>
    refine ⟨not_opensHere ?_ ?_ ?_ ?_, rfl⟩
    · exact fun after same => ahead after (List.cons.inj same).2
    · exact fun after same => aheadNot after (List.cons.inj same).2
    · exact fun after same => behind after (List.cons.inj same).2
    · exact fun after same => behindNot after (List.cons.inj same).2
  | case11 s ahead aheadNot behind behindNot => exact not_opensHere ahead aheadNot behind behindNot

/-! ### Quantifiers -/

section
variable {t s rest : List Char} {looks : Bool}

/-- The end of bounds. -/
theorem cuts_brace {least least' : Nat} {most most' : Option Nat}
    (read : (match s with
      | '}' :: rest => some (least, most, rest)
      | _ => none) = some (least', most', rest)) (h : Cuts t s looks) : Cuts t rest looks := by
  split at read
  · obtain ⟨-, -, rfl⟩ := by simpa using read
    exact h.cons (by decide)
  · cases read

theorem cuts_bind {β : Type} {spaced : Bool} {f : List Char → Option β} {b : β} (h : Cuts t s looks)
    (read : ((skipGap spaced .outside s).toOption >>= f) = some b) :
    ∃ rest, Cuts t rest looks ∧ f rest = some b := by
  cases skipped : skipGap spaced .outside s with
  | error fault => rw [skipped] at read; cases read
  | ok rest =>
    rw [skipped] at read
    exact ⟨rest, h.skipped skipped, read⟩

theorem cuts_boundsAfter? {spaced : Bool} {least least' : Nat} {most : Option Nat}
    (h : Cuts t s looks) (read : boundsAfter? spaced least s = some (least', most, rest)) :
    Cuts t rest looks := by
  obtain ⟨s, h, read⟩ := cuts_bind h read
  split at read
  · obtain ⟨-, -, rfl⟩ := by simpa using read
    exact h.cons (by decide)
  · obtain ⟨u, h, read⟩ := cuts_bind (h.cons (by decide)) read
    cases number : readNumber? u with
    | none =>
      simp only [number] at read
      obtain ⟨v, h, read⟩ := cuts_bind h read
      exact cuts_brace read h
    | some found =>
      simp only [number] at read
      obtain ⟨v, h, read⟩ := cuts_bind (h.passes (passes_readNumber? (n := found.1) number)) read
      exact cuts_brace read h
  · cases read

theorem cuts_quantifier? {spaced : Bool} {least : Nat} {most : Option Nat} (h : Cuts t s looks)
    (read : quantifier? spaced s = some (least, most, rest)) : Cuts t rest looks := by
  have once {least' : Nat} {most' : Option Nat} {c : Char} {s : List Char}
      (h : Cuts t (c :: s) looks) (mute : c ∉ marks)
      (read : some (least', most', s) = some (least, most, rest)) : Cuts t rest looks := by
    obtain ⟨-, -, rfl⟩ := by simpa using read
    exact h.cons mute
  revert h read
  fun_cases quantifier? spaced s with
  | case1 => exact fun h => once h (by decide)
  | case2 => exact fun h => once h (by decide)
  | case3 => exact fun h => once h (by decide)
  | case4 s =>
    intro h read
    rw [readBounds?_eq] at read
    obtain ⟨u, h, read⟩ := cuts_bind (h.cons (by decide)) read
    split at read
    · exact cuts_boundsAfter? h read
    · obtain ⟨⟨least, v⟩, number, read⟩ := Option.bind_eq_some_iff.mp read
      exact cuts_boundsAfter? (h.passes (passes_readNumber? number)) read
  | case5 =>
    intro _ read
    cases read

end

/-! ### Readers that keep cutting -/

/-- As the reader goes on, the text is cut, and no token looks around. -/
def Stays {α : Type} (m : ReadM α) : Prop :=
  ∀ ⦃t looks s⦄, Cuts t s.rest looks → Ends m s fun _ r => Cuts t r.rest looks

/-- As the reader goes on, the text is cut, and a token looks around if the node does. -/
def Keeps (m : ReadM Node) : Prop :=
  ∀ ⦃t looks s⦄, Cuts t s.rest looks → Ends m s fun node r =>
    Cuts t r.rest (looks || node.looksAround)

theorem Stays.map {α : Type} {m : ReadM α} {f : α → Node} (h : Stays m)
    (quiet : ∀ a, (f a).looksAround = false) : Keeps (f <$> m) :=
  fun _ _ _ cuts => .map ((h cuts).imp fun a _ cuts => cuts.quiet (quiet a))

theorem stays_skip : Stays skip := by
  intro t looks s cuts _ r read
  rw [skip_apply] at read
  cases skipped : skipGap s.flags.spaced .outside s.rest with
  | error fault => rw [skipped] at read; cases read
  | ok rest =>
    rw [skipped] at read
    obtain ⟨-, rfl⟩ := Prod.mk.inj (Except.ok.inj read)
    exact cuts.skipped skipped

/-- What comes behind a parenthesis and the gap behind it. -/
theorem opened_skip {t rest : List Char} {looks : Bool} {s : State}
    (cuts : Cuts t ('(' :: rest) looks) :
    Ends skip { s with rest } fun _ r => Opened t r.rest looks := by
  intro _ r read
  rw [skip_apply] at read
  cases skipped : skipGap s.flags.spaced .outside rest with
  | error fault => rw [skipped] at read; cases read
  | ok left =>
    rw [skipped] at read
    obtain ⟨-, rfl⟩ := Prod.mk.inj (Except.ok.inj read)
    exact opened_of_skipped cuts skipped

/-! ### References -/

theorem stays_referTo (index : Nat) : Stays (referTo index) := by
  intro t looks s cuts
  rw [referTo]
  refine .get ?_
  split
  · exact .refused _
  · exact .pure cuts

theorem stays_referToNumber (index : Nat) : Stays (referToNumber index) := by
  intro t looks s cuts
  rw [referToNumber]
  refine .get ?_
  split
  · exact .refused _
  · exact .modify (stays_referTo index cuts)

theorem stays_referToLabel (record : Bool) (label : String) :
    Stays (referToLabel record label) := by
  intro t looks s cuts
  rw [referToLabel]
  refine .get ?_
  split
  · exact .throw _
  · rename_i index found
    cases record with
    | false => exact stays_referTo index cuts
    | true => exact .modify (stays_referTo index cuts)

theorem keeps_escaped (foldCase : Bool) (e : Escape) : Keeps (escaped foldCase e) := by
  intro t looks s cuts
  rw [escaped.eq_def]
  split
  · refine .pure (cuts.quiet ?_)
    split <;> rfl
  · exact .pure (cuts.quiet rfl)
  · exact .pure (cuts.quiet rfl)
  · exact (stays_referToNumber _).map (fun _ => rfl) cuts
  · exact (stays_referToLabel true _).map (fun _ => rfl) cuts
  · exact .pure (cuts.quiet rfl)
  · exact .pure (cuts.quiet rfl)

theorem keeps_labelled {close : Char} (closes : close ∉ marks) {t rest : List Char} {looks : Bool}
    {s : State} (cuts : Cuts t rest looks) :
    Ends (labelled (readName? close true rest)) s fun node r =>
      Cuts t r.rest (looks || node.looksAround) := by
  cases found : readName? close true rest with
  | none => exact .throw _
  | some name =>
    obtain ⟨label, after⟩ := name
    have behind := cuts.passes (passes_readName? closes found)
    exact .setRest ((stays_referToLabel true label).map (fun _ => rfl) behind)

/-! ### Groups and flags -/

theorem stays_closeGroup : Stays closeGroup := by
  intro t looks s cuts
  rw [closeGroup]
  refine .bind ((stays_skip cuts).imp fun _ s cuts => .get ?_)
  split
  · rename_i rest ahead
    exact .setRest_last ((ahead ▸ cuts).cons (by decide))
  · exact .throw _

theorem stays_openGroup : Stays openGroup := by
  intro t looks s cuts
  rw [openGroup]
  exact .modify (.get (.pure cuts))

theorem stays_nameGroup {t rest : List Char} {looks : Bool} {s : State} (cuts : Cuts t rest looks) :
    Ends (nameGroup rest) s fun _ r => Cuts t r.rest looks := by
  rw [nameGroup]
  refine .bind fun index r opened => ?_
  cases found : readName? '>' false rest with
  | none => exact .throw _
  | some name =>
    obtain ⟨label, after⟩ := name
    exact .modify (.pure (cuts.passes (passes_readName? (by decide) found)))

theorem not_mem_marks_of_update? {flags flags' : Flags} {off : Bool} {c : Char}
    (update : flags.update? off c = some flags') : c ∉ marks := by
  revert update
  fun_cases Flags.update? flags off c with
  | case8 => exact nofun
  | _ => exact fun _ => by decide

theorem stays_readFlags (start n : Nat) (off : Bool) : Stays (readFlags start n off) := by
  intro t looks s cuts
  induction n generalizing off s with
  | zero => rw [readFlags]; exact .throw _
  | succ n ih =>
    rw [readFlags]
    refine .bind ((stays_skip cuts).imp fun _ s cuts => .get ?_)
    simp only
    split
    · exact .throw _
    · rename_i rest ahead
      split
      · exact .refused _
      · exact .setRest (.pure ((ahead ▸ cuts).cons (by decide)))
    · rename_i rest ahead
      split
      · exact .refused _
      · exact .setRest (.pure ((ahead ▸ cuts).cons (by decide)))
    · rename_i rest ahead
      split
      · exact .refused _
      · exact .setRest (ih true ((ahead ▸ cuts).cons (by decide)))
    · rename_i c rest _ _ _ ahead
      split
      · exact .throw _
      · rename_i flags update
        exact .set (ih off ((ahead ▸ cuts).cons (not_mem_marks_of_update? update)))

/-! ### Repetition -/

theorem passes_reluctance (s : List Char) : Passes s (reluctance s).2 := by
  fun_cases reluctance s with
  | case1 rest => exact (Passes.refl rest).cons (by decide)
  | case2 => exact .refl s

theorem keeps_possessive (node : Node) {t rest : List Char} {looks : Bool} {s : State}
    (cuts : Cuts t rest looks) :
    Ends (possessive node rest) s fun part r =>
      Cuts t r.rest looks ∧ part.looksAround = node.looksAround := by
  fun_cases possessive node rest with
  | case1 rest => exact .setRest (.pure ⟨cuts.cons (by decide), rfl⟩)
  | case2 => exact .setRest (.pure ⟨cuts, rfl⟩)

theorem keeps_quantified (node : Node) {t : List Char} {looks : Bool} {s : State}
    (cuts : Cuts t s.rest looks) :
    Ends (quantified node) s fun part r =>
      Cuts t r.rest looks ∧ part.looksAround = node.looksAround := by
  rw [quantified]
  refine .bind ((stays_skip cuts).imp fun _ s cuts => .get ?_)
  cases found : quantifier? s.flags.spaced s.rest with
  | none => exact .pure ⟨cuts, rfl⟩
  | some bounds =>
    obtain ⟨least, most, rest⟩ := bounds
    simp -zeta only
    split
    · exact .refused _
    · have behind : Cuts t rest looks := cuts_quantifier? cuts found
      refine .setRest (.bind ((stays_skip behind).imp fun _ r cuts => .get ?_))
      exact keeps_possessive _ (cuts.passes (passes_reluctance r.rest))

/-! ### Nodes -/

theorem anyLooksAround_reverse (parts : List Node) :
    Node.anyLooksAround parts.reverse = Node.anyLooksAround parts := by
  rw [Node.anyLooksAround_eq, Node.anyLooksAround_eq, List.any_reverse]

theorem looksAround_of_isEmpty {node : Node} (empty : node.isEmpty) : node.looksAround = false := by
  cases node with
  | empty => rfl
  | _ => cases empty

theorem looksAround_asTest (node : Node) : (asTest node).looksAround = node.looksAround := by
  cases node <;> rfl

theorem looksAround_branches (node : Node) :
    ((branches node).1.looksAround || (branches node).2.looksAround) = node.looksAround := by
  fun_cases branches node with
  | case1 first rest =>
    rcases rest with _ | ⟨only, _ | ⟨next, rest⟩⟩
    · rfl
    · simp [Node.looksAround, Node.anyLooksAround]
    · rfl
  | case2 => exact Bool.or_false _

theorem looksAround_literal (foldCase : Bool) (c : Char) :
    (literal foldCase c).looksAround = false := by
  rw [literal]
  split <;> rfl

/-! ### The grammar -/

/-- Each part of the grammar keeps cutting, with `n` units of fuel. -/
structure KeepCutting (n : Nat) : Prop where
  alternatives (d : Nat) : Keeps (alternatives n d)
  moreAlternatives (d : Nat) {t : List Char} {looks : Bool} {choices : List Node} {s : State}
    (cuts : Cuts t s.rest (looks || Node.anyLooksAround choices)) :
    Ends (moreAlternatives n d choices) s fun choices r =>
      Cuts t r.rest (looks || Node.anyLooksAround choices)
  branch (d : Nat) {t : List Char} {looks : Bool} {parts : List Node} {s : State}
    (cuts : Cuts t s.rest (looks || Node.anyLooksAround parts)) :
    Ends (branch n d parts) s fun node r => Cuts t r.rest (looks || node.looksAround)
  atom (d : Nat) : Keeps (atom n d)
  opened (d : Nat) {t : List Char} {looks : Bool} {s : State} (opens : Opened t s.rest looks) :
    Ends (opened n d) s fun node r => Cuts t r.rest (looks || node.looksAround)
  body (d : Nat) : Keeps (body n d)
  condition (d : Nat) {t : List Char} {looks : Bool} {s : State} (opens : Opened t s.rest looks) :
    Ends (condition n d) s fun node r => Cuts t r.rest (looks || node.looksAround)
  test (d : Nat) {t : List Char} {looks : Bool} {s : State} (opens : Opened t s.rest looks) :
    Ends (Reader.test n d) s fun node r => Cuts t r.rest (looks || node.looksAround)

namespace KeepCutting

variable {n : Nat} (K : KeepCutting n) (d : Nat)

include K

theorem alternatives_succ : Keeps (Reader.alternatives (n + 1) d) := by
  intro t looks s cuts
  rw [Reader.alternatives]
  refine .bind ((K.branch d (cuts.quiet rfl)).imp fun first s cuts => ?_)
  refine .bind ((stays_skip cuts).imp fun _ s cuts => .get ?_)
  split
  · have alone : Cuts t s.rest (looks || Node.anyLooksAround [first]) := by
      simpa [Node.anyLooksAround] using cuts
    exact .map (K.moreAlternatives d alone)
  · refine .get ?_
    split
    · exact .refused _
    · exact .pure cuts

theorem moreAlternatives_succ {t : List Char} {looks : Bool} {choices : List Node} {s : State}
    (cuts : Cuts t s.rest (looks || Node.anyLooksAround choices)) :
    Ends (Reader.moreAlternatives (n + 1) d choices) s fun choices r =>
      Cuts t r.rest (looks || Node.anyLooksAround choices) := by
  rw [Reader.moreAlternatives]
  refine .get ?_
  split
  · rename_i rest ahead
    have behind : Cuts t rest (looks || Node.anyLooksAround choices) :=
      (ahead ▸ cuts).cons (by decide)
    refine .setRest (.bind ((K.branch d (behind.quiet rfl)).imp fun choice s cuts => ?_))
    refine .bind ((stays_skip cuts).imp fun _ s cuts => K.moreAlternatives d ?_)
    simpa [Node.anyLooksAround, Bool.or_assoc, Bool.or_comm] using cuts
  · exact .pure (by rwa [anyLooksAround_reverse])

theorem branch_succ {t : List Char} {looks : Bool} {parts : List Node} {s : State}
    (cuts : Cuts t s.rest (looks || Node.anyLooksAround parts)) :
    Ends (Reader.branch (n + 1) d parts) s fun node r =>
      Cuts t r.rest (looks || node.looksAround) := by
  rw [Reader.branch]
  refine .get ?_
  simp only
  split
  · exact .pure (by rwa [Node.looksAround_ofParts, anyLooksAround_reverse])
  · refine .bind ((K.atom d (.refl s.rest)).imp fun node r first => ?_)
    refine .bind ((keeps_quantified node first).imp fun part r after => .get ?_)
    obtain ⟨after, same⟩ := after
    split
    · rename_i stays
      refine .pure ?_
      rwa [Node.looksAround_ofParts, anyLooksAround_reverse, after.unmoved stays]
    · refine K.branch d ?_
      have behind := cuts.trans after
      split
      · rename_i empty
        rwa [Bool.false_or, ← same, looksAround_of_isEmpty empty, Bool.or_false] at behind
      · rw [Node.anyLooksAround, same]
        rwa [Bool.false_or, Bool.or_assoc, Bool.or_comm (Node.anyLooksAround parts)] at behind

theorem body_succ : Keeps (Reader.body (n + 1) d) := by
  intro t looks s cuts
  rw [Reader.body]
  refine .bind ((K.alternatives d cuts).imp fun node s cuts => ?_)
  exact .bind ((stays_closeGroup cuts).imp fun _ s cuts => .pure cuts)

theorem test_succ {t : List Char} {looks : Bool} {s : State} (opens : Opened t s.rest looks) :
    Ends (Reader.test (n + 1) d) s fun node r => Cuts t r.rest (looks || node.looksAround) := by
  rw [Reader.test]
  have unopened {c : Char} {rest : List Char} (ahead : s.rest = c :: rest) (other : c ≠ '?') :
      Cuts t (c :: rest) looks :=
    ahead ▸ opens.plain (opensHere_of_ne fun _ same =>
      other (List.cons.inj (ahead.symm.trans same)).1)
  refine .get ?_
  split
  · exact .throw _
  · rename_i rest ahead
    exact keeps_labelled (by decide) ((unopened ahead (by decide)).cons (by decide))
  · rename_i rest ahead
    exact keeps_labelled (by decide) ((unopened ahead (by decide)).cons (by decide))
  · rename_i c rest _ _ ahead
    split
    · rename_i digit
      have other : c ≠ '?' := by rintro rfl; cases digit
      split
      · exact .throw _
      · rename_i index rest number
        have behind := (ahead ▸ unopened ahead other).passes (passes_readNumber? number)
        exact .setRest ((stays_referToNumber index).map (fun _ => rfl) behind)
    · by_cases marked : c = '?'
      · subst marked
        exact alternatives_of_mark ahead n d
      · exact K.alternatives d (ahead ▸ unopened ahead marked)

theorem condition_succ {t : List Char} {looks : Bool} {s : State} (opens : Opened t s.rest looks) :
    Ends (Reader.condition (n + 1) d) s fun node r =>
      Cuts t r.rest (looks || node.looksAround) := by
  rw [Reader.condition]
  refine .bind ((K.test d opens).imp fun test s cuts => ?_)
  refine .bind ((stays_closeGroup cuts).imp fun _ s cuts => .get ?_)
  refine .bind ((K.alternatives d (.refl s.rest)).imp fun node r after => .get ?_)
  split
  · rename_i stays
    split
    · have behind : Cuts t r.rest (looks || false) := after.unmoved stays ▸ cuts
      exact .bind ((stays_closeGroup behind).imp fun _ r cuts => .pure cuts)
    · exact .throw _
  · have behind := cuts.trans after
    have both := looksAround_branches node
    generalize branches node = parts at both
    obtain ⟨thenBody, elseBody⟩ := parts
    rw [Bool.false_or, ← both, Bool.or_assoc] at behind
    refine .bind ((stays_closeGroup behind).imp fun _ r cuts => .pure ?_)
    split
    · rename_i empty
      obtain ⟨thenEmpty, elseEmpty⟩ := Bool.and_eq_true_iff.mp empty
      rw [looksAround_asTest]
      simpa [looksAround_of_isEmpty thenEmpty, looksAround_of_isEmpty elseEmpty] using cuts
    · rw [Node.looksAround, looksAround_asTest, Bool.or_assoc]
      exact cuts

theorem flagged {t rest : List Char} {looks : Bool} {s : State} (cuts : Cuts t rest looks) :
    Ends (Reader.flagged n d rest) s fun node r => Cuts t r.rest (looks || node.looksAround) := by
  rw [Reader.flagged]
  refine .get (.setRest (.bind ((stays_readFlags _ _ _ cuts).imp fun close r cuts => ?_)))
  split
  · refine .bind ((K.alternatives d cuts).imp fun node r cuts => .get ?_)
    split
    · rename_i left closed
      exact .modify (.pure ((closed ▸ cuts).cons (by decide)))
    · exact .throw _
  · exact .pure (cuts.quiet rfl)

theorem opened_succ {t : List Char} {looks : Bool} {s : State} (opens : Opened t s.rest looks) :
    Ends (Reader.opened (n + 1) d) s fun node r => Cuts t r.rest (looks || node.looksAround) := by
  rw [opened_eq]
  refine .get ?_
  have spec := opening_spec s.rest
  cases opening : opening s.rest with
  | look kind rest =>
    rw [opening] at spec
    obtain ⟨opener, mem, same⟩ := spec
    have behind : Cuts t rest true := (same ▸ opens).look mem
    refine .setRest (.map ((K.body d behind).imp fun node r cuts => ?_))
    simpa [Node.looksAround] using cuts
  | named rest =>
    rw [opening] at spec
    have behind := (opens.plain spec.1).passes spec.2
    exact .bind ((stays_nameGroup behind).imp fun index r cuts => .map (K.body d cuts))
  | label rest =>
    rw [opening] at spec
    have behind := (opens.plain spec.1).passes spec.2
    simp only
    split
    · exact .throw _
    · rename_i label left found
      have behind := behind.passes (passes_readName? (by decide) found)
      exact .bind fun index r _ => .setRest (.pure (behind.quiet rfl))
  | atomic rest =>
    rw [opening] at spec
    have behind := (opens.plain spec.1).passes spec.2
    exact .setRest (.map (K.body d behind))
  | condition rest =>
    rw [opening] at spec
    have behind : Cuts t ('(' :: rest) looks :=
      (spec.2 ▸ opens.plain spec.1).cons (by decide)
    exact .setRest (K.condition d ⟨[], behind, .inl rfl⟩)
  | flagged rest =>
    rw [opening] at spec
    exact K.flagged d ((spec.2 ▸ opens.plain spec.1).cons (by decide))
  | numbered =>
    rw [opening] at spec
    exact .bind ((stays_openGroup (opens.plain spec)).imp fun index r cuts => .map (K.body d cuts))

theorem atom_succ : Keeps (Reader.atom (n + 1) d) := by
  intro t looks s cuts
  rw [Reader.atom]
  refine .bind ((stays_skip cuts).imp fun _ s cuts => .get ?_)
  split
  · exact .pure (cuts.quiet rfl)
  · rename_i c rest ahead
    rw [ahead] at cuts
    split
    · exact .pure (ahead ▸ cuts.quiet rfl)
    · exact .pure (ahead ▸ cuts.quiet rfl)
    · exact .pure (ahead ▸ cuts.quiet rfl)
    · exact .pure (ahead ▸ cuts.quiet rfl)
    · exact .pure (ahead ▸ cuts.quiet rfl)
    · refine .setRest ?_
      split
      · exact .pure ((cuts.cons (by decide)).quiet rfl)
      · exact .pure ((cuts.cons (by decide)).quiet rfl)
      · exact .pure ((cuts.cons (by decide)).quiet rfl)
      · split
        · exact .refused _
        · exact .bind ((opened_skip cuts).imp fun _ r opens => K.opened (d + 1) opens)
      · exact .lift fun read escape => .setRest (keeps_escaped _ _ (cuts.escape escape))
      · exact .lift fun read found => .setRest (.pure ((cuts.set found).quiet rfl))
      · rename_i dot caret dollar paren backslash bracket
        have behind := cuts.sign backslash bracket fun same => absurd same paren
        exact .pure (behind.quiet (looksAround_literal _ _))

end KeepCutting

theorem keepCutting (n : Nat) : KeepCutting n := by
  induction n with
  | zero =>
    constructor
    · intro d t looks s _
      rw [alternatives]
      exact .throw _
    · intro d t looks choices s _
      rw [moreAlternatives]
      exact .throw _
    · intro d t looks parts s _
      rw [branch]
      exact .throw _
    · intro d t looks s _
      rw [atom]
      exact .throw _
    · intro d t looks s _
      rw [opened]
      exact .throw _
    · intro d t looks s _
      rw [body]
      exact .throw _
    · intro d t looks s _
      rw [condition]
      exact .throw _
    · intro d t looks s _
      rw [Reader.test]
      exact .throw _
  | succ n K =>
    exact ⟨K.alternatives_succ, K.moreAlternatives_succ, K.branch_succ, K.atom_succ, K.opened_succ,
      K.body_succ, K.condition_succ, K.test_succ⟩

/-- **A pattern that is read is cut into tokens**, and one of them looks around exactly if the
pattern does. -/
theorem exists_isCut {p : String} {source : Source} (read : Reader.read p = .ok source) :
    ∃ tokens, IsCut p.toList [] tokens source.node.looksAround := by
  obtain ⟨node, r, whole, ended, rfl⟩ := Reader.read_ok read
  have cuts : Cuts p.toList r.rest (false || node.looksAround) :=
    (keepCutting _).alternatives 0 (.refl p.toList) whole
  rwa [ended, Bool.false_or] at cuts

end Lookaround

end Conlang.Pattern
