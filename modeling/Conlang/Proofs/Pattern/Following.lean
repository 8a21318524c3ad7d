import Conlang.Proofs.Pattern.Reading

/-! Reading a text with the end of a frame behind it.

A reader that can read a text is followed by two others, who may be deeper and have more fuel. One
has the same text as a part of a larger one, and the other has the end of a frame behind it. Both
read what the first has read, unless both are too deep (`grammar`); the first and the last are
`Near` each other then. -/
namespace Conlang.Pattern.Reader

/-! ### Two readers -/

/-- Where two readers are, the second of which has the end of a frame behind its text. Only when the
first has come to its end may the second have lost the end of the frame to a comment. -/
structure Near (k : Nat) (s s' : State) : Prop where
  rest : s'.rest = s.rest ++ frameEnd ∨ s.rest = [] ∧ s'.rest = []
  size : s.size ≤ s'.size
  fits : s.size ≤ k
  flags : s'.flags = s.flags
  groups : s'.groups = s.groups
  names : s'.names = s.names
  referred : s'.referred = s.referred
  numbered : s'.numbered = s.numbered

/-- What becomes of two readers who follow one that has read `a` and come to `r`: both read the
same, or both are too deep. The first has the same text as a part of `k` bytes, and the second has
the end of a frame behind it. -/
def Outcome {α : Type} (k : Nat) (a : α) (r : State) (x x' : Except Fault (α × State)) : Prop :=
  (x = .ok (a, { r with size := k }) ∧ ∃ r', x' = .ok (a, r') ∧ Near k r r') ∨
    (x = .error .tooDeep ∧ x' = .error .tooDeep)

/-- From these places, what `m` reads is read by `m₁` and `m'` too. -/
def FollowsAt {α : Type} (k : Nat) (s s' : State) (m m₁ m' : ReadM α) : Prop :=
  ∀ ⦃a r⦄, m s = .ok (a, r) → Outcome k a r (m₁ { s with size := k }) (m' s')

def Follows {α : Type} (k : Nat) (m m₁ m' : ReadM α) : Prop :=
  ∀ ⦃s s'⦄, Near k s s' → FollowsAt k s s' m m₁ m'

variable {k : Nat}

section
variable {α β : Type} {s s' : State} {m m₁ m' : ReadM α}

/-- Both others read the same. -/
theorem Outcome.same {a : α} {r r' : State} (x : m₁ s = .ok (a, { r with size := k }))
    (x' : m' s' = .ok (a, r')) (near : Near k r r') : Outcome k a r (m₁ s) (m' s') :=
  .inl ⟨x, r', x', near⟩

theorem FollowsAt.pure (h : Near k s s') (a : α) :
    FollowsAt k s s' (Pure.pure a) (Pure.pure a) (Pure.pure a) := by
  rintro b r read
  obtain ⟨rfl, rfl⟩ := Prod.mk.inj (Except.ok.inj read)
  exact .inl ⟨rfl, s', rfl, h⟩

theorem FollowsAt.refused (e : Fault) : FollowsAt k s s' (throw e) m₁ m' := nofun

theorem get_bind (f : State → ReadM β) (s : State) : ((get : ReadM State) >>= f) s = f s s := rfl

theorem bind_of_ok {f : α → ReadM β} {a : α} {next : State} (h : m s = .ok (a, next)) :
    (m >>= f) s = f a next := by
  show (m s >>= fun x => f x.1 x.2) = _
  rw [h]
  rfl

theorem bind_of_error {f : α → ReadM β} {e : Fault} (h : m s = .error e) :
    (m >>= f) s = .error e := by
  show (m s >>= fun x => f x.1 x.2) = _
  rw [h]
  rfl

theorem bind_ok {f : α → ReadM β} {b : β} {r : State} (h : (m >>= f) s = .ok (b, r)) :
    ∃ a next, m s = .ok (a, next) ∧ f a next = .ok (b, r) := by
  cases first : m s with
  | error e => simp [bind, StateT.bind, Except.bind, first] at h
  | ok x => exact ⟨x.1, x.2, rfl, by simpa [bind, StateT.bind, Except.bind, first] using h⟩

theorem FollowsAt.refused_bind {f : α → ReadM β} {n₁ n' : ReadM β} (e : Fault) :
    FollowsAt k s s' (throw e >>= f) n₁ n' := nofun

/-- Both others are too deep. -/
theorem FollowsAt.deep {f₁ f' : α → ReadM β} {n : ReadM β} :
    FollowsAt k s s' n (throw .tooDeep >>= f₁) (throw .tooDeep >>= f') :=
  fun _ _ _ => .inr ⟨rfl, rfl⟩

theorem FollowsAt.bind {f f₁ f' : α → ReadM β} (h : FollowsAt k s s' m m₁ m')
    (next : ∀ a, Follows k (f a) (f₁ a) (f' a)) :
    FollowsAt k s s' (m >>= f) (m₁ >>= f₁) (m' >>= f') := by
  rintro b r read
  obtain ⟨a, after, first, rest⟩ := bind_ok read
  rcases h first with ⟨x, after', x', near⟩ | ⟨x, x'⟩
  · rw [bind_of_ok x, bind_of_ok x']
    exact next a near rest
  · exact .inr ⟨bind_of_error x, bind_of_error x'⟩

theorem FollowsAt.map {f : α → β} (h : FollowsAt k s s' m m₁ m') :
    FollowsAt k s s' (f <$> m) (f <$> m₁) (f <$> m') := by
  rw [← bind_pure_comp, ← bind_pure_comp, ← bind_pure_comp]
  exact h.bind fun a _ _ near => .pure near (f a)

/-- All look at where they are. -/
theorem FollowsAt.get {f f₁ f' : State → ReadM β}
    (h : FollowsAt k s s' (f s) (f₁ { s with size := k }) (f' s')) :
    FollowsAt k s s' (get >>= f) (get >>= f₁) (get >>= f') := h

theorem FollowsAt.setRest {rest rest' : List Char} {f f₁ f' : Unit → ReadM β}
    (h : FollowsAt k { s with rest } { s' with rest := rest' } (f ()) (f₁ ()) (f' ())) :
    FollowsAt k s s' (setRest rest >>= f) (setRest rest >>= f₁) (setRest rest' >>= f') := h

theorem FollowsAt.modify {g g' : State → State} {f f₁ f' : Unit → ReadM β}
    (h : FollowsAt k (g s) (g' s') (f ()) (f₁ ()) (f' ()))
    (same : g { s with size := k } = { g s with size := k } := by rfl) :
    FollowsAt k s s' (modify g >>= f) (modify g >>= f₁) (modify g' >>= f') := by
  intro a r read
  have follows := h read
  rwa [← same] at follows

/-- The rest of the text begins alike for both. -/
theorem Near.rest_cons (h : Near k s s') {c : Char} {rest : List Char}
    (begins : s.rest = c :: rest) :
    s'.rest = c :: (rest ++ frameEnd) := by
  rcases h.rest with same | ⟨nothing, -⟩
  · rw [same, begins]; rfl
  · cases begins.symm.trans nothing

theorem Near.withRest (h : Near k s s') (rest : List Char) :
    Near k { s with rest } { s' with rest := rest ++ frameEnd } :=
  { h with rest := .inl rfl }

/-- At the end of the pattern alone the other reader is at the end of the frame or has lost it. -/
theorem Near.rest_nil (h : Near k s s') (ended : s.rest = []) : s'.rest = frameEnd ∨ s'.rest = [] :=
  h.rest.imp (fun same => by rw [same, ended]; rfl) And.right

end

/-! ### Gaps and quantifiers -/

theorem Near.skipGap {s s' : State} (h : Near k s s') {rest : List Char}
    (read : Reader.skipGap s.flags.spaced .outside s.rest = .ok rest) :
    ∃ rest', Reader.skipGap s'.flags.spaced .outside s'.rest = .ok rest' ∧
      (rest' = rest ++ frameEnd ∨ rest = [] ∧ rest' = []) := by
  rw [h.flags]
  rcases h.rest with same | ⟨nothing, nothing'⟩
  · have ends := skipGap_append s.flags.spaced .outside s.rest
    rw [← same, read] at ends
    generalize Reader.skipGap s.flags.spaced .outside s'.rest = x' at ends
    cases ends with
    | same => exact ⟨_, rfl, .inl rfl⟩
    | swallowed => exact ⟨_, rfl, .inr ⟨rfl, rfl⟩⟩
  · rw [nothing] at read
    rw [nothing']
    obtain rfl : [] = rest := Except.ok.inj read
    exact ⟨[], rfl, .inr ⟨rfl, rfl⟩⟩

theorem skip_apply (s : State) :
    skip s = (Reader.skipGap s.flags.spaced .outside s.rest).map fun rest =>
      ((), { s with rest }) := by
  show (liftM (Reader.skipGap s.flags.spaced .outside s.rest) >>= fun rest =>
    set { s with rest } : ReadM Unit) s = _
  cases Reader.skipGap s.flags.spaced .outside s.rest <;> rfl

theorem follows_skip : Follows k skip skip skip := by
  intro s s' near a r read
  rw [skip_apply] at read
  cases gap : Reader.skipGap s.flags.spaced .outside s.rest with
  | error e => rw [gap] at read; cases read
  | ok rest =>
    rw [gap] at read
    obtain ⟨rfl, rfl⟩ := Prod.mk.inj (Except.ok.inj read)
    obtain ⟨rest', gap', behind⟩ := near.skipGap gap
    have alone : skip { s with size := k } = .ok ((), { s with rest, size := k }) := by
      rw [skip_apply]
      exact congrArg (Except.map _) gap
    have follows : skip s' = .ok ((), { s' with rest := rest' }) := by rw [skip_apply, gap']; rfl
    exact .same alone follows { near with rest := behind }

theorem Near.quantifier? {s s' : State} (h : Near k s s') :
    quantifier? s'.flags.spaced s'.rest =
      (Reader.quantifier? s.flags.spaced s.rest).map withEnd := by
  rw [h.flags]
  rcases h.rest with same | ⟨nothing, nothing'⟩
  · rw [same, quantifier?_append]
  · rw [nothing, nothing']; rfl

/-- A quantifier may be followed by a mark that makes it reluctant. -/
def reluctance (s : List Char) : Bool × List Char :=
  match s with
  | '?' :: rest => (true, rest)
  | _ => (false, s)

theorem reluctance_append (s : List Char) :
    reluctance (s ++ frameEnd) = ((reluctance s).1, (reluctance s).2 ++ frameEnd) := by
  fun_cases reluctance s with
  | case1 rest => rfl
  | case2 s plain =>
    rw [reluctance]
    exact append_frameEnd_ne_cons (by decide) plain

theorem Near.reluctance {s s' : State} (h : Near k s s') :
    (Reader.reluctance s'.rest).1 = (Reader.reluctance s.rest).1 ∧
      Near k { s with rest := (Reader.reluctance s.rest).2 }
        { s' with rest := (Reader.reluctance s'.rest).2 } := by
  rcases h.rest with same | ⟨nothing, nothing'⟩
  · rw [same, reluctance_append]
    exact ⟨rfl, h.withRest _⟩
  · rw [nothing, nothing']
    exact ⟨rfl, { h with rest := .inr ⟨rfl, rfl⟩ }⟩

/-- A second mark makes a quantifier possessive. -/
def possessive (node : Node) (rest : List Char) : ReadM Node :=
  match rest with
  | '+' :: rest => do setRest rest; pure (.atomic node)
  | _ => do setRest rest; pure node

theorem follows_possessive (node : Node) {s s' : State} {rest rest' : List Char}
    (near : Near k { s with rest } { s' with rest := rest' }) :
    FollowsAt k s s' (possessive node rest) (possessive node rest) (possessive node rest') := by
  rcases near.rest with same | ⟨nothing, nothing'⟩
  · obtain rfl : rest' = rest ++ frameEnd := same
    fun_cases possessive node rest with
    | case1 rest => exact .setRest (.pure (near.withRest rest) _)
    | case2 _ plain =>
      rw [possessive]
      · exact .setRest (.pure near _)
      · exact append_frameEnd_ne_cons (by decide) plain
  · obtain rfl : rest = [] := nothing
    obtain rfl : rest' = [] := nothing'
    exact .setRest (.pure near _)

theorem follows_quantified (node : Node) :
    Follows k (quantified node) (quantified node) (quantified node) := by
  intro s s' near
  rw [quantified]
  refine (follows_skip near).bind fun _ s s' near => .get ?_
  rw [near.quantifier?, near.flags]
  cases Reader.quantifier? s.flags.spaced s.rest with
  | none => exact .pure near node
  | some found =>
    obtain ⟨least, most, rest⟩ := found
    rw [Option.map_some]
    simp -zeta only
    split
    · exact .refused _
    · refine .setRest ((follows_skip (near.withRest rest)).bind fun _ r r' near => .get ?_)
      obtain ⟨same, near⟩ := near.reluctance
      show FollowsAt k r r'
        (possessive (.rep least most ((reluctance r.rest).1 == s.flags.lazyFirst) node)
        (reluctance r.rest).2)
        (possessive (.rep least most ((reluctance r.rest).1 == s.flags.lazyFirst) node)
          (reluctance r.rest).2)
        (possessive (.rep least most ((reluctance r'.rest).1 == s.flags.lazyFirst) node)
          (reluctance r'.rest).2)
      rw [same]
      exact follows_possessive _ near

/-! ### References -/

theorem follows_setRest {s s' : State} (near : Near k s s') (rest : List Char) :
    FollowsAt k s s' (setRest rest) (setRest rest) (setRest (rest ++ frameEnd)) := by
  rintro a r read
  obtain ⟨rfl, rfl⟩ := Prod.mk.inj (Except.ok.inj read)
  exact .same rfl rfl (near.withRest rest)

theorem follows_referTo (index : Nat) :
    Follows k (referTo index) (referTo index) (referTo index) := by
  intro s s' near
  rw [referTo]
  refine .get ?_
  rw [near.groups]
  split
  · exact .refused _
  · exact .pure near index

theorem follows_referToNumber (index : Nat) :
    Follows k (referToNumber index) (referToNumber index) (referToNumber index) := by
  intro s s' near
  rw [referToNumber]
  refine .get ?_
  split
  · exact .refused _
  · -- The other texts are as long or longer, so they refuse no more numbers.
    rename_i few
    have few₁ : ¬ index ≥ ({ s with size := k } : State).size / 2 := by
      have : s.size ≤ ({ s with size := k } : State).size := near.fits
      omega
    have few' : ¬ index ≥ s'.size / 2 := by
      have := near.size
      omega
    rw [if_neg few₁, if_neg few']
    refine .modify (follows_referTo index ?_)
    exact { near with numbered := rfl, referred := by rw [near.referred] }

theorem follows_referToLabel (record : Bool) (label : String) :
    Follows k (referToLabel record label) (referToLabel record label)
      (referToLabel record label) := by
  intro s s' near
  rw [referToLabel]
  refine .get ?_
  have same : labelIndex? s' label = labelIndex? s label := by
    rw [labelIndex?, labelIndex?, near.names, near.groups]
  have alone : labelIndex? { s with size := k } label = labelIndex? s label := rfl
  rw [same, alone]
  cases labelIndex? s label with
  | none => exact .refused _
  | some index =>
    cases record with
    | false => exact follows_referTo index near
    | true =>
      refine .modify (follows_referTo index ?_)
      exact { near with referred := by rw [near.referred] }

theorem follows_escaped (foldCase : Bool) (e : Escape) :
    Follows k (escaped foldCase e) (escaped foldCase e) (escaped foldCase e) := by
  intro s s' near
  cases e with
  | reference r =>
    cases r with
    | number index => exact (follows_referToNumber index near).map
    | label label => exact (follows_referToLabel true label near).map
  | _ => exact .pure near _

theorem follows_labelled (close : Char) (rest : List Char) {s s' : State} (near : Near k s s') :
    FollowsAt k s s' (labelled (readName? close true rest)) (labelled (readName? close true rest))
      (labelled (readName? close true (rest ++ frameEnd))) := by
  cases found : readName? close true rest with
  | none => exact .refused _
  | some name =>
    rw [readName?_append found]
    exact .setRest (follows_referToLabel true name.1 (near.withRest name.2)).map

/-! ### Groups and flags -/

theorem follows_closeGroup : Follows k closeGroup closeGroup closeGroup := by
  intro s s' near
  rw [closeGroup]
  refine (follows_skip near).bind fun _ s s' near => .get ?_
  cases ahead : s.rest with
  | nil => exact .refused _
  | cons c rest =>
    rw [near.rest_cons ahead]
    by_cases closes : c = ')'
    · subst closes
      exact follows_setRest near rest
    · split
      · rename_i begins
        exact (closes (List.cons.inj begins).1).elim
      · exact .refused _

theorem FollowsAt.unclosed {s s' : State} (ended : s.rest = []) {α : Type} (f : Unit → ReadM α)
    {m₁ m' : ReadM α} :
    FollowsAt k s s' (closeGroup >>= f) m₁ m' := by
  rintro a r read
  obtain ⟨_, after, closed, -⟩ := bind_ok read
  rw [closeGroup] at closed
  obtain ⟨_, after, skipped, found⟩ := bind_ok closed
  rw [skip_apply, ended] at skipped
  obtain rfl := (Prod.mk.inj (Except.ok.inj skipped)).2
  cases found

theorem follows_openGroup : Follows k openGroup openGroup openGroup := by
  intro s s' near
  rw [openGroup]
  refine .modify (.get ?_)
  have opened : Near k { s with groups := s.groups + 1 } { s' with groups := s'.groups + 1 } :=
    { near with groups := congrArg (· + 1) near.groups }
  show FollowsAt k _ _ (pure (s.groups + 1)) (pure (s.groups + 1)) (pure (s'.groups + 1))
  rw [near.groups] at opened ⊢
  exact .pure opened _

theorem follows_nameGroup {s s' : State} (near : Near k s s') (rest : List Char) :
    FollowsAt k s s' (nameGroup rest) (nameGroup rest) (nameGroup (rest ++ frameEnd)) := by
  rw [nameGroup, nameGroup]
  refine (follows_openGroup near).bind fun index s s' near => ?_
  cases found : readName? '>' false rest with
  | none => exact .refused _
  | some name =>
    rw [readName?_append found]
    refine .modify (.pure ?_ index)
    exact { near.withRest name.2 with names := by rw [near.names] }

theorem follows_readFlags (start : Nat) {n n' : Nat} (le : n ≤ n') (off : Bool) :
    Follows k (readFlags start n off) (readFlags start n off)
      (readFlags (start + frameEnd.length) n' off) := by
  induction n generalizing n' off with
  | zero => exact fun _ _ _ => .refused _
  | succ n ih =>
    intro s s' near
    cases n' with
    | zero => cases le
    | succ n' =>
      have ih := fun off => ih (Nat.le_of_succ_le_succ le) off
      rw [readFlags, readFlags]
      refine (follows_skip near).bind fun _ s s' near => .get ?_
      cases ahead : s.rest with
      | nil => exact .refused _
      | cons c rest =>
        rw [near.rest_cons ahead]
        have none : ((c :: (rest ++ frameEnd)).length = start + frameEnd.length) =
            ((c :: rest).length = start) := by
          simp only [List.length_cons, List.length_append, eq_iff_iff]
          omega
        have hyphen : ((c :: (rest ++ frameEnd)).length + 1 = start + frameEnd.length) =
            ((c :: rest).length + 1 = start) := by
          simp only [List.length_cons, List.length_append, eq_iff_iff]
          omega
        simp only [none, hyphen]
        by_cases closes : c = ')'
        · subst closes
          simp only
          split
          · exact .refused _
          · exact .setRest (.pure (near.withRest rest) _)
        by_cases colon : c = ':'
        · subst colon
          simp only
          split
          · exact .refused _
          · exact .setRest (.pure (near.withRest rest) _)
        by_cases minus : c = '-'
        · subst minus
          simp only
          split
          · exact .refused _
          · exact .setRest (ih true (near.withRest rest))
        simp only
        rw [near.flags]
        cases s.flags.update? off c with
        | none => exact .refused _
        | some flags => exact ih off { near.withRest rest with flags := rfl }

/-! ### What a parenthesis opens -/

/-- What a parenthesis opens, with the text after its introduction. -/
inductive Opening where
  | look (kind : Look) (rest : List Char)
  | named (rest : List Char)
  | label (rest : List Char)
  | atomic (rest : List Char)
  | condition (rest : List Char)
  | flagged (rest : List Char)
  | numbered

def opening : List Char → Opening
  | '?' :: '=' :: rest => .look ⟨false, false⟩ rest
  | '?' :: '!' :: rest => .look ⟨false, true⟩ rest
  | '?' :: '<' :: '=' :: rest => .look ⟨true, false⟩ rest
  | '?' :: '<' :: '!' :: rest => .look ⟨true, true⟩ rest
  | '?' :: '<' :: rest => .named rest
  | '?' :: 'P' :: '<' :: rest => .named rest
  | '?' :: 'P' :: '=' :: rest => .label rest
  | '?' :: '>' :: rest => .atomic rest
  | '?' :: '(' :: rest => .condition rest
  | '?' :: rest => .flagged rest
  | _ => .numbered

def Opening.withEnd : Opening → Opening
  | .look kind rest => .look kind (rest ++ frameEnd)
  | .named rest => .named (rest ++ frameEnd)
  | .label rest => .label (rest ++ frameEnd)
  | .atomic rest => .atomic (rest ++ frameEnd)
  | .condition rest => .condition (rest ++ frameEnd)
  | .flagged rest => .flagged (rest ++ frameEnd)
  | .numbered => .numbered

theorem opening_append (s : List Char) : opening (s ++ frameEnd) = (opening s).withEnd := by
  fun_cases opening s with
  | case5 rest behind behindNot =>
    show opening ('?' :: '<' :: (rest ++ frameEnd)) = _
    rw [opening]
    · rfl
    · exact append_frameEnd_ne_cons (by decide) behind
    · exact append_frameEnd_ne_cons (by decide) behindNot
  | case10 rest h₁ h₂ h₃ h₄ h₅ h₆ h₇ h₈ h₉ =>
    show opening ('?' :: (rest ++ frameEnd)) = _
    have ahead (head : List Char) : ')' ∉ head → (∀ after, rest = head ++ after → False) →
        ∀ after, rest ++ frameEnd = head ++ after → False := append_frameEnd_ne_append
    rw [opening]
    · rfl
    · exact ahead ['='] (by decide) h₁
    · exact ahead ['!'] (by decide) h₂
    · exact ahead ['<', '='] (by decide) h₃
    · exact ahead ['<', '!'] (by decide) h₄
    · exact ahead ['<'] (by decide) h₅
    · exact ahead ['P', '<'] (by decide) h₆
    · exact ahead ['P', '='] (by decide) h₇
    · exact ahead ['>'] (by decide) h₈
    · exact ahead ['('] (by decide) h₉
  | case11 s h₁ h₂ h₃ h₄ h₅ h₆ h₇ h₈ h₉ h₁₀ =>
    have ahead (head : List Char) : ')' ∉ head → (∀ after, s = head ++ after → False) →
        ∀ after, s ++ frameEnd = head ++ after → False := append_frameEnd_ne_append
    rw [opening]
    · rfl
    · exact ahead ['?', '='] (by decide) h₁
    · exact ahead ['?', '!'] (by decide) h₂
    · exact ahead ['?', '<', '='] (by decide) h₃
    · exact ahead ['?', '<', '!'] (by decide) h₄
    · exact ahead ['?', '<'] (by decide) h₅
    · exact ahead ['?', 'P', '<'] (by decide) h₆
    · exact ahead ['?', 'P', '='] (by decide) h₇
    · exact ahead ['?', '>'] (by decide) h₈
    · exact ahead ['?', '('] (by decide) h₉
    · exact ahead ['?'] (by decide) h₁₀
  | _ => rfl

/-- What stands in a group whose introduction sets flags. -/
def flagged (n d : Nat) (rest : List Char) : ReadM Node := do
  let before := (← get).flags
  setRest rest
  match ← readFlags rest.length (rest.length + 1) false with
  | ':' =>
    let node ← alternatives n d
    match (← get).rest with
    | ')' :: rest =>
      modify fun s => { s with rest, flags := before }
      pure node
    | _ => throw .unclosedGroup
  | _ => pure .empty

theorem opened_eq (n d : Nat) : opened (n + 1) d = (do
    match opening (← get).rest with
    | .look kind rest => setRest rest; .look kind <$> body n d
    | .named rest =>
      let index ← nameGroup rest
      .group index <$> body n d
    | .label rest =>
      match readName? ')' false rest with
      | none => throw .badGroupName
      | some (label, rest) =>
        let index ← referToLabel false label
        setRest rest
        pure (.backref index)
    | .atomic rest => setRest rest; .atomic <$> body n d
    | .condition rest => setRest rest; condition n d
    | .flagged rest => flagged n d rest
    | .numbered =>
      let index ← openGroup
      .group index <$> body n d) := by
  rw [opened]
  refine bind_congr fun s => ?_
  generalize s.rest = rest
  fun_cases opening rest with
  | case5 => simp only
  | case10 => simp only; rfl
  | case11 => simp only
  | _ => rfl

/-! ### The grammar -/

theorem FollowsAt.lift {α β : Type} {s s' : State} {x y : Except Fault (α × List Char)}
    {f f₁ f' : α × List Char → ReadM β} (h : ReadsOn x y)
    (next : ∀ a rest, FollowsAt k s s' (f (a, rest)) (f₁ (a, rest)) (f' (a, rest ++ frameEnd))) :
    FollowsAt k s s' (liftM x >>= f) (liftM x >>= f₁) (liftM y >>= f') := by
  cases x with
  | error e => exact .refused_bind e
  | ok read =>
    rw [h read.1 read.2 rfl]
    exact next read.1 read.2

section
variable {s : State} (ended : s.rest = frameEnd)

include ended

theorem skip_of_frameEnd : skip s = .ok ((), s) := by
  have stays : Reader.skipGap s.flags.spaced .outside frameEnd = .ok frameEnd := by
    cases s.flags.spaced <;> rfl
  rw [skip_apply, ended, stays, ← ended]
  rfl

theorem atom_of_frameEnd (n d : Nat) : atom (n + 1) d s = .ok (.empty, s) := by
  rw [atom, bind_of_ok (skip_of_frameEnd ended), get_bind, ended]
  rfl

theorem quantified_of_frameEnd (node : Node) : quantified node s = .ok (node, s) := by
  rw [quantified, bind_of_ok (skip_of_frameEnd ended), get_bind, ended]
  rfl

/-- At the end of the frame a row of pieces ends. -/
theorem branch_of_frameEnd (n d : Nat) (parts : List Node) :
    branch (n + 2) d parts s = .ok (.ofParts parts.reverse, s) := by
  rw [branch, get_bind, ended]
  refine (bind_of_ok (atom_of_frameEnd ended n d)).trans
    ((bind_of_ok (quantified_of_frameEnd ended _)).trans ?_)
  rw [get_bind, ended]
  rfl

end

/-- The functions of the grammar, with `n` units of fuel for the first reader. The reader of the
frame needs a little more, for it looks at the end of the frame. -/
structure Grammar (k n : Nat) : Prop where
  alternatives {n₁ n' : Nat} (le : n ≤ n₁) (le' : n + 2 ≤ n') (d d' : Nat) :
    Follows k (alternatives n d) (alternatives n₁ d') (alternatives n' d')
  moreAlternatives {n₁ n' : Nat} (le : n ≤ n₁) (le' : n + 2 ≤ n') (d d' : Nat)
    (choices : List Node) :
    Follows k (moreAlternatives n d choices) (moreAlternatives n₁ d' choices)
      (moreAlternatives n' d' choices)
  branch {n₁ n' : Nat} (le : n ≤ n₁) (le' : n + 2 ≤ n') (d d' : Nat) (parts : List Node) :
    Follows k (branch n d parts) (branch n₁ d' parts) (branch n' d' parts)
  atom {n₁ n' : Nat} (le : n ≤ n₁) (le' : n + 2 ≤ n') (d d' : Nat) :
    Follows k (atom n d) (atom n₁ d') (atom n' d')
  opened {n₁ n' : Nat} (le : n ≤ n₁) (le' : n + 2 ≤ n') (d d' : Nat) :
    Follows k (opened n d) (opened n₁ d') (opened n' d')
  body {n₁ n' : Nat} (le : n ≤ n₁) (le' : n + 2 ≤ n') (d d' : Nat) :
    Follows k (body n d) (body n₁ d') (body n' d')
  condition {n₁ n' : Nat} (le : n ≤ n₁) (le' : n + 2 ≤ n') (d d' : Nat) :
    Follows k (condition n d) (condition n₁ d') (condition n' d')
  test {n₁ n' : Nat} (le : n ≤ n₁) (le' : n + 2 ≤ n') (d d' : Nat) :
    Follows k (test n d) (test n₁ d') (test n' d')

section
variable {n n₁ n' : Nat} (G : Grammar k n) (le : n ≤ n₁) (le' : n + 2 ≤ n') (d d' : Nat)

include G le le'

theorem Grammar.alternatives_succ :
    Follows k (Reader.alternatives (n + 1) d) (Reader.alternatives (n₁ + 1) d')
      (Reader.alternatives (n' + 1) d') := by
  intro s s' near
  rw [Reader.alternatives, Reader.alternatives, Reader.alternatives]
  refine (G.branch le le' d d' [] near).bind fun first s s' near => ?_
  refine (follows_skip near).bind fun _ s s' near => .get ?_
  have ended : FollowsAt k s s'
      (do
        let s ← get
        if s.numbered && !s.names.isEmpty then throw .namedAndNumbered
        pure first)
      (do
        let s ← get
        if s.numbered && !s.names.isEmpty then throw .namedAndNumbered
        pure first)
      (do
        let s ← get
        if s.numbered && !s.names.isEmpty then throw .namedAndNumbered
        pure first) := by
    refine .get ?_
    rw [near.numbered, near.names]
    split
    · exact .refused_bind _
    · exact .pure near first
  cases ahead : s.rest with
  | nil =>
    rcases near.rest_nil ahead with same | same
    · rw [same]; exact ended
    · rw [same]; exact ended
  | cons c rest =>
    rw [near.rest_cons ahead]
    by_cases bar : c = '|'
    · subst bar
      exact (G.moreAlternatives le le' d d' [first] near).map
    · split
      · exact (bar (List.cons.inj ‹_›).1).elim
      split
      · exact (bar (List.cons.inj ‹_›).1).elim
      exact ended

theorem Grammar.moreAlternatives_succ (choices : List Node) :
    Follows k (Reader.moreAlternatives (n + 1) d choices)
      (Reader.moreAlternatives (n₁ + 1) d' choices)
      (Reader.moreAlternatives (n' + 1) d' choices) := by
  intro s s' near
  rw [Reader.moreAlternatives, Reader.moreAlternatives, Reader.moreAlternatives]
  refine .get ?_
  cases ahead : s.rest with
  | nil =>
    rcases near.rest_nil ahead with same | same
    · rw [same]; exact .pure near _
    · rw [same]; exact .pure near _
  | cons c rest =>
    rw [near.rest_cons ahead]
    by_cases bar : c = '|'
    · subst bar
      refine .setRest ((G.branch le le' d d' [] (near.withRest rest)).bind fun choice s s' near =>
        ?_)
      exact (follows_skip near).bind fun _ s s' near => G.moreAlternatives le le' d d' _ near
    · split
      · exact (bar (List.cons.inj ‹_›).1).elim
      split
      · exact (bar (List.cons.inj ‹_›).1).elim
      exact .pure near _

theorem Grammar.body_succ :
    Follows k (Reader.body (n + 1) d) (Reader.body (n₁ + 1) d') (Reader.body (n' + 1) d') := by
  intro s s' near
  rw [Reader.body, Reader.body, Reader.body]
  refine (G.alternatives le le' d d' near).bind fun node s s' near => ?_
  exact (follows_closeGroup near).bind fun _ s s' near => .pure near node

theorem Grammar.test_succ :
    Follows k (Reader.test (n + 1) d) (Reader.test (n₁ + 1) d') (Reader.test (n' + 1) d') := by
  intro s s' near
  rw [Reader.test, Reader.test, Reader.test]
  refine .get ?_
  cases ahead : s.rest with
  | nil => exact .refused _
  | cons c rest =>
    rw [near.rest_cons ahead]
    by_cases quote : c = '\''
    · subst quote
      exact follows_labelled _ rest near
    by_cases angle : c = '<'
    · subst angle
      exact follows_labelled _ rest near
    simp only
    split
    · have numbers := readNumber?_append (c :: rest)
      rw [List.cons_append] at numbers
      rw [numbers]
      cases readNumber? (c :: rest) with
      | none => exact .refused _
      | some found => exact .setRest (follows_referToNumber found.1 (near.withRest found.2)).map
    · exact G.alternatives le le' d d' near

theorem Grammar.branch_succ (parts : List Node) :
    Follows k (Reader.branch (n + 1) d parts) (Reader.branch (n₁ + 1) d' parts)
      (Reader.branch (n' + 1) d' parts) := by
  intro s s' near
  cases ahead : s.rest with
  | nil =>
    intro a r read
    rw [Reader.branch, get_bind, ahead] at read
    obtain ⟨rfl, rfl⟩ := Prod.mk.inj (Except.ok.inj read)
    have alone : Reader.branch (n₁ + 1) d' parts { s with size := k } =
        .ok (.ofParts parts.reverse, { s with size := k }) := by
      rw [Reader.branch, get_bind, ahead]
      rfl
    refine .same alone ?_ near
    rcases near.rest_nil ahead with same | nothing
    · obtain ⟨m, rfl⟩ := Nat.exists_eq_add_of_le' (show 1 ≤ n' by omega)
      exact branch_of_frameEnd same m d' parts
    · rw [Reader.branch, get_bind, nothing]
      rfl
  | cons c rest =>
    rw [Reader.branch, Reader.branch, Reader.branch]
    refine .get ?_
    rw [ahead, near.rest_cons ahead]
    refine (G.atom le le' d d' near).bind fun piece s s' near => ?_
    refine (follows_quantified piece near).bind fun part s s' near => .get ?_
    have moved : (s'.rest.length = (c :: (rest ++ frameEnd)).length) =
        (s.rest.length = (c :: rest).length) := by
      rcases near.rest with same | ⟨nothing, nothing'⟩
      · rw [same, List.length_append, List.length_cons, List.length_append, List.length_cons,
          eq_iff_iff]
        omega
      · simp [nothing, nothing']
    simp only [moved]
    split
    · exact .pure near _
    · exact G.branch le le' d d' _ near

theorem Grammar.atom_succ :
    Follows k (Reader.atom (n + 1) d) (Reader.atom (n₁ + 1) d') (Reader.atom (n' + 1) d') := by
  intro s s' near
  rw [Reader.atom, Reader.atom, Reader.atom]
  refine (follows_skip near).bind fun _ s s' near => .get ?_
  cases ahead : s.rest with
  | nil =>
    rcases near.rest_nil ahead with same | nothing
    · rw [same]; exact .pure near _
    · rw [nothing]; exact .pure near _
  | cons c rest =>
    rw [near.rest_cons ahead]
    simp only
    split
    all_goals try exact .pure near _
    rw [near.flags]
    have near := near.withRest rest
    refine .setRest ?_
    split
    · exact .pure near _
    · exact .pure near _
    · exact .pure near _
    · by_cases deep : d + 1 ≥ maxDepth
      · rw [if_pos deep]
        exact .refused_bind _
      · by_cases deep' : d' + 1 ≥ maxDepth
        · rw [if_pos deep', if_pos deep']
          exact .deep
        · rw [if_neg deep, if_neg deep', if_neg deep']
          exact (follows_skip near).bind fun _ => G.opened le le' (d + 1) (d' + 1)
    · refine .lift (Escape.readsOn_read s.flags.foldCase false rest) fun escape rest => ?_
      exact .setRest (follows_escaped s.flags.foldCase escape (near.withRest rest))
    · refine .lift (CharClass.readsOn_read s.flags.foldCase rest) fun chars rest => ?_
      exact .setRest (.pure (near.withRest rest) _)
    · exact .pure near _

theorem Grammar.condition_succ :
    Follows k (Reader.condition (n + 1) d) (Reader.condition (n₁ + 1) d')
      (Reader.condition (n' + 1) d') := by
  intro s s' near
  rw [Reader.condition, Reader.condition, Reader.condition]
  refine (G.test le le' d d' near).bind fun test s s' near => ?_
  refine (follows_closeGroup near).bind fun _ s s' near => .get ?_
  refine (G.alternatives le le' d d' near).bind fun node r r' after => .get ?_
  by_cases ended : r.rest = []
  · -- The alternatives have taken all there is: no parenthesis closes the condition.
    split
    · split
      · exact .unclosed ended _
      · exact .refused _
    · exact .unclosed ended _
  · have unmoved : (r'.rest.length = s'.rest.length) = (r.rest.length = s.rest.length) := by
      have some : r.rest.length ≠ 0 := fun none => ended (List.length_eq_zero_iff.mp none)
      rw [eq_iff_iff]
      rcases after.rest with same | ⟨nothing, -⟩
      · have longer : r'.rest.length = r.rest.length + frameEnd.length := by
          rw [same, List.length_append]
        rcases near.rest with same | ⟨nothing, nothing'⟩
        · have longer' : s'.rest.length = s.rest.length + frameEnd.length := by
            rw [same, List.length_append]
          omega
        · rw [nothing, nothing', List.length_nil]
          omega
      · exact (ended nothing).elim
    simp only [unmoved]
    have closes {f : Unit → ReadM Node} (h : ∀ a, Follows k (f a) (f a) (f a)) :=
      (follows_closeGroup after).bind h
    split
    · split
      · exact closes fun _ _ _ near => .pure near _
      · exact .refused _
    · exact closes fun _ _ _ near => .pure near _

theorem Grammar.flagged {s s' : State} (near : Near k s s') (rest : List Char) :
    FollowsAt k s s' (Reader.flagged n d rest) (Reader.flagged n₁ d' rest)
      (Reader.flagged n' d' (rest ++ frameEnd)) := by
  rw [Reader.flagged, Reader.flagged, Reader.flagged]
  refine .get ?_
  simp only
  rw [near.flags]
  refine .setRest ?_
  rw [List.length_append]
  refine (follows_readFlags _ (by omega) false (near.withRest rest)).bind fun close s s' near => ?_
  split
  · refine (G.alternatives le le' d d' near).bind fun node s s' near => .get ?_
    cases ahead : s.rest with
    | nil => exact .refused _
    | cons c rest =>
      rw [near.rest_cons ahead]
      by_cases closes : c = ')'
      · subst closes
        refine .modify (.pure ?_ node)
        exact { near.withRest rest with flags := rfl }
      · split
        · exact (closes (List.cons.inj ‹_›).1).elim
        · exact .refused _
  · exact .pure near _

theorem Grammar.opened_succ :
    Follows k (Reader.opened (n + 1) d) (Reader.opened (n₁ + 1) d')
      (Reader.opened (n' + 1) d') := by
  intro s s' near
  rw [opened_eq, opened_eq, opened_eq]
  refine .get ?_
  rcases near.rest with same | ⟨nothing, nothing'⟩
  · rw [same, opening_append]
    cases opening s.rest with
    | look kind rest => exact .setRest (G.body le le' d d' (near.withRest rest)).map
    | named rest =>
      exact (follows_nameGroup near rest).bind fun index _ _ near => (G.body le le' d d' near).map
    | label rest =>
      show FollowsAt k s s' (match readName? ')' false rest with | none => _ | some (_, _) => _)
        (match readName? ')' false rest with | none => _ | some (_, _) => _) _
      simp only [Opening.withEnd]
      cases found : readName? ')' false rest with
      | none => exact .refused _
      | some name =>
        rw [readName?_append found]
        refine (follows_referToLabel false name.1 near).bind fun index _ _ near => ?_
        exact .setRest (.pure (near.withRest name.2) _)
    | atomic rest => exact .setRest (G.body le le' d d' (near.withRest rest)).map
    | condition rest => exact .setRest (G.condition le le' d d' (near.withRest rest))
    | flagged rest => exact G.flagged le le' d d' near rest
    | numbered =>
      exact (follows_openGroup near).bind fun index _ _ near => (G.body le le' d d' near).map
  · rw [nothing, nothing']
    exact (follows_openGroup near).bind fun index _ _ near => (G.body le le' d d' near).map

end

theorem grammar (k n : Nat) : Grammar k n := by
  induction n with
  | zero =>
    -- A reader without fuel reads nothing.
    have empty {α : Type} {m m₁ m' : ReadM α} (none : m = throw .tooDeep) : Follows k m m₁ m' :=
      fun _ _ _ => none ▸ .refused _
    constructor
    · exact fun _ _ d _ => empty (by rw [alternatives])
    · exact fun _ _ d _ choices => empty (by rw [moreAlternatives])
    · exact fun _ _ d _ parts => empty (by rw [branch])
    · exact fun _ _ d _ => empty (by rw [atom])
    · exact fun _ _ d _ => empty (by rw [opened])
    · exact fun _ _ d _ => empty (by rw [body])
    · exact fun _ _ d _ => empty (by rw [condition])
    · exact fun _ _ d _ => empty (by rw [test])
  | succ n G =>
    have fuelled {α : Type} {m : ReadM α} (f : Nat → ReadM α)
        (some : ∀ {n₁ n'}, n ≤ n₁ → n + 2 ≤ n' → Follows k m (f (n₁ + 1)) (f (n' + 1)))
        {n₁ n' : Nat}
        (le : n + 1 ≤ n₁) (le' : n + 1 + 2 ≤ n') : Follows k m (f n₁) (f n') := by
      obtain ⟨n₁, rfl⟩ := Nat.exists_eq_add_of_le' (show 1 ≤ n₁ by omega)
      obtain ⟨n', rfl⟩ := Nat.exists_eq_add_of_le' (show 1 ≤ n' by omega)
      exact some (by omega) (by omega)
    constructor
    · exact fun le le' d d' => fuelled (alternatives · d') (G.alternatives_succ · · d d') le le'
    · exact fun le le' d d' choices =>
        fuelled (moreAlternatives · d' choices) (G.moreAlternatives_succ · · d d' choices) le le'
    · exact fun le le' d d' parts =>
        fuelled (branch · d' parts) (G.branch_succ · · d d' parts) le le'
    · exact fun le le' d d' => fuelled (atom · d') (G.atom_succ · · d d') le le'
    · exact fun le le' d d' => fuelled (opened · d') (G.opened_succ · · d d') le le'
    · exact fun le le' d d' => fuelled (body · d') (G.body_succ · · d d') le le'
    · exact fun le le' d d' => fuelled (condition · d') (G.condition_succ · · d d') le le'
    · exact fun le le' d d' => fuelled (test · d') (G.test_succ · · d d') le le'

end Conlang.Pattern.Reader
