import Conlang.Pattern.Replace
import Conlang.Proofs.Pattern.Following

/-! Reading a pattern in its frame.

What stands in the frame is what the pattern is alone (`read_framed`). But not every pattern can be
read in its frame: three faults are those of the frame (`frameFault?`, `read_framed_eq`). -/
namespace Conlang.Pattern.Reader

/-! ### The pieces of a frame -/

section
variable (rest : List Char) (size groups : Nat) (names : List (String × Nat)) (referred : List Nat)
  (numbered : Bool)
  (n d : Nat)

theorem atom_textStart : atom (n + 1) d ⟨'^' :: rest, size, {}, groups, names, referred, numbered⟩ =
    .ok (.assertion .textStart, ⟨rest, size, {}, groups, names, referred, numbered⟩) := by
  rw [atom]
  rfl

theorem atom_textEnd : atom (n + 1) d ⟨['$'], size, {}, groups, names, referred, numbered⟩ =
    .ok (.assertion .textEnd, ⟨[], size, {}, groups, names, referred, numbered⟩) := by
  rw [atom]
  rfl

theorem atom_group (shallow : d + 1 < maxDepth) :
    atom (n + 2) d ⟨'(' :: '?' :: ':' :: rest, size, {}, groups, names, referred, numbered⟩ =
      (do
        let node ← alternatives n (d + 1)
        match (← get).rest with
        | ')' :: rest =>
          modify fun s => { s with rest, flags := {} }
          pure node
        | _ => throw .unclosedGroup : ReadM Node)
        ⟨rest, size, {}, groups, names, referred, numbered⟩ := by
  rw [atom]
  show (if d + 1 ≥ maxDepth then throw .tooDeep else _ : ReadM Node) _ = _
  rw [if_neg (by omega)]
  show opened (n + 1) (d + 1) _ = _
  rw [opened_eq]
  rfl

end

theorem quantified_of_none {s : State} (node : Node)
    (here : Reader.skipGap s.flags.spaced .outside s.rest = .ok s.rest)
    (none : Reader.quantifier? s.flags.spaced s.rest = none) :
    quantified node s = .ok (node, s) := by
  have skipped : skip s = .ok ((), s) := by rw [skip_apply, here]; rfl
  rw [quantified, bind_of_ok skipped, get_bind, none]
  rfl

theorem branch_succ {n d : Nat} {parts : List Node} {s after : State} {part : Node}
    (more : s.rest ≠ []) (first : atom n d s = .ok (part, after))
    (once : quantified part after = .ok (part, after)) :
    branch (n + 1) d parts s = if after.rest.length = s.rest.length
      then .ok (.ofParts parts.reverse, after)
      else branch n d (if part.isEmpty then parts else part :: parts) after := by
  rw [branch, get_bind, if_neg (by simpa using more), bind_of_ok first, bind_of_ok once, get_bind]
  split <;> rfl

theorem branch_of_nil {n d : Nat} {parts : List Node} {s : State} (ended : s.rest = []) :
    branch (n + 1) d parts s = .ok (.ofParts parts.reverse, s) := by
  rw [branch, get_bind, ended]
  rfl

/-- What the frame puts around a node. -/
def around (node : Node) : List Node :=
  .assertion .textStart :: (if node.isEmpty then [] else [node]) ++ [.assertion .textEnd]

/-- What holds of the assertions and of a node holds of the parts of its frame. -/
theorem forall_mem_around {node : Node} {Holds : Node → Prop}
    (place : ∀ kind, Holds (.assertion kind)) (h : Holds node) :
    ∀ part ∈ around node, Holds part := by
  intro part mem
  simp only [around, List.cons_append, List.mem_cons, List.mem_append, List.not_mem_nil, or_false]
    at mem
  rcases mem with rfl | mem | rfl
  · exact place _
  · split at mem
    · cases mem
    · rwa [List.mem_singleton.mp mem]
  · exact place _

section
variable {chars : List Char} {size n : Nat}

/-- The reader of a frame comes to the group in it, and goes on behind the group. -/
theorem branch_frame :
    branch (n + 7) 0 [] { rest := '^' :: '(' :: '?' :: ':' :: (chars ++ frameEnd), size } = (do
      let part ← quantified (← atom (n + 5) 0)
      if (← get).rest.length = ('(' :: '?' :: ':' :: (chars ++ frameEnd)).length then
        pure (.ofParts [.assertion .textStart])
      else
        branch (n + 5) 0 (if part.isEmpty then [.assertion .textStart]
          else [part, .assertion .textStart]) :
        ReadM Node) { rest := '(' :: '?' :: ':' :: (chars ++ frameEnd), size } := by
  rw [branch_succ (List.cons_ne_nil _ _) (atom_textStart ..) (quantified_of_none _ rfl rfl),
    if_neg (by simp)]
  change branch (n + 6) 0 [.assertion .textStart] _ = _
  rw [branch, get_bind, if_neg (by simp)]
  rfl

variable {node : Node} {after : State}

/-- What can not be read in the frame is the fault of the frame. -/
theorem alternatives_frame_error {e : Fault}
    (inner : alternatives (n + 3) 1 { rest := chars ++ frameEnd, size } = .error e) :
    alternatives (n + 8) 0 { rest := '^' :: '(' :: '?' :: ':' :: (chars ++ frameEnd), size } =
      .error e := by
  have group : atom (n + 5) 0 { rest := '(' :: '?' :: ':' :: (chars ++ frameEnd), size } =
    .error e := by
    rw [atom_group _ _ _ _ _ _ _ _ (by decide)]
    exact bind_of_error inner
  rw [alternatives]
  exact bind_of_error (branch_frame.trans (bind_of_error group))

/-- A frame whose end is lost is not closed. -/
theorem alternatives_frame_lost
    (inner : alternatives (n + 3) 1 { rest := chars ++ frameEnd, size } = .ok (node, after))
    (lost : after.rest = []) :
    alternatives (n + 8) 0 { rest := '^' :: '(' :: '?' :: ':' :: (chars ++ frameEnd), size } =
      .error .unclosedGroup := by
  have group : atom (n + 5) 0 { rest := '(' :: '?' :: ':' :: (chars ++ frameEnd), size } =
    .error .unclosedGroup := by
    rw [atom_group _ _ _ _ _ _ _ _ (by decide), bind_of_ok inner, get_bind, lost]
    rfl
  rw [alternatives]
  exact bind_of_error (branch_frame.trans (bind_of_error group))

/-- A frame whose end is reached is read, unless groups are referred to both by name and by
number. -/
theorem alternatives_frame_ended
    (inner : alternatives (n + 3) 1 { rest := chars ++ frameEnd, size } = .ok (node, after))
    (ended : after.rest = frameEnd) :
    alternatives (n + 8) 0 { rest := '^' :: '(' :: '?' :: ':' :: (chars ++ frameEnd), size } =
      if after.numbered && !after.names.isEmpty then .error .namedAndNumbered
      else .ok (.ofParts (around node), { after with rest := [], flags := {} }) := by
  have group : atom (n + 5) 0 { rest := '(' :: '?' :: ':' :: (chars ++ frameEnd), size } =
      .ok (node, { after with rest := ['$'], flags := {} }) := by
    rw [atom_group _ _ _ _ _ _ _ _ (by decide), bind_of_ok inner, get_bind, ended]
    rfl
  have row : branch (n + 7) 0 [] { rest := '^' :: '(' :: '?' :: ':' :: (chars ++ frameEnd), size } =
      .ok (.ofParts (around node), { after with rest := [], flags := {} }) := by
    rw [branch_frame, bind_of_ok group, bind_of_ok (quantified_of_none node rfl rfl), get_bind,
      if_neg (by simp),
      branch_succ (List.cons_ne_nil _ _) (atom_textEnd ..) (quantified_of_none _ rfl rfl),
      if_neg (by simp), branch_of_nil rfl, around]
    cases node.isEmpty <;> rfl
  rw [alternatives, bind_of_ok row, bind_of_ok (by rw [skip_apply]; rfl), get_bind]
  simp only
  rw [get_bind]
  split <;> rfl

end

/-! ### Whole texts -/

/-- Reads a whole text as one that stands in so many parentheses. -/
def readAt (depth : Nat) (text : String) : Except Fault (Node × State) :=
  alternatives (6 * (text.toList.length + 2)) depth
    { rest := text.toList, size := text.utf8ByteSize }

/-- Reads what stands behind the opening of a frame, the text and the end of the frame, with the
fuel that is left there. -/
def readInside (text : String) : Except Fault (Node × State) :=
  alternatives (6 * text.toList.length + 43) 1
    { rest := text.toList ++ frameEnd, size := text.utf8ByteSize + 6 }

/-- In the text groups are referred to by number, and groups have names. -/
def mixes (text : String) : Bool :=
  match readAt 0 text with
  | .ok (_, r) => r.numbered && !r.names.isEmpty
  | .error _ => false

/-- Why a legal text can not be read in its frame. The frame adds a parenthesis to those the text
nests. A comment that lasts to the end of the text takes in the end of the frame as well. And
whether groups are referred to both by name and by number is not asked where alternatives are, but
it is asked of the frame around them. -/
def frameFault? (text : String) : Option Fault :=
  match readAt 1 text with
  | .error .tooDeep => some .tooDeep
  | _ =>
    if (Reader.read (text ++ ")$")).toBool then some .unclosedGroup
    else if mixes text then some .namedAndNumbered
    else none

/-- A text is read if nothing is left of it. -/
theorem read_eq (text : String) :
    Reader.read text = (do
      let (node, r) ← readAt 0 text
      match r.rest with
      | [] => .ok ⟨node, r.groups, r.names, r.referred⟩
      | _ => .error .unopenedGroup) := rfl

section
variable {s : String} {node : Node} {r : State}

theorem read_of_nil (read : readAt 0 s = .ok (node, r)) (ended : r.rest = []) :
    Reader.read s = .ok ⟨node, r.groups, r.names, r.referred⟩ := by
  obtain ⟨rest, size, flags, groups, names, referred, numbered⟩ := r
  subst ended
  rw [read_eq, read]
  rfl

theorem read_of_frameEnd (read : readAt 0 s = .ok (node, r)) (left : r.rest = frameEnd) :
    Reader.read s = .error .unopenedGroup := by
  obtain ⟨rest, size, flags, groups, names, referred, numbered⟩ := r
  subst left
  rw [read_eq, read]
  rfl

theorem read_of_error {fault : Fault} (read : readAt 0 s = .error fault) :
    Reader.read s = .error fault := by
  rw [read_eq, read]
  rfl

theorem read_ok {source : Source} (read : Reader.read s = .ok source) :
    ∃ node r, readAt 0 s = .ok (node, r) ∧ r.rest = [] ∧
    source = ⟨node, r.groups, r.names, r.referred⟩ := by
  cases whole : readAt 0 s with
  | error e => cases (read_of_error whole).symm.trans read
  | ok x =>
    obtain ⟨node, r⟩ := x
    rw [read_eq, whole] at read
    obtain ⟨rest, size, flags, groups, names, referred, numbered⟩ := r
    cases rest with
    | nil => exact ⟨node, _, rfl, rfl, (Except.ok.inj read).symm⟩
    | cons c rest => cases read

variable (s) in
theorem readAt_framed :
    readAt 0 (framed s) = alternatives (6 * s.toList.length + 40 + 8) 0
      { rest := '^' :: '(' :: '?' :: ':' :: (s.toList ++ frameEnd),
        size := s.utf8ByteSize + 6 } := by
  have chars : (framed s).toList = '^' :: '(' :: '?' :: ':' :: (s.toList ++ frameEnd) := by
    simp [framed, frameEnd]
  have size : (framed s).utf8ByteSize = 4 + s.utf8ByteSize + 2 :=
    (String.utf8ByteSize_append ..).trans (congrArg (· + 2) (String.utf8ByteSize_append ..))
  rw [readAt, chars, size, show 4 + s.utf8ByteSize + 2 = s.utf8ByteSize + 6 by omega]
  congr 1
  simp only [List.length_cons, List.length_append, frameEnd, List.length_nil]
  omega

variable (s) in
theorem readAt_closed :
    readAt 0 (s ++ ")$") = alternatives (6 * s.toList.length + 24) 0
      { rest := s.toList ++ frameEnd, size := s.utf8ByteSize + 2 } := by
  have chars : (s ++ ")$").toList = s.toList ++ frameEnd := by simp [frameEnd]
  have size : (s ++ ")$").utf8ByteSize = s.utf8ByteSize + 2 := String.utf8ByteSize_append ..
  rw [readAt, chars, size]
  congr 1
  simp only [List.length_append, frameEnd, List.length_cons, List.length_nil]
  omega

/-- What is read alone is read before the end of a frame. In the frame the same is left of the end,
unless one more parenthesis is too deep for the text. -/
theorem readInside_of_readAt (read : readAt 0 s = .ok (node, r)) :
    ∃ behind, readAt 0 (s ++ ")$") = .ok (node, behind) ∧ Near s.utf8ByteSize r behind ∧
      ((∃ r₁, readAt 1 s = .ok (node, r₁)) ∧
        readInside s = .ok (node, { behind with size := s.utf8ByteSize + 6 }) ∨
        readAt 1 s = .error .tooDeep ∧ readInside s = .error .tooDeep) := by
  let closed : State := { rest := s.toList ++ frameEnd, size := s.utf8ByteSize + 2 }
  have near (n : Nat) : Near s.utf8ByteSize { rest := s.toList, size := s.utf8ByteSize }
      { rest := s.toList ++ frameEnd, size := s.utf8ByteSize + n } :=
    ⟨.inl rfl, Nat.le_add_right .., Nat.le_refl _, rfl, rfl, rfl, rfl, rfl⟩
  have level : Outcome s.utf8ByteSize node r (readAt 0 s) (readAt 0 (s ++ ")$")) :=
    readAt_closed s ▸ (grammar _ _).alternatives (Nat.le_refl _) (by omega) 0 0 (near 2) read
  obtain ⟨-, behind, readClosed, nearBehind⟩ | ⟨refused, -⟩ := level
  case inr => cases refused.symm.trans read
  -- The text alone, and then what is read with the end of the frame behind it, are followed into
  -- the frame.
  have deeper : Outcome s.utf8ByteSize node r (readAt 1 s) (readInside s) :=
    (grammar _ _).alternatives (Nat.le_refl _) (by omega) 0 1 (near 6) read
  have further : Near (s.utf8ByteSize + 6) closed { closed with rest := closed.rest ++ frameEnd } :=
    ⟨.inl rfl, Nat.le_refl _, Nat.le_add_right (s.utf8ByteSize + 2) 4, rfl, rfl, rfl, rfl, rfl⟩
  have again : Outcome (s.utf8ByteSize + 6) node behind (readInside s)
      (alternatives (6 * s.toList.length + 43) 1 { closed with rest := closed.rest ++ frameEnd }) :=
    (grammar _ _).alternatives (Nat.add_le_add_left (by decide : 24 ≤ 43) _)
      (Nat.add_le_add_left (by decide : 24 + 2 ≤ 43) _) 0 1 further
      ((readAt_closed s).symm.trans readClosed)
  refine ⟨behind, readClosed, nearBehind, ?_⟩
  obtain ⟨shallow, _, inside, -⟩ | ⟨deep, inside⟩ := deeper
  · obtain ⟨same, -⟩ | ⟨refused, -⟩ := again
    · exact .inl ⟨⟨_, shallow⟩, same⟩
    · cases refused.symm.trans inside
  · exact .inr ⟨deep, inside⟩

/-- A legal text is read in its frame as it is alone, unless the frame is at fault. -/
theorem read_framed_eq {source : Source} (alone : Reader.read s = .ok source) :
    Reader.read (framed s) =
      match frameFault? s with
      | some fault => .error fault
      | none => .ok { source with node := .ofParts (around source.node) } := by
  obtain ⟨node, r, read, ended, rfl⟩ := read_ok alone
  obtain ⟨behind, closed, near, ⟨⟨r₁, shallow⟩, inside⟩ | ⟨deep, inside⟩⟩ :=
    readInside_of_readAt read
  · rw [frameFault?, shallow]
    rcases near.rest_nil ended with left | lost
    · have mixed : mixes s = (behind.numbered && !behind.names.isEmpty) := by
        rw [mixes, read, near.numbered, near.names]
      have whole := (readAt_framed s).trans (alternatives_frame_ended inside left)
      rw [read_of_frameEnd closed left, mixed]
      simp only at whole ⊢
      cases mixes : behind.numbered && !behind.names.isEmpty with
      | true =>
        rw [mixes] at whole
        exact read_of_error whole
      | false =>
        rw [mixes] at whole
        rw [read_of_nil whole rfl, near.groups, near.names, near.referred]
        rfl
    · rw [read_of_nil closed lost]
      exact read_of_error ((readAt_framed s).trans (alternatives_frame_lost inside lost))
  · rw [frameFault?, deep]
    exact read_of_error ((readAt_framed s).trans (alternatives_frame_error inside))

/-- The frame is asked what the alternatives are not. -/
example : frameFault? "(?<n>a)\\1|b" = some .namedAndNumbered := by decide +kernel

/-- **In its frame stands what the pattern is alone**, if both are read. -/
theorem read_framed {source whole : Source} (alone : Reader.read s = .ok source)
    (inFrame : Reader.read (framed s) = .ok whole) :
    whole = { source with node := .ofParts (around source.node) } := by
  rw [read_framed_eq alone] at inFrame
  split at inFrame
  · cases inFrame
  · exact (Except.ok.inj inFrame).symm

end

end Conlang.Pattern.Reader
