import Conlang.Proofs.Pattern.Framing

/-! The numbers of groups.

The reader numbers groups from one (`read_numbered`). -/
namespace Conlang.Pattern

namespace Node

/-- No group has the number of the whole match. -/
def Numbered (node : Node) : Prop := 0 ∉ node.groupsIn

def NumberedAll (parts : List Node) : Prop := 0 ∉ groupsInAll parts

theorem numberedAll_nil : NumberedAll [] := List.not_mem_nil

theorem numberedAll_cons {part : Node} {parts : List Node} :
    NumberedAll (part :: parts) ↔ part.Numbered ∧ NumberedAll parts := by
  simp [NumberedAll, Numbered, groupsInAll]

theorem numberedAll_iff {parts : List Node} :
    NumberedAll parts ↔ ∀ part ∈ parts, part.Numbered := by
  induction parts with
  | nil => simp [NumberedAll, groupsInAll]
  | cons part parts ih => rw [numberedAll_cons, ih, List.forall_mem_cons]

theorem numberedAll_reverse {parts : List Node} :
    NumberedAll parts.reverse ↔ NumberedAll parts := by
  simp only [numberedAll_iff, List.mem_reverse]

theorem numbered_group {index : Nat} {body : Node} (pos : 0 < index) (h : body.Numbered) :
    (group index body).Numbered := by
  simp only [Numbered, groupsIn, List.mem_cons, not_or]
  exact ⟨Nat.ne_of_lt pos, h⟩

theorem numbered_cond {test thenBody elseBody : Node} (asked : test.Numbered)
    (met : thenBody.Numbered) (missed : elseBody.Numbered) :
    (cond test thenBody elseBody).Numbered := by
  simp only [Numbered, groupsIn, List.mem_append, not_or]
  exact ⟨⟨asked, met⟩, missed⟩

theorem numbered_ofParts {parts : List Node} (h : NumberedAll parts) :
    (ofParts parts).Numbered := by
  match parts, h with
  | [], _ => exact List.not_mem_nil
  | [part], h => exact (numberedAll_cons.mp h).1
  | _ :: _ :: _, h => exact h

end Node

namespace Reader

/-- What is read has a property. -/
def Reads {α : Type} (m : ReadM α) (Q : α → Prop) : Prop := ∀ ⦃s a r⦄, m s = .ok (a, r) → Q a

namespace Reads

variable {α β : Type} {m : ReadM α} {f : α → ReadM β} {Q : α → Prop} {R : β → Prop}

theorem pure {a : α} (h : Q a) : Reads (Pure.pure a) Q := by
  intro s b r read
  obtain ⟨rfl, rfl⟩ := Prod.mk.inj (Except.ok.inj read)
  exact h

theorem throw (e : Fault) : Reads (MonadExcept.throw e) Q := by
  intro s b r read
  cases read

theorem refused (e : Fault) : Reads (MonadExcept.throw e >>= f) R := by
  intro s b r read
  cases read

theorem bind (h : Reads m Q) (next : ∀ a, Q a → Reads (f a) R) : Reads (m >>= f) R := by
  intro s b r read
  obtain ⟨a, after, first, rest⟩ := bind_ok read
  exact next a (h first) rest

/-- What comes first does not matter. -/
theorem skip (next : ∀ a, Reads (f a) R) : Reads (m >>= f) R := by
  intro s b r read
  obtain ⟨a, after, first, rest⟩ := bind_ok read
  exact next a rest

theorem map {g : α → β} (h : Reads m Q) (next : ∀ a, Q a → R (g a)) : Reads (g <$> m) R := by
  rw [← bind_pure_comp]
  exact h.bind fun a holds => .pure (next a holds)

theorem map_any {g : α → β} (next : ∀ a, R (g a)) : Reads (g <$> m) R := by
  rw [← bind_pure_comp]
  exact skip fun a => .pure (next a)

end Reads

theorem openGroup_pos : Reads openGroup (0 < ·) := by
  intro s index r read
  obtain ⟨rfl, rfl⟩ := Prod.mk.inj (Except.ok.inj read)
  exact Nat.succ_pos _

theorem nameGroup_pos (rest : List Char) : Reads (nameGroup rest) (0 < ·) := by
  refine openGroup_pos.bind fun index pos => ?_
  split
  · exact .throw _
  · exact .skip fun _ => .pure pos

theorem quantified_numbered {node : Node} (h : node.Numbered) :
    Reads (quantified node) Node.Numbered := by
  rw [quantified]
  refine .skip fun _ => .skip fun s => ?_
  split
  · exact .pure h
  · split
    · exact .refused _
    · refine .skip fun _ => .skip fun _ => .skip fun s => ?_
      dsimp only
      split <;> exact .skip fun _ => .pure h

theorem labelled_numbered (name : Option (String × List Char)) :
    Reads (labelled name) Node.Numbered := by
  cases name with
  | none => exact .throw _
  | some => exact .skip fun _ => .map_any fun _ => List.not_mem_nil

theorem escaped_numbered (foldCase : Bool) (e : Escape) :
    Reads (escaped foldCase e) Node.Numbered := by
  rw [escaped.eq_def]
  split
  · refine .pure ?_
    split <;> exact List.not_mem_nil
  · exact .pure List.not_mem_nil
  · exact .pure List.not_mem_nil
  · exact .map_any fun _ => List.not_mem_nil
  · exact .map_any fun _ => List.not_mem_nil
  · exact .pure List.not_mem_nil
  · exact .pure List.not_mem_nil

theorem literal_numbered (foldCase : Bool) (c : Char) : (literal foldCase c).Numbered := by
  rw [literal]
  split <;> exact List.not_mem_nil

theorem asTest_numbered {node : Node} (h : node.Numbered) : (asTest node).Numbered := by
  rw [asTest.eq_def]
  split
  · exact List.not_mem_nil
  · exact h

theorem branches_numbered {node : Node} (h : node.Numbered) :
    (branches node).1.Numbered ∧ (branches node).2.Numbered := by
  rw [branches.eq_def]
  split
  · obtain ⟨first, rest⟩ := Node.numberedAll_cons.mp h
    refine ⟨first, ?_⟩
    simp only
    split
    · exact (Node.numberedAll_cons.mp rest).1
    · exact rest
  · exact ⟨h, List.not_mem_nil⟩

/-! ### The grammar -/

/-- What each part of the grammar reads has no group with the number of the whole match. -/
structure Numbers (n : Nat) : Prop where
  alternatives (d : Nat) : Reads (alternatives n d) Node.Numbered
  moreAlternatives (d : Nat) {choices : List Node} (h : Node.NumberedAll choices) :
    Reads (moreAlternatives n d choices) Node.NumberedAll
  branch (d : Nat) {parts : List Node} (h : Node.NumberedAll parts) :
    Reads (branch n d parts) Node.Numbered
  atom (d : Nat) : Reads (atom n d) Node.Numbered
  opened (d : Nat) : Reads (opened n d) Node.Numbered
  body (d : Nat) : Reads (body n d) Node.Numbered
  condition (d : Nat) : Reads (condition n d) Node.Numbered
  test (d : Nat) : Reads (test n d) Node.Numbered

section
variable {n : Nat} (G : Numbers n) (d : Nat)

include G

theorem Numbers.alternatives_succ : Reads (Reader.alternatives (n + 1) d) Node.Numbered := by
  rw [Reader.alternatives]
  refine (G.branch d Node.numberedAll_nil).bind fun first numbered => .skip fun _ => .skip fun s =>
    ?_
  split
  · refine (G.moreAlternatives d ?_).map fun choices numbered => numbered
    exact Node.numberedAll_cons.mpr ⟨numbered, Node.numberedAll_nil⟩
  · refine .skip fun s => ?_
    split
    · exact .throw _
    · exact .pure numbered

theorem Numbers.moreAlternatives_succ {choices : List Node} (h : Node.NumberedAll choices) :
    Reads (Reader.moreAlternatives (n + 1) d choices) Node.NumberedAll := by
  rw [Reader.moreAlternatives]
  refine .skip fun s => ?_
  split
  · refine .skip fun _ => (G.branch d Node.numberedAll_nil).bind fun choice numbered =>
      .skip fun _ => ?_
    exact G.moreAlternatives d (Node.numberedAll_cons.mpr ⟨numbered, h⟩)
  · exact .pure (Node.numberedAll_reverse.mpr h)

theorem Numbers.branch_succ {parts : List Node} (h : Node.NumberedAll parts) :
    Reads (Reader.branch (n + 1) d parts) Node.Numbered := by
  rw [Reader.branch]
  refine .skip fun s => ?_
  dsimp only
  have ended : (Node.ofParts parts.reverse).Numbered :=
    Node.numbered_ofParts (Node.numberedAll_reverse.mpr h)
  split
  · exact .pure ended
  · refine (G.atom d).bind fun node numbered =>
      (quantified_numbered numbered).bind fun part numbered => ?_
    refine .skip fun s => ?_
    split
    · exact .pure ended
    · refine G.branch d ?_
      split
      · exact h
      · exact Node.numberedAll_cons.mpr ⟨numbered, h⟩

theorem Numbers.atom_succ : Reads (Reader.atom (n + 1) d) Node.Numbered := by
  rw [Reader.atom]
  refine .skip fun _ => .skip fun s => ?_
  split
  · exact .pure List.not_mem_nil
  · split
    · exact .pure List.not_mem_nil
    · exact .pure List.not_mem_nil
    · exact .pure List.not_mem_nil
    · exact .pure List.not_mem_nil
    · exact .pure List.not_mem_nil
    · refine .skip fun _ => ?_
      split
      · exact .pure List.not_mem_nil
      · exact .pure List.not_mem_nil
      · exact .pure List.not_mem_nil
      · split
        · exact .refused _
        · exact .skip fun _ => G.opened _
      · exact .skip fun _ => .skip fun _ => escaped_numbered _ _
      · exact .skip fun _ => .skip fun _ => .pure List.not_mem_nil
      · exact .pure (literal_numbered _ _)

theorem Numbers.flagged (rest : List Char) : Reads (Reader.flagged n d rest) Node.Numbered := by
  rw [Reader.flagged]
  refine .skip fun s => .skip fun _ => .skip fun ended => ?_
  split
  · refine (G.alternatives d).bind fun node numbered => .skip fun s => ?_
    split
    · exact .skip fun _ => .pure numbered
    · exact .throw _
  · exact .pure List.not_mem_nil

theorem Numbers.opened_succ : Reads (Reader.opened (n + 1) d) Node.Numbered := by
  rw [opened_eq]
  refine .skip fun s => ?_
  cases opening s.rest with
  | look kind rest => exact .skip fun _ => (G.body d).map fun _ numbered => numbered
  | named rest =>
    exact (nameGroup_pos rest).bind fun _ pos => (G.body d).map fun _ numbered =>
      Node.numbered_group pos numbered
  | label rest =>
    dsimp only
    split
    · exact .throw _
    · exact .skip fun _ => .skip fun _ => .pure List.not_mem_nil
  | atomic rest => exact .skip fun _ => (G.body d).map fun _ numbered => numbered
  | condition rest => exact .skip fun _ => G.condition d
  | flagged rest => exact G.flagged d rest
  | numbered =>
    exact openGroup_pos.bind fun _ pos => (G.body d).map fun _ numbered =>
      Node.numbered_group pos numbered

theorem Numbers.body_succ : Reads (Reader.body (n + 1) d) Node.Numbered := by
  rw [Reader.body]
  exact (G.alternatives d).bind fun node numbered => .skip fun _ => .pure numbered

theorem Numbers.condition_succ : Reads (Reader.condition (n + 1) d) Node.Numbered := by
  rw [Reader.condition]
  refine (G.test d).bind fun test asked => .skip fun _ => .skip fun s => ?_
  refine (G.alternatives d).bind fun node numbered => .skip fun s => ?_
  split
  · split
    · exact .skip fun _ => .pure List.not_mem_nil
    · exact .throw _
  · obtain ⟨met, missed⟩ := branches_numbered numbered
    generalize branches node = both at met missed
    obtain ⟨thenBody, elseBody⟩ := both
    refine .skip fun _ => .pure ?_
    split
    · exact asTest_numbered asked
    · exact Node.numbered_cond (asTest_numbered asked) met missed

theorem Numbers.test_succ : Reads (Reader.test (n + 1) d) Node.Numbered := by
  rw [Reader.test]
  refine .skip fun s => ?_
  split
  · exact .throw _
  · exact labelled_numbered _
  · exact labelled_numbered _
  · split
    · split
      · exact .throw _
      · exact .skip fun _ => .map_any fun _ => List.not_mem_nil
    · exact G.alternatives d

end

theorem numbers (n : Nat) : Numbers n := by
  induction n with
  | zero =>
    -- A reader without fuel reads nothing.
    have empty {α : Type} {m : ReadM α} {Q : α → Prop} (none : m = throw .tooDeep) : Reads m Q :=
      none ▸ .throw _
    constructor
    · exact fun d => empty (by rw [alternatives])
    · exact fun d choices _ => empty (by rw [moreAlternatives])
    · exact fun d parts _ => empty (by rw [branch])
    · exact fun d => empty (by rw [atom])
    · exact fun d => empty (by rw [opened])
    · exact fun d => empty (by rw [body])
    · exact fun d => empty (by rw [condition])
    · exact fun d => empty (by rw [test])
  | succ n G =>
    constructor
    · exact G.alternatives_succ
    · exact fun d choices => G.moreAlternatives_succ d
    · exact fun d parts => G.branch_succ d
    · exact G.atom_succ
    · exact G.opened_succ
    · exact G.body_succ
    · exact G.condition_succ
    · exact G.test_succ

end Reader

/-- **The reader numbers groups from one.** -/
theorem read_numbered {s : String} {source : Source} (read : Reader.read s = .ok source) :
    source.node.Numbered := by
  obtain ⟨node, r, whole, -, rfl⟩ := Reader.read_ok read
  exact (Reader.numbers _).alternatives 0 whole

end Conlang.Pattern
