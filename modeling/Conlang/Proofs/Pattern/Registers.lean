import Conlang.Proofs.Pattern.Placing

/-! Which instructions the code of a pattern consists of.

Most instructions may stand in the code of any pattern; the others come from nodes of their own. A
`Guard` tells what nodes of a kind bring, and `Machine.code_guarded` that all their code is such. -/
namespace Conlang.Pattern

namespace Instruction

/-- The instruction may stand in the code of any pattern. -/
def Common : Instruction → Prop
  | .zero r | .turn _ _ _ _ r => 0 < r
  | .moving _ _ _ count last => 0 < count ∧ 0 < last
  | .mark _ | .restore _ | .back _ | .refute _ | .run _ _ | .searchStart | .accept => False
  | _ => True

end Instruction

/-- The instructions around the code of a lookaround. -/
structure Around (Q : Instruction → Prop) : Prop where
  mark : ∀ {r}, 0 < r → Q (.mark r)
  restore : ∀ {r}, 0 < r → Q (.restore r)
  back : ∀ n, Q (.back n)
  refute : ∀ target, Q (.refute target)

/-- Nodes of a kind, whose code consists of instructions of a kind. -/
structure Guard (P : Node → Prop) (Q : Instruction → Prop) : Prop where
  common : ∀ {i : Instruction}, i.Common → Q i
  run : ∀ {node a}, P node → Q (.run a node.groupsIn)
  seq : ∀ {parts}, P (.seq parts) → ∀ part ∈ parts, P part
  row : ∀ {parts}, (∀ part ∈ parts, P part) → P (.ofParts parts)
  alt : ∀ {choices}, P (.alt choices) → ∀ choice ∈ choices, P choice
  group : ∀ {index body}, P (.group index body) → P body ∧ Q (.mark (2 * index)) ∧
    Q (.mark (2 * index + 1))
  rep : ∀ {least most greedy body}, P (.rep least most greedy body) → P body
  atomic : ∀ {body}, P (.atomic body) → P body
  look : ∀ {kind body}, P (.look kind body) → P body ∧ Around Q
  cond : ∀ {test thenBody elseBody}, P (.cond test thenBody elseBody) → P test ∧ P thenBody ∧
    P elseBody
  keepOut : P .keepOut → Q (.mark 0)
  searchStart : P .searchStart → Q .searchStart

namespace Machine

variable {α β : Type}

/-- What is built has a property, and registers are handed out behind those in use. -/
def Build.Yields (m : Build α) (Q : α → Prop) : Prop :=
  ∀ ⦃ctx n a n'⦄, m ctx n = .ok (a, n') → 0 < n → n ≤ n' ∧ Q a

namespace Build.Yields

variable {m : Build α} {f : α → Build β} {Q : α → Prop} {R : β → Prop}

theorem pure {a : α} (h : Q a) : Build.Yields (Pure.pure a) Q := by
  intro ctx n b n' built pos
  obtain ⟨rfl, rfl⟩ := Prod.mk.inj (Except.ok.inj built)
  exact ⟨Nat.le_refl n, h⟩

theorem throw (e : Fault) : Build.Yields (MonadExcept.throw e) Q := by
  intro ctx n b n' built
  cases built

theorem bind (h : m.Yields Q) (next : ∀ a, Q a → (f a).Yields R) : Build.Yields (m >>= f) R := by
  intro ctx n b n' built pos
  obtain ⟨a, n₁, first, rest⟩ := Build.bind_eq_ok built
  obtain ⟨le, holds⟩ := h first pos
  obtain ⟨le', holds'⟩ := next a holds rest (Nat.lt_of_lt_of_le pos le)
  exact ⟨Nat.le_trans le le', holds'⟩

theorem read : Build.Yields MonadReader.read fun _ => True := by
  intro ctx n b n' built pos
  obtain ⟨rfl, rfl⟩ := Prod.mk.inj (Except.ok.inj built)
  exact ⟨Nat.le_refl n, trivial⟩

theorem register : Build.Yields newRegister (0 < ·) := by
  intro ctx n b n' built pos
  obtain ⟨rfl, rfl⟩ := Prod.mk.inj (Except.ok.inj built)
  exact ⟨Nat.le_succ n, pos⟩

end Build.Yields

section
variable {Q : Instruction → Prop}

/-- All instructions are of a kind. -/
def All (Q : Instruction → Prop) (code : Array Instruction) : Prop := ∀ i ∈ code, Q i

@[simp] theorem all_append {code code' : Array Instruction} :
    All Q (code ++ code') ↔ All Q code ∧ All Q code' := by
  simp [All, or_imp, forall_and]

@[simp] theorem all_push {code : Array Instruction} {i : Instruction} :
    All Q (code.push i) ↔ All Q code ∧ Q i := by
  simp [All, or_imp, forall_and, and_comm]

@[simp] theorem all_singleton {i : Instruction} : All Q #[i] ↔ Q i := by
  simp [All]

@[simp] theorem all_pair {i j : Instruction} : All Q #[i, j] ↔ Q i ∧ Q j := by
  simp [All]

@[simp] theorem all_empty : All Q #[] := by
  simp [All]

end

/-- The code that is built consists of instructions of a kind. -/
abbrev Makes (Q : Instruction → Prop) (m : Build (Array Instruction)) : Prop := m.Yields (All Q)

namespace Makes

variable {P : Node → Prop} {Q : Instruction → Prop} {build build' : Nat → Build (Array Instruction)}
  (base : Nat)

theorem lookaround (kind : Look) (size : Nat) (guard : Guard P Q) (around : Around Q)
    (h : ∀ base, Makes Q (build base)) : Makes Q (Machine.lookaround kind size base build) := by
  have split (first second : Nat) : Q (.split first second) := guard.common trivial
  obtain ⟨behind, negated⟩ := kind
  cases negated with
  | true =>
    refine (h _).bind fun code makes => .pure ?_
    cases behind <;> simp [split, around.back, around.refute, makes]
  | false =>
    refine Build.Yields.register.bind fun r pos => (h _).bind fun code makes => .pure ?_
    cases behind <;> simp [around.mark pos, around.restore pos, around.back, makes]

theorem lookAt (kind : Look) (body : Node) (guard : Guard P Q) (around : Around Q)
    (h : ∀ base, Makes Q (build base)) : Makes Q (Machine.lookAt kind body base build) := by
  rw [Machine.lookAt]
  split
  · exact .throw _
  · exact Makes.lookaround base kind body.minSize guard around h

theorem counted (least : Nat) (most : Option Nat) (greedy : Bool) (guard : Guard P Q)
    (h : ∀ base, Makes Q (build base)) :
    Makes Q (repetition.counted least most greedy base build) := by
  refine Build.Yields.register.bind fun r pos => (h _).bind fun code makes => .pure ?_
  have zero : Q (.zero r) := guard.common pos
  have turn (exit : Nat) : Q (.turn least most greedy exit r) := guard.common pos
  have jump (target : Nat) : Q (.jump target) := guard.common trivial
  simp [zero, turn, jump, makes]

theorem repetition (least : Nat) (most : Option Nat) (greedy nullable : Bool) (guard : Guard P Q)
    (h : ∀ base, Makes Q (build base)) :
    Makes Q (Machine.repetition least most greedy nullable base build) := by
  have jump (target : Nat) : Q (.jump target) := guard.common trivial
  have choose (inner outer : Nat) :
      Q (if greedy then .split inner outer else .split outer inner) := by
    split <;> exact guard.common trivial
  have counted := counted base least most greedy guard h
  cases most with
  | none =>
    cases nullable with
    | true =>
      rw [repetition_moving]
      refine Build.Yields.register.bind fun r pos => Build.Yields.register.bind fun r' pos' =>
        (h _).bind fun code makes => .pure ?_
      have zero : Q (.zero r) := guard.common pos
      have moving (exit : Nat) : Q (.moving least greedy exit r r') := guard.common ⟨pos, pos'⟩
      simp [zero, moving, jump, makes]
    | false =>
      rcases least with _ | _ | n
      · refine (h _).bind fun code makes => .pure ?_
        simp [choose, makes, jump]
      · exact (h _).bind fun code makes => .pure (by simp [choose, makes])
      · rw [repetition_endless]
        exact counted
  | some m =>
    by_cases once : least = 0 ∧ m = 1
    · obtain ⟨rfl, rfl⟩ := once
      exact (h _).bind fun code makes => .pure (by simp [choose, makes])
    · rw [repetition_bounded greedy nullable base build once]
      exact counted

theorem ways (guard : Guard P Q) (h : ∀ base, Makes Q (build base))
    (h' : ∀ base, Makes Q (build' base)) :
    Makes Q (Machine.ways base build build') := by
  have split (first second : Nat) : Q (.split first second) := guard.common trivial
  have jump (target : Nat) : Q (.jump target) := guard.common trivial
  refine (h _).bind fun code makes => (h' _).bind fun code' makes' => .pure ?_
  simp [split, jump, makes, makes']

theorem delegate {node : Node} (guard : Guard P Q) (holds : P node) :
    Makes Q (Machine.delegate node) := by
  cases node with
  | empty => exact .pure all_empty
  | lit | set | any => exact .pure (all_singleton.mpr (guard.common trivial))
  | _ =>
    refine Build.Yields.read.bind fun ctx _ => ?_
    split
    · exact .pure (all_singleton.mpr (guard.run holds))
    · exact .throw _

theorem delegateAll {parts : List Node} (guard : Guard P Q) (holds : ∀ part ∈ parts, P part) :
    Makes Q (Machine.delegateAll parts) := by
  cases parts with
  | nil => exact .pure all_empty
  | cons => exact Makes.delegate guard (guard.row holds)

theorem unlessPlain {tried : Bool} {node : Node} {code : Build (Array Instruction)}
    (guard : Guard P Q) (holds : P node) (h : Makes Q code) :
    Makes Q (Machine.unlessPlain tried node code) := by
  refine Build.Yields.read.bind fun ctx _ => ?_
  split
  · exact Makes.delegate guard holds
  · exact h

end Makes

theorem cut_first_subset (referred : List Nat) (tried : Bool) (parts : List Node) :
    (cut referred tried parts).first ⊆ parts :=
  (List.takeWhile_prefix _).subset

theorem cut_last_subset (referred : List Nat) (tried : Bool) (parts : List Node) :
    (cut referred tried parts).last ⊆ parts := by
  intro part mem
  have rest := (List.takeWhile_prefix _).subset (List.mem_reverse.mp mem)
  exact List.mem_of_mem_drop (List.mem_reverse.mp rest)

section
variable {P : Node → Prop} {Q : Instruction → Prop}

mutual

/-- **The code of nodes of a kind consists of instructions of a kind.** -/
theorem code_guarded (guard : Guard P Q) (tried : Bool) :
    ∀ node : Node, P node → ∀ base, Makes Q (code tried node base)
  | .empty => fun holds _ => by
    rw [code] <;> first | exact Makes.delegate guard holds | exact nofun
  | .lit _ => fun holds _ => by
    rw [code] <;> first | exact Makes.delegate guard holds | exact nofun
  | .set _ => fun holds _ => by
    rw [code] <;> first | exact Makes.delegate guard holds | exact nofun
  | .any _ => fun holds _ => by
    rw [code] <;> first | exact Makes.delegate guard holds | exact nofun
  | .assertion _ => fun _ _ => by
    rw [code]
    exact .pure (all_singleton.mpr (guard.common trivial))
  | .seq parts => fun holds base => by
    rw [code]
    have each := guard.seq holds
    refine Makes.unlessPlain guard holds (Build.Yields.read.bind fun ctx _ => ?_)
    have first := cut_first_subset ctx.referred tried parts
    have last := cut_last_subset ctx.referred tried parts
    refine (Makes.delegateAll guard fun part mem => each part (first mem)).bind fun code₁ makes₁ =>
      ?_
    refine (middleCode_guarded guard _ _ parts each _).bind fun code₂ makes₂ => ?_
    refine (Makes.delegateAll guard fun part mem => each part (last mem)).bind fun code₃ makes₃ =>
      .pure ?_
    simp [makes₁, makes₂, makes₃]
  | .alt choices => fun holds base => by
    rw [code]
    exact Makes.unlessPlain guard holds (choiceCode_guarded guard tried choices (guard.alt holds)
      base)
  | .group index body => fun holds base => by
    rw [code]
    obtain ⟨inner, start, stop⟩ := guard.group holds
    refine Makes.unlessPlain guard holds
      ((code_guarded guard tried body inner _).bind fun code makes => .pure ?_)
    simp [start, stop, makes]
  | .look kind body => fun holds base => by
    obtain ⟨inner, around⟩ := guard.look holds
    have whole :=
      Makes.lookaround base kind body.minSize guard around (code_guarded guard false body inner)
    by_cases several : ∃ choices, body = .alt choices
    · obtain ⟨choices, rfl⟩ := several
      rw [code]
      split
      · split
        · exact lookNone_guarded guard around choices (guard.alt inner) base
        · exact lookAny_guarded guard around choices (guard.alt inner) base
      · exact whole
    · rw [code]
      · split
        · exact .throw _
        · exact whole
      · exact fun choices same => several ⟨choices, same⟩
  | .rep least most greedy body => fun holds base => by
    rw [code]
    refine Makes.unlessPlain guard holds (Build.Yields.read.bind fun ctx _ => ?_)
    exact Makes.repetition base least most greedy _ guard
      (code_guarded guard _ body (guard.rep holds))
  | .atomic body => fun holds base => by
    rw [code]
    have enter : Q .enterAtomic := guard.common trivial
    have leave : Q .leaveAtomic := guard.common trivial
    refine (code_guarded guard false body (guard.atomic holds) _).bind fun code makes => .pure ?_
    simp [enter, leave, makes]
  | .backref _ => fun _ _ => by
    rw [code]
    exact .pure (all_singleton.mpr (guard.common trivial))
  | .isSet _ => fun _ _ => by
    rw [code]
    exact .pure (all_singleton.mpr (guard.common trivial))
  | .cond test thenBody elseBody => fun holds base => by
    rw [code]
    obtain ⟨asked, met, missed⟩ := guard.cond holds
    have enter : Q .enterAtomic := guard.common trivial
    have leave : Q .leaveAtomic := guard.common trivial
    have split (first second : Nat) : Q (.split first second) := guard.common trivial
    have jump (target : Nat) : Q (.jump target) := guard.common trivial
    refine (code_guarded guard tried test asked _).bind fun code₁ makes₁ => ?_
    refine (code_guarded guard tried thenBody met _).bind fun code₂ makes₂ => ?_
    refine (code_guarded guard tried elseBody missed _).bind fun code₃ makes₃ => .pure ?_
    simp [enter, leave, split, jump, makes₁, makes₂, makes₃]
  | .keepOut => fun holds _ => by
    rw [code]
    exact .pure (all_singleton.mpr (guard.keepOut holds))
  | .searchStart => fun holds _ => by
    rw [code]
    exact .pure (all_singleton.mpr (guard.searchStart holds))

theorem middleCode_guarded (guard : Guard P Q) :
    ∀ (skipped count : Nat) (parts : List Node), (∀ part ∈ parts, P part) →
    ∀ base, Makes Q (middleCode skipped count parts base)
  | _, _, [] => fun _ _ => by
    rw [middleCode]
    exact .pure all_empty
  | skipped + 1, count, part :: parts => fun holds base => by
    rw [middleCode]
    exact middleCode_guarded guard skipped count parts (List.forall_mem_cons.mp holds).2 base
  | 0, 0, _ :: _ => fun _ _ => by
    rw [middleCode]
    exact .pure all_empty
  | 0, count + 1, part :: parts => fun holds base => by
    rw [middleCode]
    obtain ⟨first, rest⟩ := List.forall_mem_cons.mp holds
    refine (code_guarded guard true part first base).bind fun code makes =>
      (middleCode_guarded guard 0 count parts rest _).bind fun code' makes' => .pure ?_
    simp [makes, makes']

theorem choiceCode_guarded (guard : Guard P Q) (tried : Bool) :
    ∀ choices : List Node, (∀ choice ∈ choices, P choice) →
      ∀ base, Makes Q (choiceCode tried choices base)
  | [] => fun _ _ => by
    rw [choiceCode]
    exact .pure all_empty
  | [only] => fun holds base => by
    rw [choiceCode]
    exact code_guarded guard tried only (List.forall_mem_cons.mp holds).1 base
  | first :: second :: rest => fun holds base => by
    rw [choiceCode]
    · obtain ⟨here, others⟩ := List.forall_mem_cons.mp holds
      exact Makes.ways base guard (code_guarded guard tried first here)
        (choiceCode_guarded guard tried (second :: rest) others)
    · exact nofun

theorem lookAny_guarded (guard : Guard P Q) (around : Around Q) : ∀ choices : List Node,
    (∀ choice ∈ choices, P choice) → ∀ base, Makes Q (lookAny choices base)
  | [] => fun _ _ => by
    rw [lookAny]
    exact .pure all_empty
  | [only] => fun holds base => by
    rw [lookAny]
    exact Makes.lookAt base _ only guard around (code_guarded guard
      false only (List.forall_mem_cons.mp holds).1)
  | first :: second :: rest => fun holds base => by
    rw [lookAny]
    · obtain ⟨here, others⟩ := List.forall_mem_cons.mp holds
      exact Makes.ways base guard
        (fun base => Makes.lookAt base _ first guard around (code_guarded guard false first here))
        (lookAny_guarded guard around (second :: rest) others)
    · exact nofun

theorem lookNone_guarded (guard : Guard P Q) (around : Around Q) : ∀ choices : List Node,
    (∀ choice ∈ choices, P choice) → ∀ base, Makes Q (lookNone choices base)
  | [] => fun _ _ => by
    rw [lookNone]
    exact .pure all_empty
  | first :: rest => fun holds base => by
    rw [lookNone]
    obtain ⟨here, others⟩ := List.forall_mem_cons.mp holds
    refine (Makes.lookAt base _ first guard around
      (code_guarded guard false first here)).bind fun code makes =>
      (lookNone_guarded guard around rest others _).bind fun code' makes' => .pure ?_
    simp [makes, makes']

end

end

end Machine

end Conlang.Pattern
