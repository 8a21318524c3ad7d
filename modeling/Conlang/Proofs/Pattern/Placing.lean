import Conlang.Pattern.Machine

/-! Where the code of a pattern stands.

The code of a node stands anywhere: only its targets move along, and they stay in the code or lead
right behind it (`Machine.code_placed`). Wherever the node is built, it hands out the same registers
and fails alike. -/
namespace Conlang.Pattern

namespace Instruction

/-- The instruction with its targets `k` further on. -/
def shift (k : Nat) : Instruction → Instruction
  | .split first second => .split (first + k) (second + k)
  | .jump target => .jump (target + k)
  | .turn least most greedy exit count => .turn least most greedy (exit + k) count
  | .moving least greedy exit count last => .moving least greedy (exit + k) count last
  | .refute target => .refute (target + k)
  | i => i

/-- The instruction has no target beyond `m`, and does not accept. -/
def Stays (m : Nat) : Instruction → Prop
  | .split first second => first ≤ m ∧ second ≤ m
  | .jump target | .refute target => target ≤ m
  | .turn _ _ _ exit _ | .moving _ _ exit _ _ => exit ≤ m
  | .accept => False
  | _ => True

@[simp] theorem shift_shift (j k : Nat) (i : Instruction) :
    (i.shift j).shift k = i.shift (j + k) := by
  cases i <;> simp [shift, Nat.add_assoc]

@[simp] theorem shift_zero (i : Instruction) : i.shift 0 = i := by
  cases i <;> rfl

theorem Stays.mono {m n : Nat} {i : Instruction} (h : i.Stays m) (le : m ≤ n) : i.Stays n := by
  cases i <;> simp only [Stays] at h ⊢ <;> omega

theorem Stays.shift {m : Nat} (k : Nat) {i : Instruction} (h : i.Stays m) :
    (i.shift k).Stays (m + k) := by
  cases i <;> simp only [Stays, Instruction.shift] at h ⊢ <;> omega

end Instruction

/-- Code with its targets `k` further on. -/
def shifted (k : Nat) (code : Array Instruction) : Array Instruction := code.map (.shift k)

@[simp] theorem shifted_size (k : Nat) (code : Array Instruction) :
    (shifted k code).size = code.size :=
  Array.size_map

@[simp] theorem shifted_singleton (k : Nat) (i : Instruction) : shifted k #[i] = #[i.shift k] := by
  simp [shifted]

@[simp] theorem shifted_append (k : Nat) (code code' : Array Instruction) :
    shifted k (code ++ code') = shifted k code ++ shifted k code' := Array.map_append

@[simp] theorem shifted_shifted (j k : Nat) (code : Array Instruction) :
    shifted k (shifted j code) = shifted (j + k) code := by
  simp [shifted, Function.comp_def]

@[simp] theorem shifted_zero (code : Array Instruction) : shifted 0 code = code := by
  rw [shifted, show Instruction.shift 0 = id from funext Instruction.shift_zero, Array.map_id]

/-- No target of the code lies beyond `m`, and it does not accept. -/
def StaysIn (m : Nat) (code : Array Instruction) : Prop := ∀ i ∈ code, i.Stays m

namespace StaysIn

variable {m n : Nat} {code code' : Array Instruction}

theorem mono (h : StaysIn m code) (le : m ≤ n) : StaysIn n code := fun i mem => (h i mem).mono le

theorem shift (k : Nat) (h : StaysIn m code) : StaysIn (m + k) (shifted k code) := by
  intro i mem
  obtain ⟨j, within, rfl⟩ := Array.mem_map.mp mem
  exact (h j within).shift k

theorem append (h : StaysIn m code) (h' : StaysIn m code') :
    StaysIn m (code ++ code') := fun i mem =>
  (Array.mem_append.mp mem).elim (h i) (h' i)

end StaysIn

namespace Machine

/-! ### Building -/

section
variable {α β : Type} {m : Build α} {f : α → Build β} {ctx : Context} {n n' : Nat} {a : α}
  {e : Fault}

theorem Build.bind_ok (h : m ctx n = .ok (a, n')) : (m >>= f) ctx n = f a ctx n' := by
  show (m ctx n >>= fun x => f x.1 ctx x.2) = _
  rw [h]
  rfl

theorem Build.bind_eq_ok {b : β} (h : (m >>= f) ctx n = .ok (b, n')) :
    ∃ a n₁, m ctx n = .ok (a, n₁) ∧ f a ctx n₁ = .ok (b, n') := by
  cases first : m ctx n with
  | ok x => exact ⟨x.1, x.2, rfl, (Build.bind_ok first).symm.trans h⟩
  | error e =>
    have failed : (m >>= f) ctx n = .error e := by
      show (m ctx n >>= fun x => f x.1 ctx x.2) = _
      rw [first]
      rfl
    cases failed.symm.trans h

theorem Build.bind_error (h : m ctx n = .error e) : (m >>= f) ctx n = .error e := by
  show (m ctx n >>= fun x => f x.1 ctx x.2) = _
  rw [h]
  rfl

end

section
variable (greedy nullable : Bool) (base : Nat) (body : Nat → Build (Array Instruction))

theorem repetition_moving (least : Nat) :
    repetition least none greedy true base body = (do
      let count ← newRegister
      let last ← newRegister
      let code ← body (base + 2)
      let exit := base + 2 + code.size + 1
      pure (#[.zero count, .moving least greedy exit count last] ++ code ++
        #[.jump (base + 1)])) := by
  rw [repetition]
  rfl

theorem repetition_endless (n : Nat) :
    repetition (n + 2) none greedy false base body =
      repetition.counted (n + 2) none greedy base body := by
  rw [repetition]
  simp

theorem repetition_bounded {least m : Nat} (other : ¬(least = 0 ∧ m = 1)) :
    repetition least (some m) greedy nullable base body =
      repetition.counted least (some m) greedy base body := by
  rw [repetition]
  · nofun
  · exact fun zero one => other ⟨zero, Option.some.inj one⟩

end

/-- Code that can be built at any place. -/
def Placed (build : Nat → Build (Array Instruction)) : Prop := ∀ ctx n,
  (∃ e, ∀ base, build base ctx n = .error e) ∨
    ∃ code n', StaysIn code.size code ∧ ∀ base, build base ctx n = .ok (shifted base code, n')

namespace Placed

variable {build build' : Nat → Build (Array Instruction)}

theorem congr (h : Placed build) (same : ∀ base, build' base = build base) : Placed build' := by
  rw [show build' = build from funext same]
  exact h

theorem throw (e : Fault) : Placed fun _ => MonadExcept.throw e := fun _ _ => .inl ⟨e, fun _ => rfl⟩

theorem empty : Placed fun _ => Pure.pure #[] := fun _ n =>
  .inr ⟨#[], n, nofun, fun _ => by simp [shifted]; rfl⟩

/-- An instruction without a target. -/
theorem single (i : Instruction) (stays : i.Stays 0) (fixed : ∀ k, i.shift k = i) :
    Placed fun _ => Pure.pure #[i] := by
  refine fun _ n =>
    .inr ⟨#[i], n, fun j mem => ?_, fun base => by rw [shifted_singleton, fixed]; rfl⟩
  rw [Array.mem_singleton.mp mem]
  exact stays.mono (Nat.zero_le _)

theorem read {f : Context → Nat → Build (Array Instruction)} (h : ∀ ctx, Placed (f ctx)) :
    Placed fun base => (MonadReader.read >>= fun ctx => f ctx base) := fun ctx n => h ctx ctx n

theorem register {f : Nat → Nat → Build (Array Instruction)} (h : ∀ r, Placed (f r)) :
    Placed fun base => (newRegister >>= fun r => f r base) := fun ctx n => h n ctx (n + 1)

/-- Code around code: what stands before it and behind it may depend on its size. -/
theorem wrap (before after : Nat → Array Instruction) (d : Nat) (size : ∀ k, (before k).size = d)
    (stays : ∀ k, StaysIn (d + k + (after k).size) (before k) ∧
      StaysIn (d + k + (after k).size) (after k))
    (h : Placed build) : Placed fun base => (do
      let code ← build (base + d)
      Pure.pure (shifted base (before code.size) ++ code ++ shifted base (after code.size))) := by
  intro ctx n
  rcases h ctx n with ⟨e, fails⟩ | ⟨code, n', inside, builds⟩
  · exact .inl ⟨e, fun base => Build.bind_error (fails _)⟩
  · refine .inr ⟨before code.size ++ shifted d code ++ after code.size, n', ?_, fun base => ?_⟩
    · have total : (before code.size ++ shifted d code ++ after code.size).size =
          d + code.size + (after code.size).size := by
            simp only [Array.size_append, shifted_size, size]
      rw [total]
      refine .append (.append (stays _).1 ?_) (stays _).2
      exact (inside.shift d).mono (by omega)
    · refine (Build.bind_ok (builds _)).trans ?_
      simp only [shifted_size, shifted_append, shifted_shifted, Nat.add_comm d base]
      rfl

/-- One code behind another. -/
theorem append (h : Placed build) (h' : Placed build') : Placed fun base => (do
    let code ← build base
    let code' ← build' (base + code.size)
    Pure.pure (code ++ code')) := by
  intro ctx n
  rcases h ctx n with ⟨e, fails⟩ | ⟨code, n', inside, builds⟩
  · exact .inl ⟨e, fun base => Build.bind_error (fails _)⟩
  rcases h' ctx n' with ⟨e, fails⟩ | ⟨code', n'', inside', builds'⟩
  · exact .inl ⟨e, fun base => (Build.bind_ok (builds _)).trans (Build.bind_error (fails _))⟩
  refine .inr ⟨code ++ shifted code.size code', n'', ?_, fun base => ?_⟩
  · rw [Array.size_append, shifted_size]
    refine .append (inside.mono (Nat.le_add_right _ _)) ?_
    exact (inside'.shift code.size).mono (by omega)
  · refine (Build.bind_ok (builds _)).trans ((Build.bind_ok (builds' _)).trans ?_)
    simp only [shifted_size, shifted_append, shifted_shifted, Nat.add_comm base code.size]
    rfl

theorem lookaround (kind : Look) (size : Nat) (h : Placed build) :
    Placed fun base => Machine.lookaround kind size base build := by
  obtain ⟨behind, negated⟩ := kind
  cases negated with
  | true =>
    cases behind with
    | true =>
      refine (h.wrap (fun k => #[.split 1 (k + 3), .back size]) (fun k => #[.refute (k + 3)]) 2
        (fun _ => rfl)
        (fun k => ?_)).congr fun base => bind_congr fun code => ?_
      · simp [StaysIn, Instruction.Stays]
        omega
      · simp +arith [shifted, Instruction.shift]
    | false =>
      refine (h.wrap (fun k => #[.split 1 (k + 2)]) (fun k => #[.refute (k + 2)]) 1 (fun _ => rfl)
        (fun k => ?_)).congr fun base => bind_congr fun code => ?_
      · simp +arith [StaysIn, Instruction.Stays]
      · simp +arith [shifted, Instruction.shift]
  | false =>
    refine register fun r => ?_
    cases behind with
    | true =>
      refine (h.wrap (fun _ => #[.mark r, .back size]) (fun _ => #[.restore r]) 2 (fun _ => rfl)
        (fun k => ?_)).congr fun base => bind_congr fun code => ?_
      · simp [StaysIn, Instruction.Stays]
      · simp [shifted, Instruction.shift]
    | false =>
      refine (h.wrap (fun _ => #[.mark r]) (fun _ => #[.restore r]) 1 (fun _ => rfl)
        (fun k => ?_)).congr fun base => bind_congr fun code => ?_
      · simp [StaysIn, Instruction.Stays]
      · simp [shifted, Instruction.shift]

theorem lookAt (kind : Look) (body : Node) (h : Placed build) :
    Placed fun base => Machine.lookAt kind body base build := by
  unfold Machine.lookAt
  split
  · exact .throw _
  · exact h.lookaround kind _

theorem counted (least : Nat) (most : Option Nat) (greedy : Bool) (h : Placed build) :
    Placed fun base => Machine.repetition.counted least most greedy base build := by
  refine register fun count => ?_
  refine (h.wrap (fun k => #[.zero count, .turn least most greedy (k + 3) count]) (fun _ =>
    #[.jump 1]) 2 (fun _ => rfl)
    (fun k => ?_)).congr fun base => bind_congr fun code => ?_
  · simp [StaysIn, Instruction.Stays]
    omega
  · simp [shifted, Instruction.shift]
    grind

/-- The choice at the head of a repetition, which the greedy begin with the body. -/
def choice (greedy : Bool) (inner outer : Nat) : Instruction :=
  if greedy then .split inner outer else .split outer inner

theorem choice_shift (greedy : Bool) (inner outer k : Nat) :
    (choice greedy inner outer).shift k = choice greedy (inner + k) (outer + k) := by
  cases greedy <;> rfl

theorem choice_stays (greedy : Bool) {inner outer m : Nat} (h : inner ≤ m) (h' : outer ≤ m) :
    (choice greedy inner outer).Stays m := by
  cases greedy
  · exact ⟨h', h⟩
  · exact ⟨h, h'⟩

theorem optional (greedy nullable : Bool) (h : Placed build) :
    Placed fun base => Machine.repetition 0 (some 1) greedy nullable base build := by
  refine (h.wrap (fun k => #[choice greedy 1 (k + 1)]) (fun _ => #[]) 1 (fun _ => rfl)
    (fun k => ?_)).congr fun base => bind_congr fun code => ?_
  · simp [StaysIn]
    exact choice_stays greedy (by omega) (by omega)
  · simp [shifted, choice_shift]
    grind [choice]

theorem star (greedy : Bool) (h : Placed build) :
    Placed fun base => Machine.repetition 0 none greedy false base build := by
  refine (h.wrap (fun k => #[choice greedy 1 (k + 2)]) (fun _ => #[.jump 0]) 1 (fun _ => rfl)
    (fun k => ?_)).congr fun base => bind_congr fun code => ?_
  · simp [StaysIn, Instruction.Stays]
    exact choice_stays greedy (by omega) (by omega)
  · simp [shifted, Instruction.shift]
    grind [choice, choice_shift]

theorem plus (greedy : Bool) (h : Placed build) :
    Placed fun base => Machine.repetition 1 none greedy false base build := by
  refine (h.wrap (fun _ => #[]) (fun k => #[choice greedy 0 (k + 1)]) 0 (fun _ => rfl)
    (fun k => ?_)).congr fun base => bind_congr fun code => ?_
  · simp [StaysIn]
    exact choice_stays greedy (by omega) (by omega)
  · simp [shifted, choice_shift]
    grind [choice]

theorem moving (least : Nat) (greedy : Bool) (h : Placed build) :
    Placed fun base => Machine.repetition least none greedy true base build := by
  have moves : Placed fun base => (do
      let count ← newRegister
      let last ← newRegister
      let code ← build (base + 2)
      let exit := base + 2 + code.size + 1
      Pure.pure (#[.zero count, .moving least greedy exit count last] ++ code ++
        #[.jump (base + 1)])) := by
    refine register fun count => register fun last => ?_
    refine (h.wrap (fun k => #[.zero count, .moving least greedy (k + 3) count last]) (fun _ =>
      #[.jump 1]) 2
      (fun _ => rfl) (fun k => ?_)).congr fun base => bind_congr fun code => ?_
    · simp [StaysIn, Instruction.Stays]
      omega
    · simp [shifted, Instruction.shift]
      grind
  exact moves.congr fun base => repetition_moving greedy base build least

theorem repetition (least : Nat) (most : Option Nat) (greedy nullable : Bool) (h : Placed build) :
    Placed fun base => Machine.repetition least most greedy nullable base build := by
  have counted := h.counted least most greedy
  cases most with
  | none =>
    cases nullable with
    | true => exact h.moving least greedy
    | false =>
      rcases least with _ | _ | n
      · exact h.star greedy
      · exact h.plus greedy
      · exact counted.congr fun base => repetition_endless greedy base build n
  | some m =>
    by_cases once : least = 0 ∧ m = 1
    · obtain ⟨rfl, rfl⟩ := once
      exact h.optional greedy nullable
    · exact counted.congr fun base => repetition_bounded greedy nullable base build once

theorem ways (h : Placed build) (h' : Placed build') :
    Placed fun base => Machine.ways base build build' := by
  intro ctx n
  rcases h ctx n with ⟨e, fails⟩ | ⟨code, n', inside, builds⟩
  · exact .inl ⟨e, fun base => Build.bind_error (fails _)⟩
  rcases h' ctx n' with ⟨e, fails⟩ | ⟨code', n'', inside', builds'⟩
  · exact .inl ⟨e, fun base => (Build.bind_ok (builds _)).trans (Build.bind_error (fails _))⟩
  refine .inr ⟨#[Instruction.split 1 (code.size + 2)] ++ shifted 1 code ++
    #[Instruction.jump (code.size + 2 + code'.size)] ++ shifted (code.size + 2) code', n'',
    ?_, fun base => ?_⟩
  · have total : (#[Instruction.split 1 (code.size + 2)] ++ shifted 1 code ++
        #[Instruction.jump (code.size + 2 + code'.size)] ++ shifted (code.size + 2) code').size =
        code.size + 2 + code'.size := by
      simp
      omega
    rw [total]
    refine .append (.append (.append ?_ ((inside.shift 1).mono (by omega))) ?_)
      ((inside'.shift (code.size + 2)).mono (by omega))
    · simp [StaysIn, Instruction.Stays]
      omega
    · simp [StaysIn, Instruction.Stays]
  · refine (Build.bind_ok (builds _)).trans ((Build.bind_ok (builds' _)).trans ?_)
    have second : 1 + base + code.size + 1 = code.size + 2 + base := by omega
    have behind : code.size + 2 + base + code'.size = code.size + 2 + code'.size + base := by omega
    simp only [shifted_size, shifted_append, shifted_shifted, shifted_singleton, Instruction.shift,
      second, behind, Nat.add_comm base 1]
    rfl

theorem delegate (node : Node) : Placed fun _ => Machine.delegate node := by
  cases node with
  | empty => exact .empty
  | lit | set | any => exact .single _ trivial fun _ => rfl
  | _ =>
    refine read (f := fun ctx _ => _) fun ctx => ?_
    split
    · exact .single _ trivial fun _ => rfl
    · exact .throw _

theorem unlessPlain (tried : Bool) (node : Node) (h : Placed build) :
    Placed fun base => Machine.unlessPlain tried node (build base) := by
  refine read (f := fun ctx base => _) fun ctx => ?_
  split
  · exact .delegate node
  · exact h

theorem delegateAll (parts : List Node) : Placed fun _ => Machine.delegateAll parts := by
  cases parts with
  | nil => exact .empty
  | cons => exact .delegate _

theorem cond {test thenBody elseBody : Nat → Build (Array Instruction)} (h : Placed test)
    (h₁ : Placed thenBody) (h₂ : Placed elseBody) : Placed fun base => (do
      let testCode ← test (base + 2)
      let thenBase := base + 2 + testCode.size + 1
      let thenCode ← thenBody thenBase
      let elseBase := thenBase + thenCode.size + 1
      let elseCode ← elseBody elseBase
      Pure.pure (#[.enterAtomic, .split (base + 2) elseBase] ++ testCode ++ #[.leaveAtomic]
        ++ thenCode ++ #[.jump (elseBase + elseCode.size)] ++ elseCode)) := by
  intro ctx n
  rcases h ctx n with ⟨e, fails⟩ | ⟨code, n₁, inside, builds⟩
  · exact .inl ⟨e, fun base => Build.bind_error (fails _)⟩
  rcases h₁ ctx n₁ with ⟨e, fails⟩ | ⟨code₁, n₂, inside₁, builds₁⟩
  · exact .inl ⟨e, fun base => (Build.bind_ok (builds _)).trans (Build.bind_error (fails _))⟩
  rcases h₂ ctx n₂ with ⟨e, fails⟩ | ⟨code₂, n₃, inside₂, builds₂⟩
  · exact .inl ⟨e, fun base => (Build.bind_ok (builds _)).trans ((Build.bind_ok (builds₁ _)).trans
      (Build.bind_error (fails _)))⟩
  let second := code.size + code₁.size + 4
  refine .inr ⟨#[.enterAtomic, .split 2 second] ++ shifted 2 code ++ #[.leaveAtomic] ++
    shifted (code.size + 3) code₁ ++
    #[.jump (second + code₂.size)] ++ shifted second code₂, n₃, ?_, fun base => ?_⟩
  · have total :
        (#[Instruction.enterAtomic, .split 2 second] ++ shifted 2 code ++
        #[Instruction.leaveAtomic] ++
          shifted (code.size + 3) code₁ ++ #[Instruction.jump (second + code₂.size)] ++
          shifted second code₂).size =
          second + code₂.size := by
      simp
      omega
    rw [total]
    refine .append (.append (.append (.append (.append ?_ ((inside.shift 2).mono (by omega))) ?_)
      ((inside₁.shift (code.size + 3)).mono (by omega))) ?_)
      ((inside₂.shift second).mono (by omega))
    · simp [StaysIn, Instruction.Stays]
      omega
    · simp [StaysIn, Instruction.Stays]
    · simp [StaysIn, Instruction.Stays]
  · refine (Build.bind_ok (builds _)).trans ((Build.bind_ok (builds₁ _)).trans
      ((Build.bind_ok (builds₂ _)).trans ?_))
    have thenBase : base + 2 + code.size + 1 = code.size + 3 + base := by omega
    have elseBase : code.size + 3 + base + code₁.size + 1 = second + base := by omega
    have behind : second + base + code₂.size = second + code₂.size + base := by omega
    simp only [shifted_size, thenBase, elseBase, behind, shifted_append, shifted_singleton,
      shifted_shifted, Instruction.shift, Nat.add_comm 2 base]
    simp [shifted, Instruction.shift, Nat.add_comm 2 base]
    rfl

end Placed

mutual

/-- **The code of a node stands anywhere.** -/
theorem code_placed (tried : Bool) : ∀ node, Placed (code tried node)
  | .empty => (Placed.delegate .empty).congr fun _ => by rw [code] <;> exact nofun
  | .lit c => (Placed.delegate (.lit c)).congr fun _ => by rw [code] <;> exact nofun
  | .set chars => (Placed.delegate (.set chars)).congr fun _ => by rw [code] <;> exact nofun
  | .any newline => (Placed.delegate (.any newline)).congr fun _ => by rw [code] <;> exact nofun
  | .assertion kind =>
      (Placed.single (.place kind) trivial fun _ => rfl).congr fun _ => by rw [code]
  | .seq parts => by
    have row : Placed fun base => (do
        let c := cut (← MonadReader.read).referred tried parts
        let first ← delegateAll c.first
        let middle ← middleCode c.first.length c.middle parts (base + first.size)
        let last ← delegateAll c.last
        pure (first ++ middle ++ last)) := by
      refine .read (f := fun ctx base => _) fun ctx => ?_
      let c := cut ctx.referred tried parts
      refine (((Placed.delegateAll c.first).append
        (middleCode_placed c.first.length c.middle parts)).append
        (.delegateAll c.last)).congr fun base => ?_
      simp only [bind_assoc, pure_bind]
      rfl
    exact (row.unlessPlain tried (.seq parts)).congr fun _ => by rw [code]
  | .alt choices =>
    (choiceCode_placed tried choices).unlessPlain tried (.alt choices) |>.congr fun _ => by
      rw [code]
  | .group index body => by
    refine (Placed.unlessPlain tried (.group index body)
      ((code_placed tried body).wrap (fun _ => #[.mark (2 * index)])
      (fun _ => #[.mark (2 * index + 1)]) 1 (fun _ => rfl) fun k => ?_)).congr fun base => ?_
    · simp [StaysIn, Instruction.Stays]
    · rw [code]
      simp only [shifted_singleton, Instruction.shift]
  | .look kind body => by
    have around := (code_placed false body).lookaround kind body.minSize
    by_cases several : ∃ choices, body = .alt choices
    · obtain ⟨choices, rfl⟩ := several
      by_cases unbounded : (kind.behind && !(Node.alt choices).fixedSize) = true
      · by_cases negated : kind.negated = true
        · exact (lookNone_placed choices).congr fun _ => by
            rw [code, if_pos unbounded, if_pos negated]
        · exact (lookAny_placed choices).congr fun _ => by
            rw [code, if_pos unbounded, if_neg negated]
      · exact around.congr fun _ => by rw [code, if_neg unbounded]
    · have once : Placed fun base =>
          if kind.behind && !body.fixedSize then throw .unboundedLookbehind
            else lookaround kind body.minSize base (code false body) := by
        split
        · exact .throw .unboundedLookbehind
        · exact around
      refine once.congr fun _ => ?_
      rw [code]
      exact fun choices same => several ⟨choices, same⟩
  | .rep least most greedy body => by
    have turns : Placed fun base => (do
        let tried :=
          tried || !(least == 0 && most == some 1) && !body.plain (← MonadReader.read).referred
        repetition least most greedy (body.minSize == 0) base (code tried body)) := by
      refine .read (f := fun ctx base => _) fun ctx => ?_
      exact (code_placed _ body).repetition least most greedy (body.minSize == 0)
    exact (turns.unlessPlain tried (.rep least most greedy body)).congr fun _ => by rw [code]
  | .atomic body => by
    refine ((code_placed false body).wrap (fun _ => #[.enterAtomic]) (fun _ => #[.leaveAtomic]) 1
      (fun _ => rfl)
      fun k => ?_).congr fun base => ?_
    · simp [StaysIn, Instruction.Stays]
    · rw [code]
      simp only [shifted_singleton, Instruction.shift]
  | .backref index =>
    (Placed.single (.backref index) trivial fun _ => rfl).congr fun _ => by rw [code]
  | .isSet index => (Placed.single (.isSet index) trivial fun _ => rfl).congr fun _ => by rw [code]
  | .cond test thenBody elseBody =>
    ((code_placed tried test).cond (code_placed tried thenBody)
      (code_placed tried elseBody)).congr fun _ => by rw [code]
  | .keepOut => (Placed.single (.mark 0) trivial fun _ => rfl).congr fun _ => by rw [code]
  | .searchStart => (Placed.single .searchStart trivial fun _ => rfl).congr fun _ => by rw [code]

theorem middleCode_placed : ∀ skipped count parts, Placed (middleCode skipped count parts)
  | _, _, [] => Placed.empty.congr fun _ => by rw [middleCode]
  | skipped + 1, count, part :: parts =>
      (middleCode_placed skipped count parts).congr fun _ => by rw [middleCode]
  | 0, 0, _ :: _ => Placed.empty.congr fun _ => by rw [middleCode]
  | 0, count + 1, part :: parts =>
      ((code_placed true part).append (middleCode_placed 0 count parts)).congr fun _ => by
    rw [middleCode]

theorem choiceCode_placed (tried : Bool) : ∀ choices, Placed (choiceCode tried choices)
  | [] => Placed.empty.congr fun _ => by rw [choiceCode]
  | [only] => (code_placed tried only).congr fun _ => by rw [choiceCode]
  | first :: second :: rest =>
    ((code_placed tried first).ways (choiceCode_placed tried (second :: rest))).congr fun _ => by
      rw [choiceCode]
      exact nofun

theorem lookAny_placed : ∀ choices, Placed (lookAny choices)
  | [] => Placed.empty.congr fun _ => by rw [lookAny]
  | [only] => ((code_placed false only).lookAt ⟨true, false⟩ only).congr fun _ => by rw [lookAny]
  | first :: second :: rest =>
    (((code_placed false first).lookAt ⟨true, false⟩ first).ways
      (lookAny_placed (second :: rest))).congr fun _ => by
      rw [lookAny]
      exact nofun

theorem lookNone_placed : ∀ choices, Placed (lookNone choices)
  | [] => Placed.empty.congr fun _ => by rw [lookNone]
  | first :: rest =>
    (((code_placed false first).lookAt ⟨true, true⟩ first).append
      (lookNone_placed rest)).congr fun _ => by
      rw [lookNone]

end

end Machine

end Conlang.Pattern
