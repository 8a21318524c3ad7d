import Conlang.Proofs.Pattern.Exploring
import Conlang.Proofs.Pattern.Framing
import Conlang.Proofs.Pattern.Programs
import Conlang.Proofs.Pattern.Usable

/-! What the standard engine compiles.

It leaves a plain pattern to an automaton and tries any other step by step. The frame of a pattern
is read as the two ends of the text around the pattern, and it is left to the same machine: the code
in a frame is the code alone, between two tests for an end. So what compiles alone compiles in its
frame unless the frame is at fault (`Reader.frameFault?`) or there is no room for it
(`compile_framed`). -/
namespace Conlang.Pattern

open Reader (around frameFault?)

variable {node : Node} {source : Source} {limits : Limits} {sizeLimit : Nat}

/-! ### Compiled patterns -/

namespace Compiled

theorem ofSource_plain {c : Compiled} (plain : source.node.plain source.referred = true)
    (built : ofSource limits source = .ok c) :
    ∃ a, Automaton.build limits.size source.node = .ok a ∧ c.matcher = .plain a := by
  rw [ofSource, if_pos plain] at built
  obtain ⟨a, automaton, same⟩ := bind_eq_ok_iff.mp built
  obtain rfl := Except.ok.inj same
  exact ⟨a, automaton, rfl⟩

theorem ofSource_tried {c : Compiled} (hard : source.node.plain source.referred = false)
    (built : ofSource limits source = .ok c) :
    ∃ p, Machine.build limits.size source = .ok p ∧ c.matcher = .tried p := by
  rw [ofSource, if_neg (by simp [hard])] at built
  obtain ⟨p, program, same⟩ := bind_eq_ok_iff.mp built
  obtain rfl := Except.ok.inj same
  exact ⟨p, program, rfl⟩

end Compiled

/-! ### The frame -/

/-- What is read of the pattern in its frame. -/
def Source.inFrame (source : Source) : Source :=
  { source with node := .ofParts (around source.node) }

theorem ofParts_around (h : node ≠ .empty) :
    Node.ofParts (around node) = .seq [.assertion .textStart, node, .assertion .textEnd] := by
  cases node with
  | empty => exact absurd rfl h
  | _ => rfl

theorem plain_around (referred : List Nat) :
    (Node.ofParts (around node)).plain referred = node.plain referred := by
  by_cases empty : node = .empty
  · rw [empty]
    rfl
  · simp [ofParts_around empty, Node.plain, Node.allPlain, Assertion.plain]

namespace Automaton

theorem badRepeat?_around : badRepeat? (.ofParts (around node)) = badRepeat? node := by
  by_cases empty : node = .empty
  · rw [empty]
    rfl
  · have row : badRepeat? node = (none <|> badRepeat? node <|> none <|> none) := by
      cases badRepeat? node <;> rfl
    rw [ofParts_around empty, row]
    rfl

/-- In its frame the automaton of a node is built if there is room for it. -/
theorem build_around {a : Automaton} (built : build sizeLimit node = .ok a) :
    (∃ b, build sizeLimit (.ofParts (around node)) = .ok b) ∨
      build sizeLimit (.ofParts (around node)) = .error .tooLarge := by
  rw [build, badRepeat?_around, (build_ok built).1]
  by_cases small : sizeLimit < weight (.ofParts (around node))
  · exact .inr (if_pos small)
  · exact .inl ⟨_, if_neg small⟩

end Automaton

namespace Machine

theorem cut_around {referred : List Nat} (hard : node.plain referred = false) :
    cut referred true [.assertion .textStart, node, .assertion .textEnd] =
      ⟨[.assertion .textStart], 1, [.assertion .textEnd]⟩ := by
  simp [cut, Node.fixedSize, Node.plain, Assertion.plain, hard]

/-- An end of the text is left to an automaton, if there is room for one. -/
theorem delegate_assertion (kind : Assertion) (ctx : Context) (n : Nat) :
    delegate (.assertion kind) ctx n =
      if ctx.sizeLimit < 32 then .error .tooLarge
      else .ok (#[.run (.ofNode (.assertion kind)) []], n) := by
  have built : Automaton.build ctx.sizeLimit (.assertion kind) =
      if ctx.sizeLimit < 32 then .error .tooLarge else .ok (.ofNode (.assertion kind)) := by
    rw [Automaton.build, Automaton.badRepeat?, Automaton.weight] <;> simp
  refine (Build.bind_ok (show (read : Build Context) ctx n = .ok (ctx, n) from rfl)).trans ?_
  rw [built]
  split <;> rfl

/-- The code in a frame is the code alone, one instruction further on. -/
theorem code_around {ctx : Context} {n n' : Nat} {inner : Array Instruction}
    (hard : node.plain ctx.referred = false)
    (builds : ∀ base, code true node base ctx n = .ok (shifted base inner, n')) (base : Nat) :
    code true (.ofParts (around node)) base ctx n =
      if ctx.sizeLimit < 32 then .error .tooLarge
      else .ok (#[.run (.ofNode (.assertion .textStart)) []] ++ shifted (base + 1) inner ++
        #[.run (.ofNode (.assertion .textEnd)) []], n') := by
  have empty : node ≠ .empty := by
    rintro rfl
    cases hard
  rw [ofParts_around empty, code]
  show (do
      let c := cut ctx.referred true [.assertion .textStart, node, .assertion .textEnd]
      let first ← delegateAll c.first
      let middle ← middleCode c.first.length c.middle
        [.assertion .textStart, node, .assertion .textEnd] (base + first.size)
      let last ← delegateAll c.last
      pure (first ++ middle ++ last) : Build (Array Instruction)) ctx n = _
  rw [cut_around hard]
  have start := delegate_assertion .textStart ctx n
  have stop := delegate_assertion .textEnd ctx n'
  split
  · next small =>
    rw [if_pos small] at start
    exact Build.bind_error start
  · next room =>
    rw [if_neg room] at start stop
    have only : middleCode 1 1 [.assertion .textStart, node, .assertion .textEnd] (base + 1) ctx n =
        .ok (shifted (base + 1) inner, n') := by
      rw [middleCode, middleCode]
      refine (Build.bind_ok (builds _)).trans ?_
      rw [middleCode]
      exact congrArg (fun code => Except.ok (code, n')) Array.append_empty
    exact (Build.bind_ok start).trans ((Build.bind_ok only).trans (Build.bind_ok stop))

/-- In its frame a program is built if there is room for the ends of the text. -/
theorem build_inFrame {p : Program} (hard : source.node.plain source.referred = false)
    (built : build sizeLimit source = .ok p) :
    (∃ q, build sizeLimit source.inFrame = .ok q) ∨
      build sizeLimit source.inFrame = .error .tooLarge := by
  obtain ⟨inner, registers, -, -, builds⟩ := build_alone built
  have body := code_around hard builds 4
  have whole : build sizeLimit source.inFrame =
      (code true (.ofParts (around source.node)) 4 ⟨source.referred, sizeLimit⟩
          (2 * (source.groups + 1)) >>=
        fun made => .ok ⟨preamble ++ made.1 ++ #[.mark 1, .accept], made.2⟩) := rfl
  rw [whole, body]
  split
  · exact .inr rfl
  · exact .inl ⟨_, rfl⟩

end Machine

namespace Compiled

/-- What compiles alone compiles in its frame if there is room for it. -/
theorem ofSource_inFrame {c : Compiled} (built : ofSource limits source = .ok c) :
    (∃ d, ofSource limits source.inFrame = .ok d) ∨
      ofSource limits source.inFrame = .error .tooLarge := by
  have same : source.inFrame.node.plain source.inFrame.referred =
      source.node.plain source.referred := plain_around source.referred
  rw [ofSource, same]
  cases plain : source.node.plain source.referred with
  | true =>
    obtain ⟨a, automaton, -⟩ := ofSource_plain plain built
    rcases Automaton.build_around automaton with ⟨b, room⟩ | small
    · exact .inl ⟨_, congrArg (· >>= _) room⟩
    · exact .inr (congrArg (· >>= _) small)
  | false =>
    obtain ⟨p, program, -⟩ := ofSource_tried plain built
    rcases Machine.build_inFrame plain program with ⟨q, room⟩ | small
    · exact .inl ⟨_, congrArg (· >>= _) room⟩
    · exact .inr (congrArg (· >>= _) small)

/-- **What compiles alone compiles in its frame**, unless the frame is at fault or there is no room
for it. -/
theorem compile_framed {s : String} {c : Compiled} (alone : compile limits s = .ok c) :
    match frameFault? s with
    | some fault => compile limits (framed s) = .error fault
    | none => (∃ d, compile limits (framed s) = .ok d) ∨
        compile limits (framed s) = .error .tooLarge := by
  obtain ⟨source, read, built⟩ := bind_eq_ok_iff.mp alone
  rw [compile, Reader.read_framed_eq read]
  cases frameFault? s with
  | some fault => rfl
  | none => exact ofSource_inFrame built

end Compiled

/-- A pattern is compiled as it is read, and an anchored one in its frame. -/
theorem compile_ofSource {p : Pattern} {program : Compiled}
    (read : Reader.read p.source = .ok source)
    (compiled : p.compile (.standard limits) = .ok program) :
    ∃ whole, Compiled.ofSource limits whole = .ok program ∧
      (whole.node = source.node ∨ whole.node = .ofParts (around source.node)) := by
  obtain ⟨s, anchored⟩ := p
  obtain ⟨alone, text, rest⟩ := bind_eq_ok_iff.mp compiled
  cases anchored with
  | true =>
    obtain ⟨whole, readFramed, built⟩ := bind_eq_ok_iff.mp (mapError_eq_ok_iff.mp rest)
    exact ⟨whole, built, .inr (congrArg Source.node (Reader.read_framed read readFramed))⟩
  | false =>
    obtain rfl := Except.ok.inj rest
    obtain ⟨source', read', built⟩ := bind_eq_ok_iff.mp (mapError_eq_ok_iff.mp text)
    obtain rfl := Except.ok.inj (read.symm.trans read')
    exact ⟨source, built, .inl rfl⟩

end Conlang.Pattern
