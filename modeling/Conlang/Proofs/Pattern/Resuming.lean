import Conlang.Proofs.Pattern.Advancing

/-! Searches that go on behind a match.

A search for matches is told when it begins behind an empty match, and a search for groups is not.
Only `\G` ever asks, and only patterns in which it occurs have the instruction for it
(`Machine.code_unasking`). So the two searches list the same matches of a pattern without `\G`
(`found_eq_captured`). -/
namespace Conlang.Pattern

namespace Node

/-- A node has itself and what its parts have. -/
inductive Has : Node → Node → Prop where
  | self {node} : Has node node
  | seq {parts part node} : part ∈ parts → Has part node → Has (.seq parts) node
  | alt {choices choice node} : choice ∈ choices → Has choice node → Has (.alt choices) node
  | group {index body node} : Has body node → Has (.group index body) node
  | look {kind body node} : Has body node → Has (.look kind body) node
  | rep {least most greedy body node} : Has body node → Has (.rep least most greedy body) node
  | atomic {body node} : Has body node → Has (.atomic body) node
  | test {test thenBody elseBody node} : Has test node → Has (.cond test thenBody elseBody) node
  | met {test thenBody elseBody node} : Has thenBody node → Has (.cond test thenBody elseBody) node
  | missed {test thenBody elseBody node} : Has elseBody node →
    Has (.cond test thenBody elseBody) node

/-- `\G` does not occur. -/
def Unasking (node : Node) : Prop := ¬ node.Has .searchStart

theorem unasking_ofParts {parts : List Node} (each : ∀ part ∈ parts, part.Unasking) :
    (ofParts parts).Unasking := by
  match parts, each with
  | [], _ => exact fun has => nomatch has
  | [part], each => exact each part List.mem_cons_self
  | _ :: _ :: _, each =>
    intro has
    cases has with
    | seq mem has => exact each _ mem has

theorem unasking_around {node : Node} (h : node.Unasking) :
    (ofParts (Reader.around node)).Unasking := by
  have place (kind : Assertion) : (assertion kind).Unasking := fun has => nomatch has
  exact unasking_ofParts (Reader.forall_mem_around place h)

end Node

namespace Machine

theorem unasking_guard : Guard Node.Unasking (· ≠ .searchStart) where
  common common := by
    intro same
    subst same
    exact common
  run _ := nofun
  seq free := fun part mem has => free (.seq mem has)
  row := Node.unasking_ofParts
  alt free := fun choice mem has => free (.alt mem has)
  group free := ⟨fun has => free (.group has), nofun, nofun⟩
  rep free := fun has => free (.rep has)
  atomic free := fun has => free (.atomic has)
  look free :=
    ⟨fun has => free (.look has), fun _ => nofun, fun _ => nofun, fun _ => nofun, fun _ => nofun⟩
  cond free :=
    ⟨fun has => free (.test has), fun has => free (.met has), fun has => free (.missed has)⟩
  keepOut _ := nofun
  searchStart free := absurd .self free

/-- Without `\G` no instruction of the code asks where the search began. -/
theorem code_unasking (tried : Bool) (node : Node) (free : node.Unasking) (base : Nat) :
    Makes (· ≠ .searchStart) (code tried node base) :=
      code_guarded unasking_guard tried node free base

theorem build_unasking {sizeLimit : Nat} {source : Source} {p : Program}
    (free : source.node.Unasking) (built : build sizeLimit source = .ok p) :
    All (· ≠ .searchStart) p.code := by
  obtain ⟨inner, registers, -, rfl, builds⟩ := build_alone built
  obtain ⟨-, unasking⟩ := code_unasking true source.node free 4 (builds 4) (by omega)
  have behind : All (· ≠ .searchStart) #[.mark 1, .accept] := all_pair.mpr ⟨nofun, nofun⟩
  have before : All (· ≠ .searchStart) preamble := by simp [All, preamble]
  exact all_append.mpr ⟨all_append.mpr ⟨before, unasking⟩, behind⟩

/-! ### One search -/

section
variable {p : Program} {limits : Limits} {t : Subject} {origin : Nat}

theorem step_told (unasking : All (· ≠ .searchStart) p.code) (told : Bool) (s : State) :
    step p limits t origin told s = step p limits t origin false s := by
  have other : p.code.getD s.frame.pc .accept ≠ .searchStart := by
    rw [Array.getD_eq_getD_getElem?]
    cases here : p.code[s.frame.pc]? with
    | none => exact nofun
    | some i => exact unasking i (Array.mem_of_getElem? here)
  unfold step
  cases here : p.code.getD s.frame.pc .accept with
  | searchStart => exact absurd here other
  | _ => simp only [here]

/-- A search whose program does not ask is the same whatever it is told. -/
theorem run_told (unasking : All (· ≠ .searchStart) p.code) (told : Bool) (fuel : Nat) (s : State) :
    run p limits t origin told fuel s = run p limits t origin false fuel s := by
  induction fuel generalizing s with
  | zero => rfl
  | succ fuel ih => simp only [run, step_told unasking told, ih]

theorem search_told (unasking : All (· ≠ .searchStart) p.code) (told : Bool) (place : Nat) :
    search p limits t place told = search p limits t place false :=
  run_told unasking told maxSteps _

end

end Machine

/-! ### All searches -/

namespace Compiled

variable {limits : Limits} {c : Compiled} {t : Subject}

theorem search_told {source : Source} (free : source.node.Unasking)
    (built : ofSource limits source = .ok c) (told : Bool) (place : Nat) :
    c.search limits t place told = c.search limits t place false := by
  cases plain : source.node.plain source.referred with
  | true =>
    obtain ⟨a, -, matcher⟩ := ofSource_plain plain built
    rw [search, search, matcher]
  | false =>
    obtain ⟨p, program, matcher⟩ := ofSource_tried plain built
    rw [search, search, matcher]
    exact Machine.search_told (Machine.build_unasking free program) told place

theorem listFrom_told
    (same : ∀ told place, c.search limits t place told = c.search limits t place false)
    (flagged : Bool) (fuel place : Nat) (last : Option Nat) :
    c.listFrom limits t flagged fuel place last = c.listFrom limits t false fuel place last := by
  induction fuel generalizing place last with
  | zero => rfl
  | succ fuel ih => simp only [listFrom, same (flagged && _), Bool.false_and, ih]

end Compiled

variable {limits : Limits} {p : Pattern} {program : Compiled} {source : Source}

/-- **Without `\G` a search for matches and one for their groups list the same, or fail alike.** -/
theorem found_eq_captured (read : Reader.read p.source = .ok source) (free : source.node.Unasking)
    (compiled : p.compile (.standard limits) = .ok program) (t : Subject) :
    (Engine.standard limits).found program t = (Engine.standard limits).captured program t := by
  obtain ⟨whole, built, same | same⟩ := compile_ofSource read compiled
  · exact Compiled.listFrom_told (Compiled.search_told (same ▸ free) built) true _ _ _
  · exact Compiled.listFrom_told (Compiled.search_told (same ▸ Node.unasking_around free) built)
      true _ _ _

end Conlang.Pattern
