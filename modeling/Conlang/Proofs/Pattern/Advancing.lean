import Conlang.Proofs.Pattern.Compiling
import Conlang.Proofs.Pattern.Numbering
import Conlang.Proofs.Pattern.Registers
import Conlang.Proofs.Pattern.Splicing

/-! Searches that go on in the text.

Without lookaround a pattern never goes back behind the place where a search began, so a match lies
there or later. The next search begins where the match has ended: the matches are listed in order
and do not overlap (`listed_inOrder`). -/
namespace Conlang.Pattern

/-! ### Automata -/

namespace Automaton

variable {a : Automaton} {t : Subject}

theorem Moves.le_place {W : Array Way} {s s' : Spot} (step : Moves W t s s') : s.2 ≤ s'.2 := by
  obtain ⟨w, -, moves⟩ := step
  cases w with
  | accept => cases moves
  | one chars next =>
    obtain ⟨-, rfl⟩ := moves
    exact Nat.le_succ _
  | split first second =>
    rcases moves with rfl | rfl
    · exact Nat.le_refl _
    · exact Nat.le_refl _
  | mark slot next =>
    obtain rfl := moves
    exact Nat.le_refl _
  | place kind next =>
    obtain ⟨-, rfl⟩ := moves
    exact Nat.le_refl _

theorem places_of_path {W : Array Way} {s s' : Spot} (path : Relation.ReflTransGen (Moves W t) s s')
    (le : s.2 ≤ t.size) : s.2 ≤ s'.2 ∧ s'.2 ≤ t.size := by
  induction path with
  | refl => exact ⟨Nat.le_refl _, le⟩
  | tail _ step ih => exact ⟨Nat.le_trans ih.1 step.le_place, step.place_le ih.2⟩

theorem Accepts.places {i j : Nat} (h : a.Accepts t i j) (le : i ≤ t.size) :
    i ≤ j ∧ j ≤ t.size := by
  obtain ⟨q, path, -⟩ := h
  exact places_of_path path le

theorem Thread.onward?_size {th : Thread} {w : Way} {threads : List Thread}
    (h : th.onward? t w = some threads) :
    ∀ th' ∈ threads, th'.slots.size = th.slots.size := by
  cases w with
  | accept => cases h
  | one chars next =>
    rw [Thread.onward?] at h
    split at h
    · obtain rfl := Option.some.inj h
      split <;> simp
    · obtain rfl := Option.some.inj h
      simp
  | split | mark =>
    obtain rfl := Option.some.inj h
    simp
  | place =>
    obtain rfl := Option.some.inj h
    split <;> simp

/-- No thread has more or fewer slots than the one it comes from. -/
theorem explore_size {n fuel : Nat} {threads : List Thread} {seen seen' : Array Bool} {th : Thread}
    (sizes : ∀ th ∈ threads, th.slots.size = n)
    (found : a.explore t fuel threads seen = (some th, seen')) :
    th.slots.size = n := by
  induction fuel generalizing threads seen with
  | zero => cases found
  | succ fuel ih =>
    cases threads with
    | nil => cases found
    | cons first rest =>
      obtain ⟨here, others⟩ := List.forall_mem_cons.mp sizes
      rw [explore_cons] at found
      split at found
      · exact ih others found
      · simp only at found
        cases goes : first.onward? t (a.ways.getD first.state .accept) with
        | none =>
          rw [goes] at found
          cases found
          exact here
        | some threads =>
          rw [goes] at found
          refine ih (fun th mem => ?_) found
          rcases List.mem_append.mp mem with mem | mem
          · rw [Thread.onward?_size goes th mem, here]
          · exact others th mem

theorem follows_set {slots : Slots} {last i j : Nat} (two : 2 ≤ slots.size) (after : last ≤ i)
    (forward : i ≤ j) (within : j ≤ t.size) :
    Follows t last ((slots.setIfInBounds 0 (some i)).setIfInBounds 1 (some j)) := by
  refine .of ?_ ?_ after forward within
  · rw [Slots.start?, Array.getElem?_setIfInBounds_ne (by decide),
      Array.getElem?_setIfInBounds_self_of_lt (by omega)]
    rfl
  · rw [Slots.stop?,
      Array.getElem?_setIfInBounds_self_of_lt (by rw [Array.size_setIfInBounds]; omega)]
    rfl

theorem searchFrom_follows {slots count place : Nat} {seen : Array Bool} {found : Slots}
    (two : 2 ≤ slots) (fits : Fits a t seen) (settled : Settled a t seen [])
    (all : place + count ≤ t.size + 1) (h : a.searchFrom slots t count place seen = some found) :
    Follows t place found := by
  induction count generalizing place seen with
  | zero => cases h
  | succ count ih =>
    have le : place ≤ t.size := by omega
    rw [searchFrom] at h
    split at h
    next th seen' ended =>
      obtain rfl := Option.some.inj h
      obtain ⟨-, first, mem, path⟩ := explore_sound fits ended
      obtain rfl := List.mem_singleton.mp mem
      have size : th.slots.size = slots := explore_size (by simp) ended
      obtain ⟨forward, within⟩ := places_of_path path le
      exact follows_set (by rw [size]; exact two) (Nat.le_refl place) forward within
    next seen' ended =>
      obtain ⟨fits, settled, -⟩ := explore_start fits settled le ended
      exact (ih fits settled (by omega) h).mono (Nat.le_succ place)

theorem search_follows {slots place : Nat} {found : Slots} (two : 2 ≤ slots) (le : place ≤ t.size)
    (h : a.search slots t place = some found) : Follows t place found :=
  searchFrom_follows two fits_unseen settled_unseen (by omega) h

end Automaton

/-! ### Code without lookaround -/

/-- The instruction goes on in the text, and if it writes where the match begins, then it writes its
place. -/
def Instruction.Advances : Instruction → Prop
  | .zero r | .turn _ _ _ _ r => 0 < r
  | .moving _ _ _ count last => 0 < count ∧ 0 < last
  | .run _ groups => ∀ g ∈ groups, 0 < g
  | .restore _ | .back _ | .refute _ => False
  | _ => True

namespace Node

/-- The pattern does not look around, and no group has the number of the whole match. -/
def Advances (node : Node) : Prop := node.looksAround = false ∧ node.Numbered

theorem advances_all {parts : List Node} (free : anyLooksAround parts = false)
    (numbered : NumberedAll parts) :
    ∀ part ∈ parts, part.Advances := by
  rw [anyLooksAround_eq, List.any_eq_false] at free
  exact fun part mem => ⟨by simpa using free part mem, numberedAll_iff.mp numbered part mem⟩

theorem advances_ofParts {parts : List Node} (each : ∀ part ∈ parts, part.Advances) :
    (ofParts parts).Advances := by
  refine ⟨?_, numbered_ofParts (numberedAll_iff.mpr fun part mem => (each part mem).2)⟩
  rw [looksAround_ofParts, anyLooksAround_eq, List.any_eq_false]
  exact fun part mem => by simp [(each part mem).1]

theorem advances_cond {test thenBody elseBody : Node} (h : (cond test thenBody elseBody).Advances) :
    test.Advances ∧ thenBody.Advances ∧ elseBody.Advances := by
  obtain ⟨free, numbered⟩ := h
  simp only [looksAround, Bool.or_eq_false_iff] at free
  simp only [Numbered, groupsIn, List.mem_append, not_or] at numbered
  exact ⟨⟨free.1.1, numbered.1.1⟩, ⟨free.1.2, numbered.1.2⟩, ⟨free.2, numbered.2⟩⟩

end Node

namespace Machine

theorem advancing_guard : Guard Node.Advances Instruction.Advances where
  common {i} common := by
    cases i <;> first | exact common | trivial
  run advances := fun g mem => Nat.pos_of_ne_zero fun none => advances.2 (none ▸ mem)
  seq advances := Node.advances_all advances.1 advances.2
  row := Node.advances_ofParts
  alt advances := Node.advances_all advances.1 advances.2
  group advances :=
    ⟨⟨advances.1, fun mem => advances.2 (List.mem_cons_of_mem _ mem)⟩, trivial, trivial⟩
  rep := id
  atomic := id
  look advances := nomatch advances.1
  cond := Node.advances_cond
  keepOut _ := trivial
  searchStart _ := trivial

/-- **Without lookaround the code of a pattern goes on in the text.** -/
theorem code_advances (tried : Bool) (node : Node) (advances : node.Advances) (base : Nat) :
    (code tried node base).Yields (All Instruction.Advances) :=
      code_guarded advancing_guard tried node advances base

/-! ### Frames -/

section
variable {size registers origin : Nat} {t : Subject} {f : Frame}

/-- A frame of a search from `origin` on. In the code, which has size `size`, it has recorded where
the match begins, and right behind the code also where the match ends. -/
structure Ahead (size registers : Nat) (t : Subject) (origin : Nat) (f : Frame) : Prop where
  after : origin ≤ f.place
  within : f.place ≤ t.size
  slots : f.slots.size = registers
  begun : 4 ≤ f.pc → ∃ start, origin ≤ start ∧ Begun registers start f.slots
  ended : size + 5 ≤ f.pc → f.slots.stop? 0 = some f.place

/-- The frame goes on in the code, with what it has recorded. -/
theorem Ahead.move {f' : Frame} (h : Ahead size registers t origin f) (low : 4 ≤ f.pc)
    (same : f'.slots = f.slots) (high : f'.pc ≤ size + 4) (forward : f.place ≤ f'.place)
    (within : f'.place ≤ t.size) :
    Ahead size registers t origin f' where
  after := Nat.le_trans h.after forward
  within := within
  slots := same ▸ h.slots
  begun _ := same ▸ h.begun low
  ended beyond := absurd beyond (by omega)

theorem Ahead.save {r : Nat} {value : Option Nat} (h : Ahead size registers t origin f)
    (low : 4 ≤ f.pc) (high : f.pc ≤ size + 4) (two : 2 ≤ registers)
    (written : 0 < r ∨ value = some f.place) :
    Ahead size registers t origin { f with slots := f.slots.setIfInBounds r value } where
  after := h.after
  within := h.within
  slots := by rw [Array.size_setIfInBounds, h.slots]
  begun _ := by
    rcases Nat.eq_zero_or_pos r with rfl | pos
    · obtain rfl := written.resolve_left (Nat.lt_irrefl 0)
      refine ⟨f.place, h.after, ?_, by rw [Array.size_setIfInBounds, h.slots]⟩
      rw [Slots.start?, Array.getElem?_setIfInBounds_self_of_lt (by rw [h.slots]; omega)]
      rfl
    · obtain ⟨start, after, begun⟩ := h.begun low
      exact ⟨start, after, begun.set pos value⟩
  ended beyond := absurd beyond (by
    show ¬ size + 5 ≤ f.pc
    omega)

theorem Ahead.copy {groups : List Nat} (h : Ahead size registers t origin f) (low : 4 ≤ f.pc)
    (high : f.pc ≤ size + 4) (pos : ∀ g ∈ groups, 0 < g) (found : Slots) :
    Ahead size registers t origin { f with slots := copyGroups f.slots found groups } := by
  obtain ⟨start, after, begun⟩ := h.begun low
  have copied := begun.copy pos found
  exact ⟨h.after, h.within, copied.size, fun _ => ⟨start, after, copied⟩, fun beyond =>
    absurd beyond (by
    show ¬ size + 5 ≤ f.pc
    omega)⟩

end

/-! ### Steps -/

section
variable (size registers : Nat) (t : Subject) (origin : Nat)

/-- All frames of a search are ahead of where it began. -/
def AllAhead (s : State) : Prop := ∀ f ∈ s.frame :: s.stack, Ahead size registers t origin f

/-- What one step of such a search comes to. -/
inductive Proceeds : Step → Prop
  | go {s : State} (ahead : AllAhead size registers t origin s) : Proceeds (.go s)
  | fail {s : State} (kept : ∀ f ∈ s.stack, Ahead size registers t origin f) : Proceeds (.fail s)
  | error (e : Failure) : Proceeds (.stop (.error e))
  | found {found : Slots} (follows : Follows t origin found) : Proceeds (.stop (.ok (some found)))

end

section
variable {size registers origin : Nat} {t : Subject} {s : State}
  (h : AllAhead size registers t origin s)

include h

theorem AllAhead.withFrame {f : Frame} (ahead : Ahead size registers t origin f) :
    AllAhead size registers t origin { s with frame := f } :=
  List.forall_mem_cons.mpr ⟨ahead, (List.forall_mem_cons.mp h).2⟩

theorem AllAhead.cutTo (height : Nat) : AllAhead size registers t origin (s.cutTo height) := by
  obtain ⟨ahead, kept⟩ := List.forall_mem_cons.mp h
  exact List.forall_mem_cons.mpr ⟨ahead, fun f mem => kept f ((List.drop_suffix _ _).subset mem)⟩

variable (low : 4 ≤ s.frame.pc)

include low

theorem AllAhead.moveTo (more : s.frame.pc < size + 4) {place : Nat}
    (forward : s.frame.place ≤ place) (within : place ≤ t.size) :
    Proceeds size registers t origin (s.moveTo place) := by
  have ahead := (List.forall_mem_cons.mp h).1
  exact .go (h.withFrame (ahead.move low rfl more forward within))

theorem AllAhead.next (more : s.frame.pc < size + 4) : Proceeds size registers t origin s.next :=
  h.moveTo low more (Nat.le_refl _) (List.forall_mem_cons.mp h).1.within

theorem AllAhead.goTo {target : Nat} (le : target ≤ size) :
    Proceeds size registers t origin (s.goTo (target + 4)) := by
  have ahead := (List.forall_mem_cons.mp h).1
  exact .go
    (h.withFrame (ahead.move low rfl (Nat.add_le_add_right le 4) (Nat.le_refl _) ahead.within))

theorem AllAhead.fork (limits : Limits) {now later : Nat} (high : now ≤ size + 4)
    (high' : later ≤ size + 4) :
    Proceeds size registers t origin (s.fork limits now later) := by
  obtain ⟨ahead, kept⟩ := List.forall_mem_cons.mp h
  rw [State.fork]
  split
  · refine .go (List.forall_mem_cons.mpr ⟨?_, List.forall_mem_cons.mpr ⟨?_, kept⟩⟩)
    · exact ahead.move low rfl high (Nat.le_refl _) ahead.within
    · exact ahead.move low rfl high' (Nat.le_refl _) ahead.within
  · exact .error .depth

theorem AllAhead.save {r : Nat} {v : Option Nat} (high : s.frame.pc ≤ size + 4)
    (two : 2 ≤ registers) (written : 0 < r ∨ v = some s.frame.place) :
    AllAhead size registers t origin (s.save r v) :=
  h.withFrame ((List.forall_mem_cons.mp h).1.save low high two written)

end

theorem sameText?_places {t : Subject} {start stop place after : Nat}
    (h : sameText? t start stop place = some after) :
    place ≤ after ∧ after ≤ t.size := by
  rw [sameText?] at h
  split at h
  next same =>
    obtain rfl := Option.some.inj h
    exact ⟨Nat.le_add_right _ _, same.1⟩
  next => cases h

section
variable {size origin place : Nat} {t : Subject} {s : State} {p : Program} {limits : Limits}
  {skipped : Bool}

/-- One step in the code. -/
theorem AllAhead.step {i : Instruction} (h : AllAhead size p.registers t origin s)
    (two : 2 ≤ p.registers) (low : 4 ≤ s.frame.pc) (more : s.frame.pc < size + 4)
    (stays : i.Stays size) (advances : i.Advances)
    (here : p.code.getD s.frame.pc .accept = i.shift 4) :
    Proceeds size p.registers t origin (Machine.step p limits t place skipped s) := by
  obtain ⟨ahead, kept⟩ := List.forall_mem_cons.mp h
  have high : s.frame.pc ≤ size + 4 := Nat.le_of_lt more
  have fail : Proceeds size p.registers t origin (.fail s) := .fail kept
  unfold Machine.step
  simp only [here]
  cases i with
  | accept => exact stays.elim
  | restore | back | refute => exact advances.elim
  | one chars =>
    simp only [Instruction.shift]
    split
    next c char =>
      split
      · exact h.moveTo low more (Nat.le_succ _) (Array.getElem?_eq_some_iff.mp char).1
      · exact fail
    · exact fail
  | place kind =>
    simp only [Instruction.shift]
    split
    · exact h.next low more
    · exact fail
  | split first second =>
    exact h.fork low limits (Nat.add_le_add_right stays.1 4) (Nat.add_le_add_right stays.2 4)
  | jump target => exact h.goTo low stays
  | mark r => exact (h.save low high two (.inr rfl)).next low more
  | zero r => exact (h.save low high two (.inl advances)).next low more
  | turn least most greedy exit count =>
    have turned := h.save low high two (v := some ((s.register count).getD 0 + 1)) (.inl advances)
    simp only [Instruction.shift]
    split
    · exact h.goTo low stays
    · split
      · exact turned.next low more
      · split
        · exact turned.fork low limits more (Nat.add_le_add_right stays 4)
        · exact turned.fork low limits (Nat.add_le_add_right stays 4) more
  | moving least greedy exit count last =>
    have turned := h.save low high two (v := some ((s.register count).getD 0 + 1)) (.inl advances.1)
    have moved := turned.save low high two (v := some s.frame.place) (.inl advances.2)
    simp only [Instruction.shift]
    split
    · exact fail
    · split
      · exact turned.next low more
      · split
        · exact moved.fork low limits more (Nat.add_le_add_right stays 4)
        · exact moved.fork low limits (Nat.add_le_add_right stays 4) more
  | backref g =>
    simp only [Instruction.shift]
    split
    · split
      · exact .error .crossed
      · split
        next after same =>
          obtain ⟨forward, within⟩ := sameText?_places same
          exact h.moveTo low more forward within
        · exact fail
    · exact fail
  | isSet g =>
    simp only [Instruction.shift]
    split
    · exact h.next low more
    · exact fail
  | run a groups =>
    simp only [Instruction.shift]
    split
    next after found matched =>
      obtain ⟨forward, within⟩ := (Automaton.matchAt_some matched).places ahead.within
      exact (h.withFrame (ahead.copy low high advances found)).moveTo low more forward within
    · exact fail
  | enterAtomic =>
    have entered :
        Ahead size p.registers t origin { s.frame with floors := s.height :: s.frame.floors } :=
      ahead.move low rfl high (Nat.le_refl _) ahead.within
    exact (h.withFrame entered).next low more
  | leaveAtomic =>
    simp only [Instruction.shift]
    split
    next floor floors _ =>
      have left : Ahead size p.registers t origin { s.frame with floors } :=
        ahead.move low rfl high (Nat.le_refl _) ahead.within
      exact ((h.withFrame left).cutTo floor).next low more
    · exact h.next low more
  | searchStart =>
    simp only [Instruction.shift]
    split
    · exact fail
    · exact h.next low more

end

/-! ### Whole searches -/

section
variable {code : Array Instruction} {registers origin place : Nat} {t : Subject} {s : State}
  {limits : Limits}
  {skipped : Bool}

/-- A frame in front of the code has nothing to hold. -/
theorem Ahead.before {size : Nat} {f f' : Frame} (h : Ahead size registers t origin f)
    (same : f'.slots = f.slots) (low : f'.pc < 4) (forward : f.place ≤ f'.place)
    (within : f'.place ≤ t.size) :
    Ahead size registers t origin f' where
  after := Nat.le_trans h.after forward
  within := within
  slots := same ▸ h.slots
  begun high := absurd high (by omega)
  ended high := absurd high (by omega)

/-- In front of the code a search looks for where the match begins. -/
theorem AllAhead.seek (two : 2 ≤ registers) (h : AllAhead code.size registers t origin s)
    (low : s.frame.pc < 4) :
    Proceeds code.size registers t origin (Machine.step (alone code registers) limits t place
      skipped s) := by
  obtain ⟨ahead, kept⟩ := List.forall_mem_cons.mp h
  have here : (alone code registers).code[s.frame.pc]? = preamble[s.frame.pc]? :=
    alone_preamble registers low
  obtain pc | pc | pc | pc : s.frame.pc = 0 ∨ s.frame.pc = 1 ∨ s.frame.pc = 2 ∨ s.frame.pc = 3 := by
    omega
  · have split : (alone code registers).code[s.frame.pc]? = some (.split 3 1) := by
      rw [here, pc]; rfl
    rw [step_split split, State.fork]
    split
    · refine .go (List.forall_mem_cons.mpr ⟨?_, List.forall_mem_cons.mpr ⟨?_, kept⟩⟩)
      · exact ahead.before rfl (show 3 < 4 by decide) (Nat.le_refl _) ahead.within
      · exact ahead.before rfl (show 1 < 4 by decide) (Nat.le_refl _) ahead.within
    · exact .error .depth
  · have one : (alone code registers).code.getD s.frame.pc .accept = .one (anyChars true) := by
      rw [Array.getD_eq_getD_getElem?, here, pc]
      rfl
    unfold Machine.step
    simp only [one]
    split
    next c char =>
      split
      · refine .go
          (h.withFrame (ahead.before rfl ?_ (Nat.le_succ _) (Array.getElem?_eq_some_iff.mp char).1))
        show s.frame.pc + 1 < 4
        omega
      · exact .fail kept
    · exact .fail kept
  · have jump : (alone code registers).code[s.frame.pc]? = some (.jump 0) := by rw [here, pc]; rfl
    rw [step_jump jump]
    exact .go (h.withFrame (ahead.before rfl (show 0 < 4 by decide) (Nat.le_refl _) ahead.within))
  · have mark : (alone code registers).code[s.frame.pc]? = some (.mark 0) := by rw [here, pc]; rfl
    rw [step_mark mark]
    refine .go (h.withFrame ⟨ahead.after, ahead.within, ?_, fun _ =>
      ⟨s.frame.place, ahead.after, ?_, ?_⟩,
      fun beyond => ?_⟩)
    · exact (Array.size_setIfInBounds ..).trans ahead.slots
    · show (s.frame.slots.setIfInBounds 0 (some s.frame.place))[0]?.join = some s.frame.place
      rw [Array.getElem?_setIfInBounds_self_of_lt (by rw [ahead.slots]; omega)]
      rfl
    · exact (Array.size_setIfInBounds ..).trans ahead.slots
    · exact absurd (show code.size + 5 ≤ s.frame.pc + 1 from beyond) (by omega)

/-- Behind the code a search records where the match ends. -/
theorem AllAhead.close (two : 2 ≤ registers) (h : AllAhead code.size registers t origin s)
    (pc : s.frame.pc = code.size + 4) :
    Proceeds code.size registers t origin (Machine.step (alone code registers) limits t place
      skipped s) := by
  obtain ⟨ahead, kept⟩ := List.forall_mem_cons.mp h
  have mark : (alone code registers).code[s.frame.pc]? = some (.mark 1) := by rw [pc, alone_mark]
  obtain ⟨start, after, begun⟩ := ahead.begun (by omega)
  have closed := begun.set (show 0 < 1 by decide) (some s.frame.place)
  rw [step_mark mark]
  refine .go (h.withFrame ⟨ahead.after, ahead.within, closed.size, fun _ =>
    ⟨start, after, closed⟩, fun _ => ?_⟩)
  show (s.frame.slots.setIfInBounds 1 (some s.frame.place))[1]?.join = some s.frame.place
  rw [Array.getElem?_setIfInBounds_self_of_lt (by rw [ahead.slots]; omega)]
  rfl

/-- Where a search accepts, the match that it reports is ahead. -/
theorem AllAhead.accept (two : 2 ≤ registers) (h : AllAhead code.size registers t origin s)
    (beyond : code.size + 5 ≤ s.frame.pc) :
    Proceeds code.size registers t origin (Machine.step (alone code registers) limits t place
      skipped s) := by
  obtain ⟨ahead, kept⟩ := List.forall_mem_cons.mp h
  obtain ⟨start, after, begun⟩ := ahead.begun (by omega)
  have here : (alone code registers).code.getD s.frame.pc .accept = .accept := by
    rw [Array.getD_eq_getD_getElem?]
    rcases Nat.eq_or_lt_of_le beyond with pc | past
    · rw [← pc, alone_accept]
      rfl
    · rw [Array.getElem?_eq_none (by simp [alone, preamble]; omega)]
      rfl
  obtain ⟨found, reports, first, last⟩ :=
    step_reports here two ahead.slots begun.start (ahead.ended beyond)
  rw [reports]
  exact .found (.of first last (Nat.le_min.mpr ⟨after, ahead.after⟩) (Nat.min_le_right _ _)
    ahead.within)

theorem AllAhead.onward (stays : StaysIn code.size code) (advances : All Instruction.Advances code)
    (two : 2 ≤ registers) (h : AllAhead code.size registers t origin s) :
    Proceeds code.size registers t origin (Machine.step (alone code registers) limits t place
      skipped s) := by
  by_cases before : s.frame.pc < 4
  · exact h.seek two before
  by_cases inside : s.frame.pc < code.size + 4
  · obtain ⟨k, pc⟩ : ∃ k, s.frame.pc = k + 4 := ⟨s.frame.pc - 4, by omega⟩
    have lt : k < code.size := by omega
    have mem : code[k] ∈ code := Array.getElem_mem lt
    have here : (alone code registers).code.getD s.frame.pc .accept = code[k].shift 4 := by
      rw [Array.getD_eq_getD_getElem?, pc, alone_code registers lt]
      rfl
    exact h.step two (Nat.le_of_not_lt before) inside (stays _ mem) (advances _ mem) here
  by_cases behind : s.frame.pc = code.size + 4
  · exact h.close two behind
  · exact h.accept two (by omega)

/-- A match that a search comes to report is ahead of where it began. -/
theorem run_follows (stays : StaysIn code.size code) (advances : All Instruction.Advances code)
    (two : 2 ≤ registers) (n : Nat) (h : AllAhead code.size registers t origin s) {found : Slots}
    (ran : run (alone code registers) limits t place skipped n s = .ok (some found)) :
    Follows t origin found := by
  -- All frames that are kept are ahead, so it does not matter to which of them a failure leads
  -- back.
  induction n generalizing s with
  | zero => cases ran
  | succ n ih =>
    rw [run] at ran
    have onward : Proceeds code.size registers t origin
        (Machine.step (alone code registers) limits t place skipped s) :=
          h.onward stays advances two
    generalize Machine.step (alone code registers) limits t place skipped s = stepped at onward ran
    cases onward with
    | go ahead => exact ih ahead ran
    | error => cases ran
    | found follows =>
      obtain rfl := Option.some.inj (Except.ok.inj ran)
      exact follows
    | @fail s' kept =>
      simp only at ran
      rcases s'.backtrack_cases limits with ⟨-, back⟩ | ⟨frame, rest, there, back | back⟩
      · rw [back] at ran
        cases ran
      · rw [back] at ran
        have next : AllAhead code.size registers t origin
            ⟨frame, rest, s'.height - 1, s'.backtracks + 1⟩ := by
          rwa [there] at kept
        exact ih next ran
      · rw [back] at ran
        cases ran

theorem search_follows (stays : StaysIn code.size code) (advances : All Instruction.Advances code)
    (two : 2 ≤ registers) (le : place ≤ t.size) {found : Slots}
    (h : search (alone code registers) limits t place skipped = .ok (some found)) :
    Follows t place found := by
  have begun : Ahead code.size registers t place ⟨0, place, .replicate registers none, []⟩ :=
    ⟨Nat.le_refl place, le, Array.size_replicate, fun high =>
      absurd (show 4 ≤ 0 from high) (by decide),
      fun high => absurd (show code.size + 5 ≤ 0 from high) (Nat.not_succ_le_zero _)⟩
  have ahead : AllAhead code.size registers t place
      ⟨⟨0, place, .replicate registers none, []⟩, [], 0, 0⟩ := List.forall_mem_singleton.mpr begun
  exact run_follows stays advances two maxSteps ahead h

end

end Machine

/-! ### Listing -/

namespace Compiled

variable {limits : Limits} {c : Compiled} {t : Subject}

/-- Each match that is found lies ahead. -/
def Advances (limits : Limits) (t : Subject) (c : Compiled) : Prop :=
  ∀ ⦃place skipped found⦄, place ≤ t.size → c.search limits t place skipped = .ok (some found) →
    Follows t place found

theorem listFrom_found {flagged : Bool} {fuel place : Nat} {last : Option Nat} {m : Slots}
    (within : place ≤ t.size)
    (search : c.search limits t place (flagged && last.any (· < place)) = .ok (some m)) :
    c.listFrom limits t flagged (fuel + 1) place last =
      if m.start = m.stop then
        if last = some m.stop then c.listFrom limits t flagged fuel (m.stop + 1) last
        else (m :: ·) <$> c.listFrom limits t flagged fuel (m.stop + 1) (some m.stop)
      else (m :: ·) <$> c.listFrom limits t flagged fuel m.stop (some m.stop) := by
  rw [listFrom, if_neg (Nat.not_lt.mpr within), search]
  rfl

/-- If each match lies ahead, then they are listed in order. -/
theorem listFrom_inOrder (advances : c.Advances limits t) {flagged : Bool} {fuel place : Nat}
    {last : Option Nat} {found : List Slots}
    (h : c.listFrom limits t flagged fuel place last = .ok found) : InOrder t place found := by
  induction fuel generalizing place last found with
  | zero => cases h
  | succ fuel ih =>
    by_cases within : place ≤ t.size
    · cases search : c.search limits t place (flagged && last.any (· < place)) with
      | error e =>
        rw [listFrom, if_neg (Nat.not_lt.mpr within), search] at h
        cases h
      | ok result =>
        cases result with
        | none =>
          rw [listFrom, if_neg (Nat.not_lt.mpr within), search] at h
          obtain rfl := Except.ok.inj h
          trivial
        | some m =>
          -- After an empty match the search goes on one place later, which only leaves a gap.
          have follows := advances within search
          rw [listFrom_found within search] at h
          split at h
          · split at h
            · exact (ih h).mono (Nat.le_succ_of_le (Nat.le_trans follows.after follows.forward))
            · obtain ⟨rest, listed, rfl⟩ := map_eq_ok_iff.mp h
              exact ⟨follows, (ih listed).mono (Nat.le_succ m.stop)⟩
          · obtain ⟨rest, listed, rfl⟩ := map_eq_ok_iff.mp h
            exact ⟨follows, ih listed⟩
    · rw [listFrom, if_pos (Nat.lt_of_not_le within)] at h
      obtain rfl := Except.ok.inj h
      trivial

/-- If each match lies ahead, then the listing comes to an end: it fails only where a search
does. -/
theorem search_of_listFrom_error (advances : c.Advances limits t) {flagged : Bool}
    {fuel place : Nat} {last : Option Nat} {e : Failure} (le : place ≤ t.size + 1)
    (enough : t.size + 1 < fuel + place)
    (h : c.listFrom limits t flagged fuel place last = .error e) :
    ∃ place skipped, c.search limits t place skipped = .error e := by
  -- Each search begins behind the one before it, so there is fuel for the places that are left.
  induction fuel generalizing place last with
  | zero => omega
  | succ fuel ih =>
    by_cases within : place ≤ t.size
    · cases search : c.search limits t place (flagged && last.any (· < place)) with
      | error e' =>
        rw [listFrom, if_neg (Nat.not_lt.mpr within), search] at h
        exact ⟨_, _, search.trans (congrArg Except.error (Except.error.inj h))⟩
      | ok result =>
        cases result with
        | none =>
          rw [listFrom, if_neg (Nat.not_lt.mpr within), search] at h
          cases h
        | some m =>
          obtain ⟨-, -, after, forward, inside⟩ := advances within search
          rw [listFrom_found within search] at h
          split at h
          · split at h
            · exact ih (by omega) (by omega) h
            · exact ih (by omega) (by omega) (map_eq_error_iff.mp h)
          · exact ih (by omega) (by omega) (map_eq_error_iff.mp h)
    · rw [listFrom, if_pos (Nat.lt_of_not_le within)] at h
      cases h

theorem ofSource_advances {source : Source} (advances : source.node.Advances)
    (built : ofSource limits source = .ok c) :
    c.Advances limits t := by
  intro place skipped found le h
  cases plain : source.node.plain source.referred with
  | true =>
    obtain ⟨a, -, matcher⟩ := ofSource_plain plain built
    rw [search, matcher] at h
    exact Automaton.search_follows (by omega) le (Except.ok.inj h)
  | false =>
    obtain ⟨p, program, matcher⟩ := ofSource_tried plain built
    rw [search, matcher] at h
    obtain ⟨inner, registers, stays, rfl, builds⟩ := Machine.build_alone program
    obtain ⟨least, code⟩ := Machine.code_advances true source.node advances 0 (builds 0) (by omega)
    rw [shifted_zero] at code
    exact Machine.search_follows stays code (by omega) le h

end Compiled

/-- The frame of an anchored pattern does not look around. -/
theorem advances_around {node : Node} (h : node.Advances) :
    (Node.ofParts (Reader.around node)).Advances := by
  have place (kind : Assertion) : (Node.assertion kind).Advances := ⟨rfl, List.not_mem_nil⟩
  exact Node.advances_ofParts (Reader.forall_mem_around place h)

variable {limits : Limits} {p : Pattern} {program : Compiled} {source : Source}

section
variable (read : Reader.read p.source = .ok source) (free : source.node.looksAround = false)
variable (compiled : p.compile (.standard limits) = .ok program)

include read free compiled

theorem advances_of_compile (t : Subject) : program.Advances limits t := by
  have advances : source.node.Advances := ⟨free, read_numbered read⟩
  obtain ⟨whole, built, same | same⟩ := compile_ofSource read compiled
  · exact Compiled.ofSource_advances (same ▸ advances) built
  · exact Compiled.ofSource_advances (same ▸ advances_around advances) built

/-- **Without lookaround the matches of a pattern are listed in order.** -/
theorem listed_inOrder {flagged : Bool} {t : Subject} {found : List Slots}
    (listed : program.list limits t flagged = .ok found) : InOrder t 0 found :=
  Compiled.listFrom_inOrder (advances_of_compile read free compiled t) listed

/-- **Without lookaround the matches of a pattern come to an end**: they are listed unless a search
is given up. -/
theorem search_of_list_error {flagged : Bool} {t : Subject} {e : Failure}
    (failed : program.list limits t flagged = .error e) :
    ∃ place skipped, program.search limits t place skipped = .error e :=
  Compiled.search_of_listFrom_error (advances_of_compile read free compiled t) (Nat.zero_le _)
    (by omega) failed

end

end Conlang.Pattern
