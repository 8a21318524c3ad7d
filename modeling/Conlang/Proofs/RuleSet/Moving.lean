import Conlang.Proofs.RuleSet.History
import Conlang.Proofs.RuleSet.Shifting

/-! Moving rules within their form.

A form is rearranged by way of numbers: its rules are numbered by their new places, sorted and
numbered again. For a form in order that comes to rearranging the rules themselves
(`WellKept.rulesFor_reorder`), so what moving does to a selection in a list it does to the selected
rules of a form (`moves_shift_unblocked`). Moving the same rules again and again gathers them at one
end, and then changes nothing more (`moves_gather_selection`). -/
namespace Conlang.RuleSet

variable {s : RuleSet} {type : Id} {c : Combination}

/-- The rule has one of the ids. -/
def isAmong (ids : List Nat) (r : Rule) : Bool := ids.contains r.id

/-- A rule has its id whatever its number is. -/
theorem isAmong_unnumbered (ids : List Nat) (r : Rule) : isAmong ids r.unnumbered = isAmong ids r :=
  rfl

theorem isAmong_of_eq_nil {ids : List Nat} (none : ids = []) {l : List Rule} :
    ∀ r ∈ l, isAmong ids r = false := by
  subst none
  exact fun _ _ => rfl

/-! ### Numbering -/

/-- Numbering replaces the numbers that rules have, and keeps everything else. -/
theorem numberFrom_map_unnumbered (k : Nat) (l : List Rule) :
    numberFrom k (l.map Rule.unnumbered) = numberFrom k l := by
  induction l generalizing k with
  | nil => rfl
  | cons r rest ih => simp only [List.map_cons, numberFrom, ih, Rule.unnumbered]

theorem map_unnumbered_numberFrom (k : Nat) (l : List Rule) :
    (numberFrom k l).map Rule.unnumbered = l.map Rule.unnumbered := by
  induction l generalizing k with
  | nil => rfl
  | cons r rest ih => simp only [List.map_cons, numberFrom, ih, Rule.unnumbered]

theorem numberFrom_congr {l l' : List Rule} (same : l.map Rule.unnumbered = l'.map Rule.unnumbered)
    (k : Nat) :
    numberFrom k l = numberFrom k l' := by
  rw [← numberFrom_map_unnumbered, same, numberFrom_map_unnumbered]

theorem map_id_congr {l l' : List Rule} (same : l.map Rule.unnumbered = l'.map Rule.unnumbered) :
    l.map (·.id) = l'.map (·.id) := by
  have ids := congrArg (List.map (·.id)) same
  rw [List.map_map, List.map_map] at ids
  exact ids

theorem WellKept.numberFrom_rulesFor (h : WellKept s) (type : Id) (c : Combination) :
    numberFrom 0 (s.rulesFor type c) = s.rulesFor type c := by
  rw [h.rulesFor_eq]
  exact numberFrom_eq_self (h.numbered type c)

theorem WellKept.nodup_rulesFor (h : WellKept s) (type : Id) (c : Combination) :
    ((s.rulesFor type c).map (·.id)).Nodup := by
  rw [h.rulesFor_eq, bucket_eq]
  exact h.distinct.sublist ((List.filter_sublist ..).map _)

/-- Places in a list of ids are numbers from one on. -/
theorem map_place_eq_numberFrom {l : List Rule} (distinct : (l.map (·.id)).Nodup) :
    l.map (fun r => { r with index := (l.map (·.id)).idxOf r.id + 1 }) = numberFrom 0 l := by
  have unchanged :
    (l.map fun r => { r with index := (l.map (·.id)).idxOf r.id + 1 }).map Rule.unnumbered =
      l.map Rule.unnumbered := by
    rw [List.map_map]
    rfl
  rw [← numberFrom_congr unchanged]
  refine (numberFrom_eq_self (List.ext_getElem (by simp) fun i _ _ => ?_)).symm
  have place := distinct.idxOf_getElem i (by simp_all)
  rw [List.getElem_map] at place
  simp [place, Nat.add_comm]

/-! ### Rearranging a form -/

/-- Sorting by number finds the one order that the numbers give. -/
theorem sortBy_byIndex_of_perm {l m : List Rule} (perm : l.Perm (numberFrom 0 m)) :
    sortBy byIndex l = numberFrom 0 m := by
  have ascending : ((numberFrom 0 m).map (·.index)).Nodup := by
    rw [map_index_numberFrom]
    exact List.nodup_range'
  have sorted : (numberFrom 0 m).Pairwise (fun r t => byIndex r t = true) :=
    pairwise_byIndex_of_range (k := 1) (by rw [map_index_numberFrom, length_numberFrom])
  have arranged := (sortBy_perm byIndex l).trans perm
  refine arranged.eq_of_pairwise (fun r t hr ht le le' => ?_) (pairwise_sortBy byIndex_ranking l)
    sorted
  simp only [byIndex, decide_eq_true_eq] at le le'
  exact List.inj_on_of_nodup_map ascending (arranged.mem_iff.mp hr) ht (Nat.le_antisymm le le')

/-- Rearranging the ids of a form's rules rearranges the rules. -/
theorem WellKept.rulesFor_reorder (h : WellKept s) {move : List Nat → List Nat} {moved : List Rule}
    (perm : moved.Perm (s.rulesFor type c))
    (order : move ((s.rulesFor type c).map (·.id)) = moved.map (·.id)) :
    (s.reorder type c move).rulesFor type c = numberFrom 0 moved := by
  have distinct : (moved.map (·.id)).Nodup := (perm.map _).nodup_iff.mpr (h.nodup_rulesFor type c)
  have placed : ((s.number type c (moved.map (·.id))).bucket type c).Perm (numberFrom 0 moved) := by
    rw [bucket_number, ← h.rulesFor_eq, ← map_place_eq_numberFrom distinct]
    simpa using (perm.map _).symm
  calc (s.reorder type c move).rulesFor type c
    _ = (s.reorder type c move).bucket type c := (h.reorder type c move).rulesFor_eq type c
    _ = numberFrom 0 ((s.number type c (moved.map (·.id))).rulesFor type c) := by
      rw [RuleSet.reorder, order, bucket_settle, if_pos rfl]
    _ = numberFrom 0 (numberFrom 0 moved) := by
      rw [rulesFor_eq_sortBy, sortBy_byIndex_of_perm placed]
    _ = numberFrom 0 moved := numberFrom_numberFrom 0 moved

/-- A form that is in order has the numbers that its order gives. -/
theorem WellKept.number_eq_self (h : WellKept s) (type : Id) (c : Combination) :
    s.number type c ((s.rulesFor type c).map (·.id)) = s := by
  have placed :=
    (map_place_eq_numberFrom (h.nodup_rulesFor type c)).trans (h.numberFrom_rulesFor type c)
  have stays := List.map_inj_left.mp (placed.trans (List.map_id _).symm)
  have rules : (s.number type c ((s.rulesFor type c).map (·.id))).rules = s.rules.map id := by
    refine List.map_congr_left fun r hr => ?_
    split
    · next here =>
      refine stays r ?_
      rw [h.rulesFor_eq, bucket_eq]
      exact List.mem_filter.mpr ⟨hr, here⟩
    · rfl
  rw [List.map_id] at rules
  exact congrArg (fun rules => { s with rules }) rules

/-! ### Ways of moving -/

/-- The operation moves those rules of a form that have one of the ids, and `shift` says how it does
so in a list of rules. -/
structure Moving (op : Operation) (type : Id) (c : Combination) (ids : List Nat) where
  shift : List Rule → List Rule
  /-- The same, done to the ids alone. -/
  move : List Nat → List Nat
  performs : ∀ (E : Pattern.Engine) (s : RuleSet),
    s.perform E op = if ids.isEmpty then s else s.reorder type c move
  order : ∀ l : List Rule, move (l.map (·.id)) = (shift l).map (·.id)
  perm : ∀ l, (shift l).Perm l
  /-- The numbers of rules have no influence on how they move. -/
  blind : ∀ l, (shift l).map Rule.unnumbered = shift (l.map Rule.unnumbered)
  /-- Nothing moves where nothing is selected. -/
  idle : ids = [] → ∀ l, shift l = l

def movingUp (type : Id) (c : Combination) (ids : List Nat) :
    Moving (.moveUp type c ids) type c ids where
  shift := liftSelected (isAmong ids)
  move := liftSelected ids.contains
  performs _ _ := rfl
  order := liftSelected_map fun _ => rfl
  perm := liftSelected_perm
  blind l := (liftSelected_map (isAmong_unnumbered ids) l).symm
  idle none _ := liftSelected_eq_self (isAmong_of_eq_nil none)

def movingDown (type : Id) (c : Combination) (ids : List Nat) :
    Moving (.moveDown type c ids) type c ids where
  shift := lowerSelected (isAmong ids)
  move := lowerSelected ids.contains
  performs _ _ := rfl
  order := lowerSelected_map fun _ => rfl
  perm := lowerSelected_perm
  blind l := (lowerSelected_map (isAmong_unnumbered ids) l).symm
  idle none _ := lowerSelected_eq_self (isAmong_of_eq_nil none)

theorem run_replicate (E : Pattern.Engine) (s : RuleSet) (op : Operation) (k : Nat) :
    s.run E (List.replicate k op) = (fun s => s.perform E op)^[k] s := by
  induction k generalizing s with
  | zero => rfl
  | succ k ih => rw [List.replicate_succ, run, ih, Function.iterate_succ_apply]

namespace Moving
variable (E : Pattern.Engine) {op : Operation} {ids : List Nat} (M : Moving op type c ids)
include M

/-- What is done to the ids of a form is done to its rules. -/
theorem rulesFor_perform (h : WellKept s) :
    (s.perform E op).rulesFor type c = numberFrom 0 (M.shift (s.rulesFor type c)) := by
  rw [M.performs]
  split
  · next none => rw [M.idle (List.isEmpty_iff.mp none), h.numberFrom_rulesFor]
  · exact h.rulesFor_reorder (M.perm _) (M.order _)

theorem rulesFor_replicate (h : WellKept s) (k : Nat) :
    (s.run E (List.replicate k op)).rulesFor type c =
      numberFrom 0 (M.shift^[k] (s.rulesFor type c)) := by
  induction k generalizing s with
  | zero => exact (h.numberFrom_rulesFor type c).symm
  | succ k ih =>
    have through (l : List Rule) : (M.shift^[k] l).map Rule.unnumbered =
        M.shift^[k] (l.map Rule.unnumbered) :=
      Function.Semiconj.iterate_right M.blind k l
    rw [List.replicate_succ, run, ih (wellKept_perform E h op), M.rulesFor_perform E h]
    refine numberFrom_congr ?_ 0
    rw [through, map_unnumbered_numberFrom, ← through, ← Function.iterate_succ_apply]

/-- A move settles the part of speech, unless there is nothing to move. -/
theorem settled_perform (s : RuleSet) :
    ids.isEmpty = true ∨ (s.perform E op).settle type = s.perform E op := by
  rw [M.performs]
  split
  · next none => exact .inl none
  · exact .inr (settle_settle _ type)

/-- What leaves a form as it is changes nothing in a rule set that is settled. -/
theorem perform_eq_self (h : WellKept s) (settled : ids.isEmpty = true ∨ s.settle type = s)
    (fixed : (M.shift (s.rulesFor type c)).map (·.id) = (s.rulesFor type c).map (·.id)) :
    s.perform E op = s := by
  rw [M.performs]
  split
  · rfl
  · next some => rw [reorder, M.order, fixed, h.number_eq_self, settled.resolve_left some]

/-- Once the rules of a form have come to rest, a further move changes nothing in the rule set. Only
the first move may settle other forms. -/
theorem run_stays (h : WellKept s) {n : Nat} {rest : List Rule}
    (rests : ∀ k, n ≤ k → M.shift^[k] (s.rulesFor type c) = rest) {k : Nat} (enough : n ≤ k)
    (moved : 0 < k) (more : Nat) :
    s.run E (List.replicate (k + more) op) = s.run E (List.replicate k op) := by
  have fixed : M.shift rest = rest := by
    calc M.shift rest
      _ = M.shift (M.shift^[k] (s.rulesFor type c)) := by rw [rests k enough]
      _ = M.shift^[k + 1] (s.rulesFor type c) := (Function.iterate_succ_apply' ..).symm
      _ = rest := rests (k + 1) (Nat.le_succ_of_le enough)
  have still : (s.run E (List.replicate k op)).perform E op = s.run E (List.replicate k op) := by
    refine M.perform_eq_self E ((run_change E s _).wellKept h) ?_ (map_id_congr ?_)
    · obtain ⟨k, rfl⟩ := Nat.exists_eq_succ_of_ne_zero moved.ne'
      rw [run_replicate, Function.iterate_succ_apply']
      exact M.settled_perform E _
    · rw [M.rulesFor_replicate E h, rests k enough, M.blind, map_unnumbered_numberFrom, ← M.blind,
        fixed]
  rw [List.replicate_add, run_append, run_replicate E _ op more]
  exact Function.iterate_fixed still more

end Moving

variable (E : Pattern.Engine)

/-- **Moving shifts the selected rules by one place, all at once.** After moving up, each selected
rule that had a rule above it which is not selected stands one place higher, the others that are
selected stand where they stood, and those that are not selected have kept their order; moving down
does the same to the form turned upside down. Nothing but the numbers of the rules has changed, and
they go from one on again. Moving up is going through the places of the form from the top and
exchanging neighbours, moving down from the bottom, and the second is the mirror image of the first.
Unless the first rule is selected, moving down takes back what moving up has done. -/
theorem moves_shift_unblocked (ops : List Operation) (type : Id) (c : Combination)
    (ids : List Nat) :
    let s := empty.run E ops
    let before := (s.rulesFor type c).map Rule.unnumbered
    let up := (s.moveUp type c ids).rulesFor type c
    let down := (s.moveDown type c ids).rulesFor type c
    (Raised (isAmong ids) before (up.map Rule.unnumbered) ∧
        Raised (isAmong ids) before.reverse (down.map Rule.unnumbered).reverse) ∧
      (up.map (·.index) = List.range' 1 before.length ∧
        down.map (·.index) = List.range' 1 before.length) ∧
      (up.map Rule.unnumbered = climb (isAmong ids) before ∧
        down.map Rule.unnumbered = sink (isAmong ids) before ∧
        sink (isAmong ids) before = (climb (isAmong ids) before.reverse).reverse) ∧
      ((∀ r, before.head? = some r → isAmong ids r = false) →
        ((s.moveUp type c ids).moveDown type c ids).rulesFor type c = s.rulesFor type c) := by
  intro s before up down
  have kept : WellKept s := wellKept_run E ops
  have up_eq : up = numberFrom 0 (liftSelected (isAmong ids) (s.rulesFor type c)) :=
    (movingUp type c ids).rulesFor_perform E kept
  have down_eq : down = numberFrom 0 (lowerSelected (isAmong ids) (s.rulesFor type c)) :=
    (movingDown type c ids).rulesFor_perform E kept
  have raised : up.map Rule.unnumbered = liftSelected (isAmong ids) before := by
    rw [up_eq, map_unnumbered_numberFrom]
    exact (movingUp type c ids).blind _
  have lowered : down.map Rule.unnumbered = lowerSelected (isAmong ids) before := by
    rw [down_eq, map_unnumbered_numberFrom]
    exact (movingDown type c ids).blind _
  refine ⟨⟨?_, ?_⟩, ⟨?_, ?_⟩, ⟨?_, ?_, ?_⟩, fun free => ?_⟩
  · rw [raised]
    exact raised_liftSelected before
  · rw [lowered]
    exact raised_lowerSelected before
  · rw [up_eq, map_index_numberFrom, (liftSelected_perm _).length_eq, List.length_map]
  · rw [down_eq, map_index_numberFrom, (lowerSelected_perm _).length_eq, List.length_map]
  · rw [raised, climb_eq]
  · rw [lowered, sink_eq]
  · rw [sink_eq, climb_eq, lowerSelected]
  · have kept' : WellKept (s.moveUp type c ids) := wellKept_perform E kept (.moveUp type c ids)
    have back : (lowerSelected (isAmong ids) up).map Rule.unnumbered =
        (s.rulesFor type c).map Rule.unnumbered := by
      refine ((movingDown type c ids).blind up).trans ?_
      rw [raised]
      exact lowerSelected_liftSelected free
    calc ((s.moveUp type c ids).moveDown type c ids).rulesFor type c
      _ = numberFrom 0 (lowerSelected (isAmong ids) up) :=
        (movingDown type c ids).rulesFor_perform E kept'
      _ = numberFrom 0 (s.rulesFor type c) := numberFrom_congr back 0
      _ = s.rulesFor type c := kept.numberFrom_rulesFor type c

/-- The second and the third of three rules pass the first, and come back behind it. No rule has the
id 9. -/
theorem moves_shift_unblocked_pair :
    let E := Pattern.Engine.standard ⟨1000000, 10485760⟩
    let c : Combination := .ofForm 7
    let s := empty.run E [.add 1 c {}, .add 1 c {}, .add 1 c {}]
    ((s.moveUp 1 c [3, 9, 2]).rulesFor 1 c).map (·.id) = [2, 3, 1] ∧
      ((s.moveUp 1 c [3, 9, 2]).moveDown 1 c [3, 9, 2]).rulesFor 1 c = s.rulesFor 1 c := by
  intro E c s
  obtain ⟨-, -, ⟨climbed, -⟩, back⟩ :=
    moves_shift_unblocked E [.add 1 c {}, .add 1 c {}, .add 1 c {}] 1 c [3, 9, 2]
  have order := congrArg (List.map (·.id)) climbed
  rw [List.map_map, climb_eq] at order
  constructor
  · exact order.trans (by rfl)
  · refine back fun r first => ?_
    cases first
    rfl

/-- **Moving the same rules again and again gathers them at one end.** After as many moves up as the
form has rules, or more, the selected rules stand first and the others behind them, each in the
order in which they were, and numbered from one; after as many moves down they stand last. From then
on a move changes nothing at all. -/
theorem moves_gather_selection (ops : List Operation) (type : Id) (c : Combination)
    (ids : List Nat) :
    let s := empty.run E ops
    let before := s.rulesFor type c
    let chosen := before.filter (isAmong ids)
    let others := before.filter (!isAmong ids ·)
    let up (k : Nat) := s.run E (List.replicate k (.moveUp type c ids))
    let down (k : Nat) := s.run E (List.replicate k (.moveDown type c ids))
    (∀ k, before.length ≤ k →
      (up k).rulesFor type c = numberFrom 0 (chosen ++ others) ∧
        (down k).rulesFor type c = numberFrom 0 (others ++ chosen)) ∧
      ∀ k, before.length ≤ k → 0 < k → ∀ more, up (k + more) = up k ∧ down (k + more) = down k := by
  intro s before chosen others up down
  have kept : WellKept s := wellKept_run E ops
  have lifted (k : Nat) (enough : before.length ≤ k) :
      (liftSelected (isAmong ids))^[k] before = chosen ++ others :=
    iterate_liftSelected (List.countP_le_length.trans enough)
  have lowered (k : Nat) (enough : before.length ≤ k) :
      (lowerSelected (isAmong ids))^[k] before = others ++ chosen :=
    iterate_lowerSelected (List.countP_le_length.trans enough)
  refine ⟨fun k enough => ⟨?_, ?_⟩, fun k enough moved more => ⟨?_, ?_⟩⟩
  · rw [← lifted k enough]
    exact (movingUp type c ids).rulesFor_replicate E kept k
  · rw [← lowered k enough]
    exact (movingDown type c ids).rulesFor_replicate E kept k
  · exact (movingUp type c ids).run_stays E kept lifted enough moved more
  · exact (movingDown type c ids).run_stays E kept lowered enough moved more

/-- The last of three rules gets to the top in two moves, and a fourth move is for nothing. -/
theorem moves_gather_selection_last :
    let E := Pattern.Engine.standard ⟨1000000, 10485760⟩
    let c : Combination := .ofForm 7
    let s := empty.run E [.add 1 c {}, .add 1 c {}, .add 1 c {}]
    let up (k : Nat) := s.run E (List.replicate k (.moveUp 1 c [3]))
    ((up 3).rulesFor 1 c).map (fun r => (r.id, r.index)) = [(3, 1), (1, 2), (2, 3)] ∧
      up 4 = up 3 := by
  intro E c s up
  obtain ⟨gathered, stays⟩ :=
    moves_gather_selection E [.add 1 c {}, .add 1 c {}, .add 1 c {}] 1 c [3]
  refine ⟨?_, (stays 3 (Nat.le_refl 3) (by decide) 1).1⟩
  rw [(gathered 3 (Nat.le_refl 3)).1]
  rfl

end Conlang.RuleSet
