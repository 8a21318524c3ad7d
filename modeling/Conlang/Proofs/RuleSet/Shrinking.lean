import Conlang.Proofs.RuleSet.Cascade

/-! Dimensions and values that are taken away.

Whatever hangs on a value goes with it, in every spelling, and whatever hangs on a dimension as well
(`shrinking_cascades`). A value id may be given out again later. By then a dimension may stand in
another slot, but only when no cell that was there before is left: a dimension keeps its slot as
long as any cell of its part of speech is in use (`slot_run`). So what has outlived a value is never
taken for its successor's. -/
namespace Conlang.RuleSet

variable (E : Pattern.Engine)

/-! ### Slots -/

/-- An operation leaves a dimension in its slot, or it leaves no cell. -/
theorem slot_perform {s : RuleSet} (h : WellKept s) (op : Operation) {t dimension : Id} {slot : Nat}
    (placed : (s.paradigm t).slot? dimension = some slot) :
    ((s.perform E op).paradigm t).slot? dimension = some slot ∨
      ∀ c, c.isCell = true → ¬(s.perform E op).InUse t c := by
  rcases (perform_reshape E s op t).slot?_eq placed with stays | rebuilt
  · exact .inl stays
  · cases op with
    | deleteDimension type d =>
      obtain rfl : t = type := rebuilt
      rw [perform]
      cases deleted : s.deleteDimension t d with
      | error fault => exact .inl placed
      | ok result =>
        obtain ⟨n, s'⟩ := result
        obtain ⟨cascade, -⟩ := deleteDimension_cascade h deleted
        exact .inr fun c cell used => ((cascade.inUse_iff t c).mp used).2 ⟨rfl, cell⟩
    | clearType type =>
      obtain rfl : t = type := rebuilt
      refine .inr fun c _ used => ?_
      rcases used with ⟨r, hr, ofType, -⟩ | hidden
      · exact absurd ofType (by simpa using (List.mem_filter.mp hr).2)
      · exact ((Suppression.contains_release s.suppressed t t _ c).mp hidden).2 ⟨rfl, rfl⟩
    | _ => exact False.elim rebuilt

/-- An operation that does not rebuild the grid leaves every dimension in its slot. -/
theorem slot_of_performed {s s' : RuleSet} {op : Operation} (performed : s.perform E op = s')
    {t dimension : Id} {slot : Nat} (placed : (s.paradigm t).slot? dimension = some slot)
    (spared : ¬op.Rebuilds t) :
    (s'.paradigm t).slot? dimension = some slot :=
  performed ▸ ((perform_reshape E s op t).slot?_eq placed).resolve_right spared

/-- A dimension keeps its slot as long as a cell is in use. -/
theorem slot_run {s : RuleSet} (h : WellKept s) {t dimension : Id} {slot : Nat}
    (placed : (s.paradigm t).slot? dimension = some slot) {c : Combination} (cell : c.isCell = true)
    (ops : List Operation) (used : ∀ earlier later, ops = earlier ++ later →
      (s.run E earlier).InUse t c) :
    ((s.run E ops).paradigm t).slot? dimension = some slot := by
  induction ops generalizing s with
  | nil => exact placed
  | cons op rest ih =>
    have still : (s.perform E op).InUse t c := used [op] rest rfl
    have next := (slot_perform E h op placed).resolve_right fun unused => unused c cell still
    refine ih (wellKept_perform E h op) next fun earlier later eq => ?_
    exact used (op :: earlier) later (by rw [eq]; rfl)

/-- A rule whose id was given out before a history has been there all along, for the same form. -/
theorem inUse_of_old_id {s : RuleSet} (ops : List Operation) {r : Rule}
    (hr : r ∈ (s.run E ops).rules) (old : r.id ≤ s.lastRule) {earlier later : List Operation}
    (split : ops = earlier ++ later) :
    (s.run E earlier).InUse r.type r.combination := by
  rw [split, run_append] at hr
  rcases (run_change E (s.run E earlier) later).origin r hr with ⟨r', hr', same⟩ | new
  · exact .inl ⟨r', hr', same.type, same.combination⟩
  · exact absurd (Nat.le_trans old (run_change E s earlier).lastRule_le) (Nat.not_le_of_lt new)

/-! ### Values that come back -/

/-- What has been in use since a value was not in its slot does not have the value when its id is
given out again. -/
theorem lacks_returned_value {s s' : RuleSet} (h : WellKept s) {type dimension value : Id}
    {slot : Nat} (placed : (s.paradigm type).slot? dimension = some slot) {c : Combination}
    (lacks : c.valueAt? slot ≠ some value) {ops : List Operation} {label : String}
    (used : ∀ earlier later, ops = earlier ++ later → (s.run E earlier).InUse type c)
    (added : (s.run E ops).addValue type dimension label = .ok (value, s')) :
    ¬s'.HasValue type dimension value c := by
  rintro ⟨p, slot', known, placed', has⟩
  have before := slot_run E h placed (Combination.isCell_of_valueAt? has) ops used
  have performed : (s.run E ops).perform E (.addValue type dimension label) = s' := by
    rw [perform, added]
    rfl
  have after : (s'.paradigm type).slot? dimension = some slot :=
    slot_of_performed E performed before id
  rw [paradigm_eq known, placed'] at after
  cases after
  exact lacks has

/-- Where nothing in use has the value, no rule and no hidden form has it when its id is given out,
except those that came in the meantime. -/
theorem survivors_lack_returned_value {s s' : RuleSet} (h : WellKept s) {type dimension value : Id}
    {slot : Nat} (placed : (s.paradigm type).slot? dimension = some slot)
    (lacks : ∀ c, s.InUse type c → c.valueAt? slot ≠ some value) {ops : List Operation}
    {label : String} (added : (s.run E ops).addValue type dimension label = .ok (value, s')) :
    (∀ r ∈ s'.rules, r.type = type → r.id ∈ s.rules.map (·.id) →
      ¬s'.HasValue type dimension value r.combination) ∧
      ∀ c,
        (∀ earlier later, ops = earlier ++ later → (s.run E earlier).isSuppressed type c = true) →
        ¬s'.HasValue type dimension value c := by
  refine ⟨fun r hr ofType old => ?_, fun c hidden => ?_⟩
  · subst ofType
    have ran : s.run E (ops ++ [.addValue r.type dimension label]) = s' := by
      rw [run_append, run, perform, added]
      rfl
    have issued : r.id ≤ s.lastRule := by
      obtain ⟨r', hr', eq⟩ := List.mem_map.mp old
      exact eq ▸ h.issued r' hr'
    have used : ∀ earlier later, ops = earlier ++ later →
        (s.run E earlier).InUse r.type r.combination := by
      rintro earlier later rfl
      exact inUse_of_old_id E _ (ran ▸ hr) issued (List.append_assoc ..)
    exact lacks_returned_value E h placed (lacks _ (used [] ops rfl)) used added
  · have used : ∀ earlier later, ops = earlier ++ later → (s.run E earlier).InUse type c :=
      fun earlier later eq => .inr (hidden earlier later eq)
    exact lacks_returned_value E h placed (lacks c (used [] ops rfl)) used added

/-- **What a paradigm loses takes with it exactly what hung on it.** With a value go the rules and
the hidden forms of its part of speech that are cells and have the value in the slot of its
dimension; with a dimension go all cells. What is left is still declared if it was before. And when
the id of a value is given out again, at once or after any other operations, nothing that outlived
the first value has that id in the slot of the dimension: no rule, and no form that has been hidden
all the time. -/
theorem shrinking_cascades (ops : List Operation) (type dimension : Id) :
    let s := empty.run E ops
    (∀ value n s', s.deleteValue type dimension value = .ok (n, s') →
      (∃ slot, (s.paradigm type).slot? dimension = some slot ∧
        Cascade s s' type (fun c => c.isCell && c.valueAt? slot == some value) n) ∧
      (∀ c, s'.InUse type c → (s.paradigm type).declares c = true →
        (s'.paradigm type).declares c = true) ∧
      ∀ more label s'', (s'.run E more).addValue type dimension label = .ok (value, s'') →
        (∀ r ∈ s''.rules, r.type = type → r.id ∈ s'.rules.map (·.id) →
          ¬s''.HasValue type dimension value r.combination) ∧
        ∀ c, (∀ earlier later, more = earlier ++ later →
          (s'.run E earlier).isSuppressed type c = true) →
          ¬s''.HasValue type dimension value c) ∧
    ∀ n s', s.deleteDimension type dimension = .ok (n, s') →
      Cascade s s' type (·.isCell) n ∧
        ∀ c, s'.InUse type c → (s.paradigm type).declares c = true →
          (s'.paradigm type).declares c = true := by
  intro s
  have kept : WellKept s := wellKept_run E ops
  constructor
  · intro value n s' deleted
    obtain ⟨slot, placed, cascade, declared⟩ := deleteValue_cascade kept deleted
    have performed : s.perform E (.deleteValue type dimension value) = s' := by
      rw [perform, deleted]
      rfl
    have kept' : WellKept s' := performed ▸ wellKept_perform E kept _
    have placed' : (s'.paradigm type).slot? dimension = some slot :=
      slot_of_performed E performed placed id
    have lacks (c : Combination) (used : s'.InUse type c) : c.valueAt? slot ≠ some value := by
      intro has
      exact ((cascade.inUse_iff type c).mp used).2
        ⟨rfl, by simp [Combination.isCell_of_valueAt? has, has]⟩
    refine ⟨⟨slot, placed, cascade⟩, fun c used known => (declared c).mpr ⟨known, lacks c used⟩, ?_⟩
    exact fun more label s'' added => survivors_lack_returned_value E kept' placed' lacks added
  · intro n s' deleted
    obtain ⟨cascade, declared⟩ := deleteDimension_cascade kept deleted
    refine ⟨cascade, fun c used known => ?_⟩
    have extra : c.isCell = false := by
      cases cell : c.isCell
      · rfl
      · exact absurd ⟨rfl, cell⟩ ((cascade.inUse_iff type c).mp used).2
    rw [declared c extra]
    exact known

/-- The plural goes with both of its rules, however they spell it, and its id is given to the next
value. -/
theorem shrinking_cascades_plural :
    let E := Pattern.Engine.standard ⟨1000000, 10485760⟩
    let ops : List Operation := [.insertDimension 1 ⟨1, "number", [⟨1, "singular"⟩, ⟨2, "plural"⟩]⟩,
      .add 1 (.ofValues [1]) {}, .add 1 (.ofValues [2]) {},
      .add 1 (.cell [⟨['0', '2'], 2, rfl⟩]) {}]
    let s := empty.run E ops
    ∃ s' s'', s.deleteValue 1 1 2 = .ok (2, s') ∧ s'.addValue 1 1 "dual" = .ok (2, s'') ∧
      Cascade s s' 1 (fun c => c.isCell && c.valueAt? 0 == some 2) 2 ∧
      (∀ r ∈ s''.rules, r.type = 1 → r.id ∈ s'.rules.map (·.id) →
        ¬s''.HasValue 1 1 2 r.combination) ∧
      ∃ s₀, s.deleteDimension 1 1 = .ok (3, s₀) ∧ Cascade s s₀ 1 (·.isCell) 3 := by
  intro E ops s
  have deleted : s.deleteValue 1 1 2 = .ok (2, s.perform E (.deleteValue 1 1 2)) := rfl
  have added : (s.perform E (.deleteValue 1 1 2)).addValue 1 1 "dual" =
      .ok (2, (s.perform E (.deleteValue 1 1 2)).perform E (.addValue 1 1 "dual")) := rfl
  have dropped : s.deleteDimension 1 1 = .ok (3, s.perform E (.deleteDimension 1 1)) := rfl
  obtain ⟨byValue, byDimension⟩ := shrinking_cascades E ops 1 1
  obtain ⟨⟨slot, placed, cascade⟩, -, later⟩ := byValue 2 2 _ deleted
  obtain rfl : slot = 0 := (Option.some.inj placed).symm
  exact ⟨_, _, deleted, added, cascade, (later [] "dual" _ added).1, _, dropped,
    (byDimension 3 _ dropped).1⟩

end Conlang.RuleSet
