import Conlang.Proofs.RuleSet.Change

/-! Rule sets in the course of their history.

Whatever has been asked of a rule set that was empty once, in whatever order, its forms are in order
(`wellKept_run`), and an id that a rule had once is never given to another (`run_keeps_order`). -/
namespace Conlang.RuleSet

variable (E : Pattern.Engine)

theorem wellKept_perform {s : RuleSet} (h : WellKept s) (op : Operation) :
    WellKept (s.perform E op) :=
  (perform_change E s op).wellKept h

theorem run_change (s : RuleSet) (ops : List Operation) :
    Change (fun _ _ => True) s (s.run E ops) := by
  induction ops generalizing s with
  | nil => exact .keep rfl rfl
  | cons op rest ih => exact ((perform_change E s op).mono fun _ _ _ => trivial).trans (ih _)

theorem wellKept_run (ops : List Operation) : WellKept (empty.run E ops) :=
  (run_change E empty ops).wellKept wellKept_empty

/-- An id that has been given out and has no rule any more is not given out again. -/
theorem id_stays_gone {s : RuleSet} {id : Nat} (issued : id ≤ s.lastRule)
    (gone : id ∉ s.rules.map (·.id)) (ops : List Operation) :
    id ∉ (s.run E ops).rules.map (·.id) := by
  intro back
  rcases (run_change E s ops).id_mem_or_lt id back with there | new
  · exact gone there
  · exact absurd issued (Nat.not_le_of_lt new)

/-- **Rules stay in order through every history.** No two rules share an id; every id that a rule
has or had is behind the counter, and once it is gone no rule ever has it again; a rule is listed
under its own part of speech and no other; and the rules of each form are kept in the order in which
they apply, numbered from one without a gap. -/
theorem run_keeps_order (ops : List Operation) :
    let s := empty.run E ops
    (s.rules.map (·.id)).Nodup ∧
      (∀ r ∈ s.rules, r.id ≤ s.lastRule) ∧
      (∀ earlier later, ops = earlier ++ later → ∀ r ∈ (empty.run E earlier).rules,
        r.id < s.nextRule ∧
          (r.id ∉ s.rules.map (·.id) → ∀ more, r.id ∉ (s.run E more).rules.map (·.id))) ∧
      (∀ type r, r ∈ s.rulesOf type ↔ r ∈ s.rules ∧ r.type = type) ∧
      ∀ type c,
        (s.rulesFor type c).map (·.index) = List.range' 1 (s.rulesFor type c).length ∧
          s.rulesFor type c = (s.rulesOf type).filter (·.combination == c) := by
  intro s
  have kept : WellKept s := wellKept_run E ops
  refine ⟨kept.distinct, kept.issued, ?_, fun type r => by simp [rulesOf], fun type c => ?_⟩
  · intro earlier later hops r hr
    have continued : s = (empty.run E earlier).run E later := by rw [← run_append, ← hops]
    have behind : r.id ≤ s.lastRule := by
      rw [continued]
      exact Nat.le_trans ((wellKept_run E earlier).issued r hr) (run_change E _ later).lastRule_le
    exact ⟨Nat.lt_succ_of_le behind, fun gone more => id_stays_gone E behind gone more⟩
  · rw [kept.rulesFor_eq]
    exact ⟨kept.numbered type c, rfl⟩

/-- Numbers close up behind a rule that is deleted, ids do not. -/
example (c : RuleContent) :
    ((empty.run E [.add 1 (.ofForm 1) c, .add 1 (.ofForm 1) c, .deleteRule 1,
      .add 1 (.ofForm 1) c]).rules.map
      fun r => (r.id, r.index)) = [(2, 1), (3, 2)] := rfl

end Conlang.RuleSet
