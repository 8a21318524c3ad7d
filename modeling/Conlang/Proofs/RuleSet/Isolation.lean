import Conlang.Inflection.Declension
import Conlang.Proofs.RuleSet.History

/-! Operations leave other forms alone.

Many operations settle a whole part of speech, or all of them, for the sake of one form. In a rule
set that has come about by operations the other forms do not notice: they keep their rules, and
words keep their forms. -/
namespace Conlang.RuleSet

variable (E : Pattern.Engine)

theorem WellKept.rulesFor_perform {s : RuleSet} (h : WellKept s) {op : Operation} {type : Id}
    {c : Combination} (elsewhere : ¬op.Addresses s type c) :
    (s.perform E op).rulesFor type c = s.rulesFor type c := by
  rw [rulesFor_eq_sortBy, rulesFor_eq_sortBy,
    (perform_change E s op).bucket_eq_of_not_touched h elsewhere]

/-- Forming a word asks the rule set for the rules of one form only. -/
theorem decline_congr {s s' : RuleSet} {l : Lexicon} {word : Id} {w : Word} {c : Combination}
    (found : l.word? word = some w) (same : s'.rulesFor w.type c = s.rulesFor w.type c) :
    s'.decline E l word c = s.decline E l word c := by
  simp only [decline, declineTraced, Lexicon.declinable, found]
  split <;> simp [Bind.bind, Except.bind, same]

/-- **An operation leaves alone every form that it does not address**: the form has the same rules
as before, with the same ids, numbers and contents, in the same order, and every word of the part of
speech takes the same form, with the same diagnostics and the same trace. -/
theorem perform_keeps_other_forms (ops : List Operation) (op : Operation) (type : Id)
    (c : Combination) (elsewhere : ¬op.Addresses (empty.run E ops) type c) :
    ((empty.run E ops).perform E op).rulesFor type c = (empty.run E ops).rulesFor type c ∧
      ∀ (l : Lexicon) (word : Id) (w : Word), l.word? word = some w → w.type = type →
        ((empty.run E ops).perform E op).decline E l word c =
          (empty.run E ops).decline E l word c := by
  have same := (wellKept_run E ops).rulesFor_perform E elsewhere
  refine ⟨same, fun l word w found ofType => ?_⟩
  subst ofType
  exact decline_congr E found same

/-- Deleting the first of two rules of a form numbers the other one anew and moves the rules of the
form beside it, which stay the same. -/
theorem perform_keeps_other_forms_deleteRule :
    let E := Pattern.Engine.standard ⟨1000000, 10485760⟩
    let s :=
      empty.run E [.add 1 (.ofValues [1]) {}, .add 1 (.ofValues [2]) {}, .add 1 (.ofValues [1]) {}]
    ¬(Operation.deleteRule 1).Addresses s 1 (.ofValues [2]) ∧
      (s.perform E (.deleteRule 1)).rulesFor 1 (.ofValues [2]) = s.rulesFor 1 (.ofValues [2]) ∧
        ∀ (l : Lexicon) (word : Id) (w : Word), l.word? word = some w → w.type = 1 →
          (s.perform E (.deleteRule 1)).decline E l word (.ofValues [2]) =
          s.decline E l word (.ofValues [2]) := by
  intro E s
  have elsewhere : ¬(Operation.deleteRule 1).Addresses s 1 (.ofValues [2]) := by
    show ¬∃ r ∈ s.rules, r.id ∈ [1] ∧ r.type = 1 ∧ r.combination = .ofValues [2]
    decide
  exact ⟨elsewhere, perform_keeps_other_forms E _ _ _ _ elsewhere⟩

end Conlang.RuleSet
