import Conlang.Proofs.Sound.Rescanning

/-! When the report of passes that have been used up is right.

A word settles with a pass when that pass changes it and the next one would not. The report comes
where it has not settled before the last pass that is allowed, so it is right unless the word
settles with just that one (`limit_accurate_iff`): no pass is left then that could find out. -/
namespace Conlang.Phonology
open Declension (rewrite)

/-- The first `n` passes each change the word, and another one would not. -/
structure SettlesWith (pass : String → String) (n : Nat) (value : String) : Prop where
  settled : pass^[n + 1] value = pass^[n] value
  changing : ∀ k < n, pass^[k + 1] value ≠ pass^[k] value

/-- Going over the rules has ended with the report that the passes have been used up. -/
def Warned (word : String) (cap : Nat) (q q' : Progress) : Prop :=
  q'.limits = q.limits ++ [.stillChanging word cap]

section
variable {pass : String → String} {cap : Nat} {word : String} {q q' : Progress}

/-- Either a word settles before a number of passes, or each of them changes it. -/
theorem settles_or_changing (pass : String → String) (value : String) (cap : Nat) :
    (∃ k < cap, SettlesWith pass k value) ∨ ∀ k < cap, pass^[k + 1] value ≠ pass^[k] value := by
  induction cap with
  | zero => exact .inr nofun
  | succ cap ih =>
    rcases ih with ⟨k, lt, settles⟩ | changing
    · exact .inl ⟨k, Nat.lt_succ_of_lt lt, settles⟩
    · by_cases settled : pass^[cap + 1] value = pass^[cap] value
      · exact .inl ⟨cap, Nat.lt_succ_self cap, settled, changing⟩
      · refine .inr fun k lt => ?_
        rcases Nat.lt_succ_iff_lt_or_eq.mp lt with lt | rfl
        · exact changing k lt
        · exact settled

theorem not_warned_of_eq (same : q'.limits = q.limits) : ¬ Warned word cap q q' := by
  rw [Warned, same]
  simp

namespace Rescanned

variable (h : Rescanned pass cap word q q')

include h

/-- There is one report or none, and none just where the word settles in time. -/
theorem warned_or_settles :
    Warned word cap q q' ∨ q'.limits = q.limits ∧ ∃ k < cap, SettlesWith pass k q.value := by
  rcases settles_or_changing pass q.value cap with ⟨k, lt, settles⟩ | changing
  · exact .inr ⟨(h.stable k lt settles.settled settles.changing).2, k, lt, settles⟩
  · exact .inl (h.limited changing).2

theorem changing_of_warned (warned : Warned word cap q q') (k : Nat) (lt : k < cap) :
    pass^[k + 1] q.value ≠ pass^[k] q.value := by
  rcases settles_or_changing pass q.value cap with ⟨j, within, settles⟩ | changing
  · exact absurd warned (not_warned_of_eq (h.stable j within settles.settled settles.changing).2)
  · exact changing k lt

/-- A word that another pass would change has been reported. -/
theorem warned_of_changes (changes : pass q'.value ≠ q'.value) : Warned word cap q q' := by
  rcases h.warned_or_settles with warned | ⟨quiet, -⟩
  · exact warned
  · exact absurd (h.fixed quiet) changes

/-- A word that has been reported is left alone by another pass just where it settles with the last
one. -/
theorem stable_iff_of_warned (warned : Warned word cap q q') :
    pass q'.value = q'.value ↔ SettlesWith pass cap q.value := by
  have changing := h.changing_of_warned warned
  rw [(h.limited changing).1, ← Function.iterate_succ_apply' pass]
  exact ⟨fun settled => ⟨settled, changing⟩, SettlesWith.settled⟩

end Rescanned

end

/-- **The report of used up passes is right unless the word settles with the last of them.** Going
over the rules ends with one such report or with none, and a word that another pass would change is
never without it. So a report that is wrong has come although another pass would change nothing, and
this happens just where the last pass that is allowed is the first one behind which the rules have
nothing left to change. -/
theorem limit_accurate_iff (E : Pattern.Engine) (p : Phonology) (word : String) (cap : Nat)
    (q : Progress) :
    let q' := p.rescan E word cap cap q
    let warned := Warned word cap q q'
    let changes := p.passOver E q'.value ≠ q'.value
    (warned ∨ q'.limits = q.limits) ∧ (changes → warned) ∧
      ((warned ↔ changes) ↔ ¬ SettlesWith (p.passOver E) cap q.value) := by
  intro q' warned changes
  have rescanned : Rescanned (p.passOver E) cap word q q' := rescan_rescanned word cap q
  refine ⟨rescanned.warned_or_settles.imp_right And.left, rescanned.warned_of_changes, ?_⟩
  constructor
  · intro accurate settles
    have reported : warned := (rescanned.limited settles.changing).2
    exact accurate.mp reported ((rescanned.stable_iff_of_warned reported).mpr settles)
  · intro unsettled
    refine ⟨fun reported stable => ?_, rescanned.warned_of_changes⟩
    exact unsettled ((rescanned.stable_iff_of_warned reported).mp stable)

/-- Behind a "b" the rule makes one more "a" a "b" in each pass, and two passes are enough for two
of them. -/
theorem warned_though_settled :
    let E := Settings.standard.engine
    let p : Phonology := { rules := [.ofTexts "(?<=b)a" "b"], recursion := true }
    let q : Progress := ⟨"bbaa", []⟩
    let q' := p.rescan E "baaa" 2 2 q
    p.literal = false ∧ p.transform E 2 "baaa" = q' ∧ Warned "baaa" 2 q q' ∧ q'.value = "bbbb" ∧
      p.passOver E q'.value = q'.value := by
  intro E p q q'
  exact ⟨rfl, by decide +kernel, by rw [Warned]; decide +kernel, by decide +kernel,
    by decide +kernel⟩

end Conlang.Phonology
