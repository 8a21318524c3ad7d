import Conlang.Proofs.RuleSet.History
import Conlang.Proofs.RuleSet.Paradigms

/-! Taking forms away from a part of speech.

When a paradigm loses something, forms go with it. A `Cascade` says that exactly the chosen forms of
a part of speech have gone, with their rules and hidden or not, and that nothing else has changed;
what a paradigm loses takes a cascade with it (`deleteValue_cascade`, `deleteDimension_cascade`,
`deleteExtra_cascade`). The cascade of an extra form is the one that goes by spelling.
`deleteExtra_complete_iff` says when that is enough. -/
namespace Conlang
open Std

theorem Suppression.contains_release (s : Suppression) (type t : Id) (chosen : Combination → Bool)
    (c : Combination) :
    (s.release type chosen).contains t c = true ↔ s.contains t c = true ∧
    ¬(t = type ∧ chosen c = true) := by
  rw [contains, contains, release, ExtTreeSet.contains_iff_mem, ExtTreeSet.contains_iff_mem,
    ExtTreeSet.mem_filter]
  simp only [ExtTreeSet.get_eq, exists_prop, Bool.or_eq_true, bne_iff_ne, Bool.not_eq_true']
  refine and_congr_right fun _ => ?_
  by_cases same : t = type <;> simp [same]

namespace RuleSet

/-- The form has a rule, or is hidden. -/
def InUse (s : RuleSet) (type : Id) (c : Combination) : Prop :=
  (∃ r ∈ s.rules, r.type = type ∧ r.combination = c) ∨ s.isSuppressed type c = true

/-- The forms of a part of speech that are `gone` have gone, with all their rules, which are `n`;
everything else is as it was. -/
structure Cascade (s s' : RuleSet) (type : Id) (gone : Combination → Bool) (n : Nat) : Prop where
  mem_rules : ∀ r, r ∈ s'.rules ↔ r ∈ s.rules ∧ ¬(r.type = type ∧ gone r.combination = true)
  hidden : ∀ t c, s'.isSuppressed t c = true ↔ s.isSuppressed t c = true ∧
    ¬(t = type ∧ gone c = true)
  counted : n = (s.rulesOf type).countP (gone ·.combination)
  removed : s'.rules.length + n = s.rules.length
  rulesFor : ∀ t c, ¬(t = type ∧ gone c = true) → s'.rulesFor t c = s.rulesFor t c
  others : ∀ t, t ≠ type → s'.rulesOf t = s.rulesOf t ∧ s'.paradigm? t = s.paradigm? t

namespace Cascade
variable {s s' : RuleSet} {type : Id} {gone gone' : Combination → Bool} {n : Nat}

theorem inUse_iff (h : Cascade s s' type gone n) (t : Id) (c : Combination) :
    s'.InUse t c ↔ s.InUse t c ∧ ¬(t = type ∧ gone c = true) := by
  simp only [InUse, h.hidden, h.mem_rules]
  constructor
  · rintro (⟨r, ⟨mem, stays⟩, rfl, rfl⟩ | ⟨hidden, stays⟩)
    · exact ⟨.inl ⟨r, mem, rfl, rfl⟩, stays⟩
    · exact ⟨.inr hidden, stays⟩
  · rintro ⟨⟨r, mem, rfl, rfl⟩ | hidden, stays⟩
    · exact .inl ⟨r, ⟨mem, stays⟩, rfl, rfl⟩
    · exact .inr ⟨hidden, stays⟩

/-- Only forms that are in use count. -/
theorem congr (h : Cascade s s' type gone n) (same : ∀ c, s.InUse type c → gone' c = gone c) :
    Cascade s s' type gone' n := by
  have rule (r : Rule) (hr : r ∈ s.rules) (ofType : r.type = type) : gone' r.combination =
      gone r.combination :=
    same _ (.inl ⟨r, hr, ofType, rfl⟩)
  refine ⟨fun r => ?_, fun t c => ?_, ?_, h.removed, fun t c stays => ?_, h.others⟩
  · rw [h.mem_rules]
    refine and_congr_right fun hr => not_congr (and_congr_right fun ofType => ?_)
    rw [rule r hr ofType]
  · rw [h.hidden]
    refine and_congr_right fun hidden => not_congr (and_congr_right fun ofType => ?_)
    subst ofType
    rw [same c (.inr hidden)]
  · rw [h.counted]
    refine List.countP_congr fun r hr => ?_
    simp only [rulesOf, List.mem_filter, beq_iff_eq] at hr
    rw [rule r hr.1 hr.2]
  · by_cases went : t = type ∧ gone c = true
    · -- a form that goes although it may stay has no rules to lose
      obtain ⟨rfl, going⟩ := went
      have unused : ∀ r ∈ s.rules, ¬(r.type = t ∧ r.combination = c) := by
        rintro r hr ⟨ofType, rfl⟩
        exact stays ⟨rfl, (rule r hr ofType).trans going⟩
      have none : s.bucket t c = [] := List.eq_nil_iff_forall_not_mem.mpr fun r hr => by
        obtain ⟨mem, place⟩ := mem_bucket.mp hr
        exact unused r mem place
      have none' : s'.bucket t c = [] := List.eq_nil_iff_forall_not_mem.mpr fun r hr => by
        obtain ⟨mem, place⟩ := mem_bucket.mp hr
        exact unused r ((h.mem_rules r).mp mem).1 place
      rw [rulesFor_eq_sortBy, rulesFor_eq_sortBy, none, none']
    · exact h.rulesFor t c went

end Cascade

/-! ### Dropping forms -/

/-- A form goes as a whole or stays as it is, so what stays needs no new numbers. -/
theorem WellKept.bucket_dropForms {s : RuleSet} (h : WellKept s) (type t : Id)
    (chosen : Combination → Bool) (c : Combination) :
    (s.dropForms type chosen).2.bucket t c = if t = type ∧
    chosen c = true then [] else s.bucket t c := by
  have shown : WellKept { s with suppressed := s.suppressed.release type chosen } :=
    h.of_rules rfl rfl
  refine (shown.bucket_deleteWhere _ t c).trans ?_
  show numberFrom 0 ((s.bucket t c).filter fun r => !(r.type == type && chosen r.combination)) = _
  split
  · next gone =>
    have none : (s.bucket t c).filter (fun r => !(r.type == type && chosen r.combination)) =
        [] := by
      refine List.filter_eq_nil_iff.mpr fun r hr => ?_
      obtain ⟨-, rfl, rfl⟩ := mem_bucket.mp hr
      simp [gone]
    rw [none]
    rfl
  · next stays =>
    have all : (s.bucket t c).filter (fun r => !(r.type == type && chosen r.combination)) =
        s.bucket t c := by
      refine List.filter_eq_self.mpr fun r hr => ?_
      obtain ⟨-, rfl, rfl⟩ := mem_bucket.mp hr
      cases going : r.type == type && chosen r.combination
      · rfl
      · exact absurd (by simpa using going) stays
    rw [all, numberFrom_eq_self (h.numbered t c)]

theorem cascade_dropForms {s : RuleSet} (h : WellKept s) (type : Id) (p : Paradigm)
    (chosen : Combination → Bool) :
    Cascade s ((s.setParadigm type p).dropForms type chosen).2 type chosen
      ((s.setParadigm type p).dropForms type chosen).1 := by
  have h' : WellKept (s.setParadigm type p) := h.of_rules rfl rfl
  have bucket (t : Id) (c : Combination) :
    ((s.setParadigm type p).dropForms type chosen).2.bucket t c =
      if t = type ∧ chosen c = true then [] else s.bucket t c := h'.bucket_dropForms type t chosen c
  refine ⟨fun r => ?_, fun t c => ?_, ?_, ?_, fun t c stays => ?_, fun t other => ⟨?_, ?_⟩⟩
  · have here (s : RuleSet) : r ∈ s.rules ↔ r ∈ s.bucket r.type r.combination := by
      simp [mem_bucket]
    rw [here, bucket, here s]
    split
    · next gone => simp [gone]
    · next stays => simp [stays]
  · rw [isSuppressed, dropForms, deleteWhere_eq]
    exact Suppression.contains_release s.suppressed type t chosen c
  · rw [rulesOf, List.countP_filter]
    exact List.countP_congr fun r _ => by simp [and_comm]
  · have left := (map_unnumbered_deleteWhere { s.setParadigm type p with
      suppressed := s.suppressed.release type chosen } fun r =>
        r.type == type && chosen r.combination).length_eq
    rw [List.length_map, List.length_map, ← List.countP_eq_length_filter] at left
    have all := List.length_eq_countP_add_countP (l := s.rules) fun r =>
      r.type == type && chosen r.combination
    simp only [Bool.not_eq_true, Bool.decide_eq_false] at all
    rw [all, Nat.add_comm]
    exact congrArg _ left
  · rw [rulesFor_eq_sortBy, rulesFor_eq_sortBy, bucket, if_neg stays]
  · have untouched :
        t ∉ ((s.rules.filter fun r => r.type == type && chosen r.combination).map
        (·.type)).eraseDups := by
      rw [List.mem_eraseDups]
      intro mem
      obtain ⟨r, hr, rfl⟩ := List.mem_map.mp mem
      simp only [List.mem_filter, Bool.and_eq_true, beq_iff_eq] at hr
      exact other hr.2.1
    refine ((rulesOf_foldl_settle _ _ _).trans (if_neg untouched)).trans ?_
    rw [rulesOf, rulesOf, List.filter_filter]
    refine List.filter_congr fun r _ => ?_
    by_cases ofType : r.type = t <;> simp [ofType, other]
  · rw [paradigm?, paradigms_dropForms]
    exact (paradigm?_insert rfl t).trans (if_neg other)

/-! ### What takes forms with it -/

section
variable {s s' : RuleSet} (h : WellKept s) {type : Id} {n : Nat}
include h

theorem cascade_of_dropped {p : Paradigm} {chosen : Combination → Bool}
    (dropped : (s.setParadigm type p).dropForms type chosen = (n, s')) :
    Cascade s s' type chosen n ∧ s'.paradigm type = p := by
  obtain rfl : _ = n := congrArg Prod.fst dropped
  obtain rfl : _ = s' := congrArg Prod.snd dropped
  refine ⟨cascade_dropForms h type p chosen, paradigm_eq ?_⟩
  exact (paradigm?_insert (paradigms_dropForms _ _ _) type).trans (if_pos rfl)

/-- The cells go that have the value in the slot of its dimension. -/
theorem deleteValue_cascade {dimension value : Id}
    (deleted : s.deleteValue type dimension value = .ok (n, s')) :
    ∃ slot, (s.paradigm type).slot? dimension = some slot ∧
      Cascade s s' type (fun c => c.isCell && c.valueAt? slot == some value) n ∧
        ∀ c, (s'.paradigm type).declares c = true ↔
          (s.paradigm type).declares c = true ∧ c.valueAt? slot ≠ some value := by
  obtain ⟨⟨p, slot, d⟩, found, deleted⟩ := bind_eq_ok_iff.mp deleted
  obtain ⟨known, placed, here⟩ := getElem?_of_findDimension found
  dsimp only at deleted
  split at deleted
  · cases deleted
  · obtain ⟨cascade, rest⟩ := cascade_of_dropped h (Except.ok.inj deleted)
    have cells : selects slot value = fun c => c.isCell && c.valueAt? slot == some value := by
      funext c
      by_cases has : c.valueAt? slot = some value
      · simp [selects, has, Combination.isCell_of_valueAt? has]
      · simp [selects, has]
    refine ⟨slot, by rwa [paradigm_eq known], cells ▸ cascade, fun c => ?_⟩
    rw [rest, paradigm_eq known]
    exact Paradigm.declares_dropValue value here c

/-- All cells go, and extra forms stay. -/
theorem deleteDimension_cascade {dimension : Id}
    (deleted : s.deleteDimension type dimension = .ok (n, s')) :
    Cascade s s' type (·.isCell) n ∧
      ∀ c, c.isCell = false → (s'.paradigm type).declares c = (s.paradigm type).declares c := by
  obtain ⟨⟨p, slot, d⟩, found, deleted⟩ := bind_eq_ok_iff.mp deleted
  obtain ⟨known, -, -⟩ := getElem?_of_findDimension found
  obtain ⟨cascade, rest⟩ := cascade_of_dropped h (Except.ok.inj deleted)
  refine ⟨cascade, fun c extra => ?_⟩
  rw [rest, paradigm_eq known]
  refine Paradigm.declares_of_not_isCell ?_ extra
  rfl

/-- The form goes in its shortest spelling only, although the paradigm declares it in none any
more. -/
theorem deleteExtra_cascade {form : Id} (deleted : s.deleteExtra type form = .ok (n, s')) :
    Cascade s s' type (· == .ofForm form) n ∧
      ∀ c, (s'.paradigm type).declares c = true ↔
        (s.paradigm type).declares c = true ∧ c.form? ≠ some form := by
  rw [deleteExtra] at deleted
  split at deleted
  · cases deleted
  · next p known =>
    split at deleted
    · cases deleted
    · obtain ⟨cascade, rest⟩ := cascade_of_dropped h (Except.ok.inj deleted)
      refine ⟨cascade, fun c => ?_⟩
      rw [rest, paradigm_eq known]
      exact Paradigm.declares_dropExtra p form c

end

/-! ### Deleting an extra form -/

variable (E : Pattern.Engine)

/-- **Deleting an extra form takes away what spells it in the shortest way, and nothing else.** So
it takes away all that has the form just when nothing in use spells it otherwise: then no rule and
no hidden form of the part of speech is left with it, all rules with it are counted, and no rule
that is left has lost its declaration. -/
theorem deleteExtra_complete_iff (ops : List Operation) (type form : Id) (n : Nat) (s' : RuleSet)
    (deleted : (empty.run E ops).deleteExtra type form = .ok (n, s')) :
    let s := empty.run E ops
    Cascade s s' type (· == .ofForm form) n ∧
      ((Cascade s s' type (fun c => c.form? == some form) n ∧
          ∀ r ∈ s'.rules, r.type = type → (s.paradigm type).declares r.combination = true →
            (s'.paradigm type).declares r.combination = true) ↔
        ∀ c, s.InUse type c → c.form? = some form → c = .ofForm form) := by
  intro s
  obtain ⟨cascade, declared⟩ := deleteExtra_cascade (wellKept_run E ops) deleted
  refine ⟨cascade,
    ⟨fun ⟨whole, _⟩ c used named => ?_, fun shortest => ⟨?_, fun r hr ofType known => ?_⟩⟩⟩
  · -- what is spelled otherwise stays in use, but nothing that has the form does
    by_contra other
    have stays : s'.InUse type c := (cascade.inUse_iff type c).mpr ⟨used, by simpa using other⟩
    exact ((whole.inUse_iff type c).mp stays).2 ⟨rfl, by simpa using named⟩
  · refine cascade.congr fun c used => Bool.eq_iff_iff.mpr ?_
    rw [beq_iff_eq, beq_iff_eq]
    constructor
    · exact shortest c used
    · rintro rfl
      rfl
  · refine (declared r.combination).mpr ⟨known, fun named => ?_⟩
    obtain ⟨mem, stays⟩ := (cascade.mem_rules r).mp hr
    exact stays ⟨ofType, beq_iff_eq.mpr (shortest _ (.inl ⟨r, mem, ofType, rfl⟩) named)⟩

/-- A vocative goes with its rule, and a rule for the lone comma stays. -/
theorem deleteExtra_complete_vocative :
    let E := Pattern.Engine.standard ⟨1000000, 10485760⟩
    let s :=
      empty.run E [.insertExtra 1 ⟨7, "vocative"⟩, .add 1 (.ofForm 7) {}, .add 1 (.ofValues []) {}]
    ∃ s', s.deleteExtra 1 7 = .ok (1, s') ∧
      Cascade s s' 1 (fun c => c.form? == some 7) 1 ∧
        ∀ r ∈ s'.rules, r.type = 1 → (s.paradigm 1).declares r.combination = true →
          (s'.paradigm 1).declares r.combination = true := by
  intro E s
  have deleted : s.deleteExtra 1 7 = .ok (1, s.perform E (.deleteExtra 1 7)) := rfl
  refine ⟨_, deleted, (deleteExtra_complete_iff E _ 1 7 1 _ deleted).2.mpr ?_⟩
  rintro c (⟨r, hr, -, rfl⟩ | hidden) named
  · have each : ∀ r ∈ s.rules, r.combination.form? = some 7 → r.combination = .ofForm 7 := by decide
    exact each r hr named
  · cases hidden

/-- A rule for `07` outlives the form 7, and so does its entry among the hidden forms. -/
theorem deleteExtra_leaves_other_spellings :
    let E := Pattern.Engine.standard ⟨1000000, 10485760⟩
    let padded : Combination := .extra ⟨['0', '7'], 7, rfl⟩
    let s := empty.run E [.insertExtra 1 ⟨7, "vocative"⟩, .add 1 padded {}, .suppress 1 padded true]
    ∃ s', s.deleteExtra 1 7 = .ok (0, s') ∧ padded.form? = some 7 ∧
      s'.isSuppressed 1 padded = true ∧
      ∃ r ∈ s'.rules, r.type = 1 ∧ r.combination = padded ∧
        (s.paradigm 1).declares r.combination = true ∧
        (s'.paradigm 1).declares r.combination = false := by
  intro E padded s
  have deleted : s.deleteExtra 1 7 = .ok (0, s.perform E (.deleteExtra 1 7)) := rfl
  have hidden : s.isSuppressed 1 padded = true := by decide
  obtain ⟨cascade, -⟩ := deleteExtra_cascade (wellKept_run E _) deleted
  refine ⟨_, deleted, rfl, (cascade.hidden 1 padded).mpr ⟨hidden, by decide⟩, ?_⟩
  decide

end RuleSet

end Conlang
