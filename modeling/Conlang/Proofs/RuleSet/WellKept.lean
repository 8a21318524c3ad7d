import Conlang.Inflection.RuleSet.Moving
import Conlang.Proofs.RuleSet.Arrangement

/-! Rule sets whose forms are in order.

A rule set is `WellKept` when no two rules have the same id, no id is ahead of the counter, and the
rules of each form are kept in the order in which they apply, numbered from one. Each way of
changing rules keeps this, and for each way there is a lemma that says what becomes of a form. -/
namespace Conlang.RuleSet

structure WellKept (s : RuleSet) : Prop where
  distinct : (s.rules.map (·.id)).Nodup
  issued : ∀ r ∈ s.rules, r.id ≤ s.lastRule
  numbered : ∀ type c, (s.bucket type c).map (·.index) = List.range' 1 (s.bucket type c).length

theorem wellKept_empty : WellKept empty := ⟨List.nodup_nil, by simp [empty], fun _ _ => rfl⟩

section
variable {s : RuleSet} (h : WellKept s)
include h

/-- The rules of a form apply in the order in which they are kept. -/
theorem WellKept.rulesFor_eq (type : Id) (c : Combination) : s.rulesFor type c = s.bucket type c :=
  sortBy_eq_self (pairwise_byIndex_of_range (h.numbered type c))

/-- Only the rules and the counter count. -/
theorem WellKept.of_rules {s' : RuleSet} (rules : s'.rules = s.rules)
    (last : s'.lastRule = s.lastRule) :
    WellKept s' where
  distinct := by rw [rules]; exact h.distinct
  issued := by rw [rules, last]; exact h.issued
  numbered type c := by
    rw [bucket_eq, rules, ← bucket_eq]
    exact h.numbered type c

/-- Taking rules away leaves a form in order, but its numbers may have gaps. -/
theorem WellKept.sortBy_filter (type : Id) (c : Combination) (p : Rule → Bool) :
    sortBy byIndex ((s.bucket type c).filter p) = (s.bucket type c).filter p :=
  sortBy_eq_self ((pairwise_byIndex_of_range (h.numbered type c)).sublist (List.filter_sublist ..))

end

/-! ### Ids -/

theorem map_id_of_map_unnumbered {l l' : List Rule}
    (h : (l.map Rule.unnumbered).Perm (l'.map Rule.unnumbered)) :
    (l.map (·.id)).Perm (l'.map (·.id)) := by
  have ids := h.map (·.id)
  rw [List.map_map, List.map_map] at ids
  exact ids

theorem sameAs_of_map_unnumbered {l l' : List Rule}
    (h : (l.map Rule.unnumbered).Perm (l'.map Rule.unnumbered)) :
    ∀ r ∈ l, ∃ r' ∈ l', r'.SameAs r := by
  intro r hr
  obtain ⟨r', hr', eq⟩ := List.mem_map.mp (h.mem_iff.mp (List.mem_map_of_mem hr))
  have id := congrArg Rule.id eq
  have type := congrArg Rule.type eq
  have combination := congrArg Rule.combination eq
  exact ⟨r', hr', id, type, combination⟩

/-- Rules that are taken from a well kept set have distinct ids behind its counter. -/
theorem WellKept.ids {s s' : RuleSet} (h : WellKept s) {l : List Rule} (sub : l.Sublist s.rules)
    (perm : (s'.rules.map Rule.unnumbered).Perm (l.map Rule.unnumbered))
    (last : s'.lastRule = s.lastRule) :
    (s'.rules.map (·.id)).Nodup ∧ ∀ r ∈ s'.rules, r.id ≤ s'.lastRule := by
  have ids := map_id_of_map_unnumbered perm
  refine ⟨ids.nodup_iff.mpr (h.distinct.sublist (sub.map _)), fun r hr => ?_⟩
  obtain ⟨r', hr', eq⟩ := List.mem_map.mp (ids.mem_iff.mp (List.mem_map_of_mem hr))
  rw [last, ← eq]
  exact h.issued r' (sub.subset hr')

/-! ### New contents -/

theorem bucket_adopt {s s' : RuleSet} {content : Rule → RuleContent}
    (rules : s'.rules = s.rules.map fun r => r.adopt (content r)) (type : Id) (c : Combination) :
    s'.bucket type c = (s.bucket type c).map fun r => r.adopt (content r) := by
  rw [bucket_eq, bucket_eq, rules, List.filter_map]
  rfl

theorem rulesFor_adopt {s s' : RuleSet} {content : Rule → RuleContent}
    (rules : s'.rules = s.rules.map fun r => r.adopt (content r)) (type : Id) (c : Combination) :
    s'.rulesFor type c = (s.rulesFor type c).map fun r => r.adopt (content r) := by
  have sameOrder (r t : Rule) : byIndex (r.adopt (content r)) (t.adopt (content t)) = byIndex r t :=
    rfl
  rw [rulesFor_eq_sortBy, rulesFor_eq_sortBy, bucket_adopt rules, sortBy_map sameOrder]

theorem WellKept.adopt {s s' : RuleSet} (h : WellKept s) {content : Rule → RuleContent}
    (rules : s'.rules = s.rules.map fun r => r.adopt (content r))
    (last : s'.lastRule = s.lastRule) :
    WellKept s' where
  distinct := by
    rw [rules, List.map_map]
    exact h.distinct
  issued := by
    rw [rules, last]
    intro r hr
    obtain ⟨r', hr', rfl⟩ := List.mem_map.mp hr
    exact h.issued r' hr'
  numbered type c := by
    rw [bucket_adopt rules, List.map_map, List.length_map]
    exact h.numbered type c

/-! ### Adding -/

theorem foldl_max_range' (n : Nat) : (List.range' 1 n).foldl max 0 = n := by
  induction n with
  | zero => rfl
  | succ n ih =>
    rw [List.range'_concat, List.foldl_append, ih]
    simp only [List.foldl_cons, List.foldl_nil]
    omega

theorem WellKept.nextIndex_eq {s : RuleSet} (h : WellKept s) (type : Id) (c : Combination) :
    s.nextIndex type c = (s.bucket type c).length + 1 := by
  rw [nextIndex, h.numbered, foldl_max_range']

theorem bucket_add (s : RuleSet) (type t : Id) (d c : Combination) (content : RuleContent) :
    (s.add type d content).bucket t c =
      s.bucket t c ++ if t = type ∧ c = d then [⟨s.nextRule, s.nextIndex type d, type, d, content⟩]
        else [] := by
  rw [bucket_eq, bucket_eq, add, List.filter_append]
  congr 1
  by_cases here : t = type ∧ c = d
  · obtain ⟨rfl, rfl⟩ := here
    simp [isFor]
  · rw [if_neg here]
    refine List.filter_eq_nil_iff.mpr fun r hr eq => here ?_
    rw [List.mem_singleton.mp hr] at eq
    simp only [isFor, Bool.and_eq_true, beq_iff_eq] at eq
    exact ⟨eq.1.symm, eq.2.symm⟩

theorem WellKept.add {s : RuleSet} (h : WellKept s) (type : Id) (c : Combination)
    (content : RuleContent) :
    WellKept (s.add type c content) where
  distinct := by
    rw [RuleSet.add, List.map_append, List.nodup_append]
    refine ⟨h.distinct, List.nodup_singleton _, fun id hid id' hid' eq => ?_⟩
    obtain ⟨r, hr, rfl⟩ := List.mem_map.mp hid
    have behind := h.issued r hr
    simp only [List.map_cons, List.map_nil, List.mem_singleton, nextRule] at hid'
    omega
  issued := by
    intro r hr
    rcases List.mem_append.mp hr with hr | hr
    · exact Nat.le_succ_of_le (h.issued r hr)
    · rw [List.mem_singleton.mp hr]
      exact Nat.le_refl _
  numbered t d := by
    rw [bucket_add]
    split
    · next here =>
      obtain ⟨rfl, rfl⟩ := here
      rw [List.map_append, h.numbered, List.length_append, List.length_singleton,
        List.range'_concat, h.nextIndex_eq]
      simp [Nat.add_comm]
    · rw [List.append_nil]
      exact h.numbered t d

/-! ### Deleting -/

theorem bucket_foldl_settle (types : List Id) (s : RuleSet) (t : Id) (c : Combination) :
    (types.foldl settle s).bucket t c =
      if t ∈ types then numberFrom 0 (s.rulesFor t c) else s.bucket t c := by
  rw [bucket, rulesOf_foldl_settle]
  split
  · exact filter_arrange (s.rulesOf t) c
  · rfl

theorem map_unnumbered_foldl_settle (types : List Id) (s : RuleSet) :
    ((types.foldl settle s).rules.map Rule.unnumbered).Perm (s.rules.map Rule.unnumbered) := by
  induction types generalizing s with
  | nil => exact .refl _
  | cons type rest ih => exact (ih (s.settle type)).trans (map_unnumbered_settle s type)

theorem lastRule_deleteWhere (s : RuleSet) (doomed : Rule → Bool) :
    (s.deleteWhere doomed).lastRule = s.lastRule := by rw [deleteWhere_eq]

theorem map_unnumbered_deleteWhere (s : RuleSet) (doomed : Rule → Bool) :
    ((s.deleteWhere doomed).rules.map Rule.unnumbered).Perm
      ((s.rules.filter (!doomed ·)).map Rule.unnumbered) :=
  map_unnumbered_foldl_settle _ _

/-- What is left of a form keeps its order and is numbered from one again. -/
theorem WellKept.bucket_deleteWhere {s : RuleSet} (h : WellKept s) (doomed : Rule → Bool)
    (type : Id) (c : Combination) :
    (s.deleteWhere doomed).bucket type c = numberFrom 0 ((s.bucket type c).filter (!doomed ·)) := by
  have left : ({ s with rules := s.rules.filter (!doomed ·) } : RuleSet).bucket type c =
      (s.bucket type c).filter (!doomed ·) := by
    rw [bucket_eq, bucket_eq, List.filter_filter, List.filter_filter]
    exact List.filter_congr fun r _ => Bool.and_comm ..
  rw [deleteWhere, bucket_foldl_settle, rulesFor_eq_sortBy, left, h.sortBy_filter]
  split
  · rfl
  · next untouched =>
    have spared : (s.bucket type c).filter (!doomed ·) = s.bucket type c := by
      refine List.filter_eq_self.mpr fun r hr => ?_
      obtain ⟨mem, ofType, -⟩ := mem_bucket.mp hr
      refine Bool.not_eq_true' _ ▸ Bool.eq_false_iff.mpr fun dies => untouched ?_
      rw [List.mem_eraseDups, ← ofType]
      exact List.mem_map_of_mem (List.mem_filter.mpr ⟨mem, dies⟩)
    rw [spared, numberFrom_eq_self (h.numbered type c)]

theorem WellKept.deleteWhere {s : RuleSet} (h : WellKept s) (doomed : Rule → Bool) :
    WellKept (s.deleteWhere doomed) := by
  obtain ⟨distinct, issued⟩ := h.ids (List.filter_sublist ..) (map_unnumbered_deleteWhere s doomed)
    (lastRule_deleteWhere s doomed)
  refine ⟨distinct, issued, fun type c => ?_⟩
  rw [h.bucket_deleteWhere, map_index_numberFrom, length_numberFrom]

theorem bucket_clear {s s' : RuleSet} {type : Id}
    (rules : s'.rules = s.rules.filter (·.type != type)) (t : Id) (c : Combination) :
    s'.bucket t c = if t = type then [] else s.bucket t c := by
  rw [bucket_eq, bucket_eq, rules, List.filter_filter]
  split
  · next ht => exact List.filter_eq_nil_iff.mpr fun r _ => by simp +contextual [isFor, ht]
  · next ht =>
    refine List.filter_congr fun r _ => ?_
    by_cases hr : r.type = t <;> simp [isFor, hr, ht]

theorem WellKept.clear {s s' : RuleSet} (h : WellKept s) {type : Id}
    (rules : s'.rules = s.rules.filter (·.type != type)) (last : s'.lastRule = s.lastRule) :
    WellKept s' := by
  obtain ⟨distinct, issued⟩ := h.ids (List.filter_sublist ..) (by rw [rules]) last
  refine ⟨distinct, issued, fun t c => ?_⟩
  rw [bucket_clear rules]
  split
  · rfl
  · exact h.numbered t c

/-! ### Moving -/

theorem bucket_number (s : RuleSet) (type t : Id) (d c : Combination) (order : List Nat) :
    (s.number type d order).bucket t c =
      (s.bucket t c).map fun r =>
        if t = type ∧ c = d then { r with index := order.idxOf r.id + 1 } else r := by
  have samePlace :
    isFor t c ∘ (fun r => if isFor type d r then { r with index := order.idxOf r.id + 1 } else r) =
      isFor t c := by
    funext r
    simp only [Function.comp_apply]
    split <;> rfl
  rw [bucket_eq, number, List.filter_map, samePlace, ← bucket_eq]
  refine List.map_congr_left fun r hr => ?_
  obtain ⟨-, rfl, rfl⟩ := mem_bucket.mp hr
  simp [isFor]

theorem bucket_number_of_ne (s : RuleSet) {type t : Id} {d c : Combination} (order : List Nat)
    (ne : ¬(t = type ∧ c = d)) : (s.number type d order).bucket t c = s.bucket t c := by
  simp [bucket_number, ne]

theorem map_unnumbered_number (s : RuleSet) (type : Id) (c : Combination) (order : List Nat) :
    (s.number type c order).rules.map Rule.unnumbered = s.rules.map Rule.unnumbered := by
  rw [number, List.map_map]
  refine List.map_congr_left fun r _ => ?_
  simp only [Function.comp_apply]
  split <;> rfl

theorem map_unnumbered_reorder (s : RuleSet) (type : Id) (c : Combination)
    (move : List Nat → List Nat) :
    ((s.reorder type c move).rules.map Rule.unnumbered).Perm (s.rules.map Rule.unnumbered) := by
  have settled :=
    map_unnumbered_settle (s.number type c (move ((s.rulesFor type c).map (·.id)))) type
  rw [map_unnumbered_number] at settled
  exact settled

/-- Only the form itself is rearranged, although its whole part of speech is settled. -/
theorem WellKept.bucket_reorder_of_ne {s : RuleSet} (h : WellKept s) {type t : Id}
    {d c : Combination} (move : List Nat → List Nat) (ne : ¬(t = type ∧ c = d)) :
    (s.reorder type d move).bucket t c = s.bucket t c := by
  rw [reorder, bucket_settle, rulesFor_eq_sortBy, bucket_number_of_ne s _ ne, ← rulesFor_eq_sortBy,
    h.rulesFor_eq, numberFrom_eq_self (h.numbered t c), ite_self]

theorem WellKept.reorder {s : RuleSet} (h : WellKept s) (type : Id) (c : Combination)
    (move : List Nat → List Nat) : WellKept (s.reorder type c move) := by
  obtain ⟨distinct, issued⟩ := h.ids (.refl _) (map_unnumbered_reorder s type c move) rfl
  refine ⟨distinct, issued, fun t d => ?_⟩
  by_cases here : t = type ∧ d = c
  · rw [RuleSet.reorder, bucket_settle, if_pos here.1, map_index_numberFrom, length_numberFrom]
  · rw [h.bucket_reorder_of_ne move here]
    exact h.numbered t d

end Conlang.RuleSet
