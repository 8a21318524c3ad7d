import Conlang.Inflection.RuleSet.Basic
import Conlang.Proofs.Sorting

/-! What settling a part of speech does to its forms.

`settle` sorts and renumbers all rules of a part of speech at once. Seen from one form it does
little: `bucket_settle` says that the form ends with the rules that `rulesFor` gives, in that order,
numbered from one, and that the forms of other parts of speech stay as they are. -/
namespace Conlang
open Std

/-- A rule without its number. -/
def Rule.unnumbered (r : Rule) : Rule := { r with index := 0 }

/-- The same rule at another time: its number and what it says may have changed, its form not. -/
structure Rule.SameAs (r t : Rule) : Prop where
  id : r.id = t.id
  type : r.type = t.type
  combination : r.combination = t.combination

theorem Rule.SameAs.refl (r : Rule) : r.SameAs r := ⟨rfl, rfl, rfl⟩

theorem Rule.SameAs.trans {r t u : Rule} (h : r.SameAs t) (h' : t.SameAs u) : r.SameAs u :=
  ⟨h.id.trans h'.id, h.type.trans h'.type, h.combination.trans h'.combination⟩

namespace RuleSet

/-! ### Numbering -/

/-- Numbers rules one after the other, the first one behind `k`. -/
def numberFrom (k : Nat) : List Rule → List Rule
  | [] => []
  | r :: rest => { r with index := k + 1 } :: numberFrom (k + 1) rest

theorem map_index_numberFrom (k : Nat) (l : List Rule) :
    (numberFrom k l).map (·.index) = List.range' (k + 1) l.length := by
  induction l generalizing k with
  | nil => rfl
  | cons r rest ih => simp [numberFrom, ih, List.range'_succ]

theorem length_numberFrom (k : Nat) (l : List Rule) : (numberFrom k l).length = l.length := by
  simpa using congrArg List.length (map_index_numberFrom k l)

/-- Rules that have their numbers already keep them. -/
theorem numberFrom_eq_self {k : Nat} {l : List Rule}
    (h : l.map (·.index) = List.range' (k + 1) l.length) : numberFrom k l = l := by
  induction l generalizing k with
  | nil => rfl
  | cons r rest ih =>
    rw [List.map_cons, List.length_cons, List.range'_succ, List.cons.injEq] at h
    rw [numberFrom, ih h.2, ← h.1]

theorem numberFrom_numberFrom (k : Nat) (l : List Rule) :
    numberFrom k (numberFrom k l) = numberFrom k l :=
  numberFrom_eq_self (by rw [map_index_numberFrom, length_numberFrom])

/-! ### The two orders -/

theorem inOrder_ranking : Ranking inOrder where
  total r t := by
    by_cases h : inOrder r t = true
    · exact .inl h
    · exact .inr (by
        have later := OrientedCmp.lt_of_not_isLE h
        simp only [inOrder, later, Ordering.isLE_lt])
  trans _ _ _ := TransCmp.isLE_trans

/-- The order in which rules apply. -/
def byIndex (r t : Rule) : Bool := r.index ≤ t.index

theorem inOrder_of_same_form {r t : Rule} (h : r.combination = t.combination) :
    inOrder r t = byIndex r t := by
  simp only [inOrder, byIndex, compareLex, compareOn, h, ReflCmp.compare_self, Ordering.then]
  exact Bool.eq_iff_iff.mpr (by simp [Nat.isLE_compare])

theorem form_le_of_inOrder {r t : Rule} (h : inOrder r t = true) :
    (compare r.combination t.combination).isLE = true := by
  simp only [inOrder, compareLex, compareOn] at h
  cases c : compare r.combination t.combination <;> simp_all [Ordering.then]

theorem eq_of_form_le_of_form_le {c d : Combination} (h : (compare c d).isLE = true)
    (h' : (compare d c).isLE = true) : c = d :=
  LawfulEqOrd.eq_of_compare (OrientedCmp.isLE_antisymm h h')

/-- Rules whose numbers follow each other are in order. -/
theorem byIndex_ranking : Ranking byIndex where
  total r t := by simpa [byIndex] using Nat.le_total r.index t.index
  trans r t u := by simpa [byIndex] using Nat.le_trans

theorem pairwise_byIndex_of_range {k : Nat} {l : List Rule}
    (h : l.map (·.index) = List.range' k l.length) :
    l.Pairwise (fun r t => byIndex r t = true) := by
  have ascending : (l.map (·.index)).Pairwise (· < ·) := by
    rw [h]
    exact List.pairwise_lt_range'
  refine (List.pairwise_map.mp ascending).imp fun lt => ?_
  simp only [byIndex, decide_eq_true_eq]
  omega

/-! ### Renumbering all forms at once -/

/-- The number that a rule of the form goes behind. -/
def numberBefore (last : Option (Combination × Nat)) (c : Combination) : Nat :=
  match last with
  | some (d, n) => if d = c then n else 0
  | none => 0

theorem renumber_cons (last : Option (Combination × Nat)) (r : Rule) (rest : List Rule) :
    renumber last (r :: rest) =
      { r with index := numberBefore last r.combination + 1 } ::
        renumber (some (r.combination, numberBefore last r.combination + 1)) rest := by
  cases last with
  | none => rfl
  | some before =>
    obtain ⟨c, n⟩ := before
    by_cases h : c = r.combination <;> simp [renumber, numberBefore, h]

theorem map_unnumbered_renumber (last : Option (Combination × Nat)) (l : List Rule) :
    (renumber last l).map Rule.unnumbered = l.map Rule.unnumbered := by
  induction l generalizing last with
  | nil => rfl
  | cons r rest ih => simp only [renumber_cons, List.map_cons, ih, Rule.unnumbered]

/-- Where forms stand together, each is numbered by itself. The form that a list has left does not
come back, so its count can be forgotten. -/
theorem filter_renumber {l : List Rule}
    (sorted : l.Pairwise fun r t => (compare r.combination t.combination).isLE = true)
    (last : Option (Combination × Nat))
    (behind : ∀ before ∈ last, ∀ r ∈ l, (compare before.1 r.combination).isLE = true)
    (c : Combination) :
    (renumber last l).filter (·.combination == c) =
      numberFrom (numberBefore last c) (l.filter (·.combination == c)) := by
  induction l generalizing last with
  | nil => rfl
  | cons r rest ih =>
    obtain ⟨below, sorted'⟩ := List.pairwise_cons.mp sorted
    have met : ∀ before ∈ some (r.combination, numberBefore last r.combination + 1), ∀ t ∈ rest,
        (compare before.1 t.combination).isLE = true := by
      intro before eq
      cases eq
      exact below
    have ih := ih sorted' (some (r.combination, numberBefore last r.combination + 1)) met
    rw [renumber_cons, List.filter_cons, ih]
    by_cases hc : r.combination = c
    · subst hc
      simp [numberBefore, numberFrom]
    · have moved : numberBefore (some (r.combination, numberBefore last r.combination + 1)) c = 0 :=
        if_neg hc
      have forgotten : numberBefore last c = 0 ∨ rest.filter (·.combination == c) = [] := by
        by_cases left : ∃ n, last = some (c, n)
        · right
          obtain ⟨n, rfl⟩ := left
          refine List.filter_eq_nil_iff.mpr fun t ht eq => hc ?_
          have le := below t ht
          rw [beq_iff_eq.mp eq] at le
          exact eq_of_form_le_of_form_le le (behind (c, n) rfl r (List.mem_cons_self ..))
        · left
          cases last with
          | none => rfl
          | some before =>
            obtain ⟨d, n⟩ := before
            exact if_neg fun eq => left ⟨n, by rw [eq]⟩
      rw [moved, List.filter_cons, if_neg (by simpa using hc), if_neg (by simpa using hc)]
      rcases forgotten with h | h
      · rw [h]
      · rw [h]
        rfl

theorem renumber_renumber (last : Option (Combination × Nat)) (l : List Rule) :
    renumber last (renumber last l) = renumber last l := by
  induction l generalizing last with
  | nil => rfl
  | cons r rest ih => simp only [renumber_cons, ih]

/-- A number that goes on from another does so in the same form only, and there it is the next
one. -/
theorem inOrder_renumbered {r t : Rule} (forms : (compare r.combination t.combination).isLE = true)
    (n : Nat) :
    inOrder { r with index := n }
      { t with index := numberBefore (some (r.combination, n)) t.combination + 1 } = true := by
  by_cases same : r.combination = t.combination
  · refine (inOrder_of_same_form ?_).trans ?_
    · exact same
    · simp [byIndex, numberBefore, same]
  · have before : compare r.combination t.combination = .lt := by
      rcases Ordering.isLE_iff_eq_lt_or_eq_eq.mp forms with lt | eq
      · exact lt
      · exact absurd (LawfulEqOrd.eq_of_compare eq) same
    simp [inOrder, compareLex, compareOn, before]

theorem pairwise_renumber {l : List Rule}
    (sorted : l.Pairwise fun r t => (compare r.combination t.combination).isLE = true)
    (last : Option (Combination × Nat)) :
    (renumber last l).Pairwise (fun r t => inOrder r t = true) := by
  have : IsTrans Rule (fun r t => inOrder r t = true) := ⟨inOrder_ranking.trans⟩
  refine List.isChain_iff_pairwise.mp ?_
  induction l generalizing last with
  | nil => exact .nil
  | cons r rest ih =>
    obtain ⟨below, sorted'⟩ := List.pairwise_cons.mp sorted
    have ih := ih sorted' (some (r.combination, numberBefore last r.combination + 1))
    rw [renumber_cons]
    cases rest with
    | nil => exact .singleton _
    | cons t more =>
      rw [renumber_cons] at ih ⊢
      exact .cons_cons (inOrder_renumbered (below t (List.mem_cons_self ..)) _) ih

theorem map_unnumbered_arrange (l : List Rule) :
    ((arrange l).map Rule.unnumbered).Perm (l.map Rule.unnumbered) := by
  rw [arrange, map_unnumbered_renumber]
  exact (sortBy_perm inOrder l).map _

theorem filter_arrange (l : List Rule) (c : Combination) :
    (arrange l).filter (·.combination == c) =
      numberFrom 0 (sortBy byIndex (l.filter (·.combination == c))) := by
  have sorted := (pairwise_sortBy inOrder_ranking l).imp form_le_of_inOrder
  have sameForm : ∀ r ∈ l.filter (·.combination == c), ∀ t ∈ l.filter (·.combination == c),
      inOrder r t = byIndex r t := by
    intro r hr t ht
    have hr := beq_iff_eq.mp (List.mem_filter.mp hr).2
    have ht := beq_iff_eq.mp (List.mem_filter.mp ht).2
    exact inOrder_of_same_form (hr.trans ht.symm)
  rw [arrange, filter_renumber sorted none (by simp) c, filter_sortBy inOrder_ranking,
    sortBy_congr sameForm]
  rfl

/-- Rules in order have no better place to go. -/
theorem arrange_arrange (l : List Rule) : arrange (arrange l) = arrange l := by
  have forms := (pairwise_sortBy inOrder_ranking l).imp form_le_of_inOrder
  calc arrange (arrange l)
    _ = renumber none (arrange l) :=
      congrArg (renumber none) (sortBy_eq_self (pairwise_renumber forms none))
    _ = arrange l := renumber_renumber none _

/-! ### Settling -/

theorem bucket_eq (s : RuleSet) (type : Id) (c : Combination) :
    s.bucket type c = s.rules.filter (isFor type c) := by
  rw [bucket, rulesOf, List.filter_filter]
  exact List.filter_congr fun r _ => Bool.and_comm ..

theorem mem_bucket {s : RuleSet} {type : Id} {c : Combination} {r : Rule} :
    r ∈ s.bucket type c ↔ r ∈ s.rules ∧ r.type = type ∧ r.combination = c := by
  simp [bucket_eq, isFor]

theorem rulesFor_eq_sortBy (s : RuleSet) (type : Id) (c : Combination) :
    s.rulesFor type c = sortBy byIndex (s.bucket type c) := rfl

theorem mem_of_mem_rulesFor {s : RuleSet} {type : Id} {c : Combination} {r : Rule}
    (hr : r ∈ s.rulesFor type c) :
    r ∈ s.rules :=
  (mem_bucket.mp (mem_sortBy.mp hr)).1

theorem type_of_mem_arrange {l : List Rule} {type : Id} (h : ∀ r ∈ l, r.type = type) :
    ∀ r ∈ arrange l, r.type = type := by
  intro r hr
  have kept := (map_unnumbered_arrange l).mem_iff.mp (List.mem_map_of_mem hr)
  obtain ⟨r', hr', eq⟩ := List.mem_map.mp kept
  have sameType := congrArg Rule.type eq
  exact sameType.symm.trans (h r' hr')

theorem type_of_mem_arrange_rulesOf {s : RuleSet} {type : Id} {r : Rule}
    (hr : r ∈ arrange (s.rulesOf type)) :
    r.type = type :=
  type_of_mem_arrange (fun r hr => by simpa [rulesOf] using (List.mem_filter.mp hr).2) r hr

theorem rulesOf_settle (s : RuleSet) (type t : Id) :
    (s.settle type).rulesOf t = if t = type then arrange (s.rulesOf t) else s.rulesOf t := by
  rw [rulesOf, settle, List.filter_append]
  by_cases ht : t = type
  · subst ht
    have gone : (s.rules.filter (·.type != t)).filter (·.type == t) = [] := by simp
    rw [if_pos rfl, gone, List.nil_append]
    exact List.filter_eq_self.mpr fun r hr => beq_iff_eq.mpr (type_of_mem_arrange_rulesOf hr)
  · have kept : (s.rules.filter (·.type != type)).filter (·.type == t) = s.rulesOf t := by
      rw [List.filter_filter]
      refine List.filter_congr fun r _ => ?_
      by_cases hr : r.type = t <;> simp [hr, ht]
    have none : (arrange (s.rulesOf type)).filter (·.type == t) = [] :=
      List.filter_eq_nil_iff.mpr fun r hr eq =>
        ht ((beq_iff_eq.mp eq).symm.trans (type_of_mem_arrange_rulesOf hr))
    rw [if_neg ht, kept, none, List.append_nil]

/-- After settling a part of speech its forms have their rules in the order in which they apply,
numbered from one; the forms of the others are not touched. -/
theorem bucket_settle (s : RuleSet) (type t : Id) (c : Combination) :
    (s.settle type).bucket t c = if t = type then numberFrom 0 (s.rulesFor t c)
      else s.bucket t c := by
  rw [bucket, rulesOf_settle]
  split
  · exact filter_arrange (s.rulesOf t) c
  · rfl

theorem map_unnumbered_settle (s : RuleSet) (type : Id) :
    ((s.settle type).rules.map Rule.unnumbered).Perm (s.rules.map Rule.unnumbered) := by
  have split : (s.rules.filter (·.type != type) ++ s.rulesOf type).Perm s.rules := by
    have := (List.perm_append_comm).trans (List.filter_append_perm (·.type == type) s.rules)
    simpa [rulesOf, bne] using this
  rw [settle, List.map_append]
  refine ((map_unnumbered_arrange _).append_left _).trans ?_
  rw [← List.map_append]
  exact split.map _

/-- A part of speech that is settled stays as it is. -/
theorem settle_settle (s : RuleSet) (type : Id) : (s.settle type).settle type = s.settle type := by
  have others : (s.settle type).rules.filter (·.type != type) =
      s.rules.filter (·.type != type) := by
    have none : (arrange (s.rulesOf type)).filter (·.type != type) = [] :=
      List.filter_eq_nil_iff.mpr fun r hr => by simp [type_of_mem_arrange_rulesOf hr]
    rw [settle, List.filter_append, none, List.append_nil, List.filter_filter]
    simp
  rw [settle, others, rulesOf_settle, if_pos rfl, arrange_arrange]
  rfl

theorem rulesOf_foldl_settle (types : List Id) (s : RuleSet) (t : Id) :
    (types.foldl settle s).rulesOf t = if t ∈ types then arrange (s.rulesOf t)
      else s.rulesOf t := by
  induction types generalizing s with
  | nil => simp
  | cons type rest ih =>
    rw [List.foldl_cons, ih, rulesOf_settle]
    by_cases ht : t = type
    · simp [ht, arrange_arrange]
    · simp [ht]

/-! ### What else is in a rule set -/

theorem foldl_settle_eq (types : List Id) (s : RuleSet) :
    types.foldl settle s = { s with rules := (types.foldl settle s).rules } := by
  induction types generalizing s with
  | nil => rfl
  | cons type rest ih => exact ih (s.settle type)

/-- Deleting takes rules away and does nothing else, however many parts of speech have to be
settled. -/
theorem deleteWhere_eq (s : RuleSet) (doomed : Rule → Bool) :
    s.deleteWhere doomed = { s with rules := (s.deleteWhere doomed).rules } := foldl_settle_eq _ _

end RuleSet

end Conlang
