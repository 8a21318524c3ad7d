import Conlang.Proofs.RuleSet.Moving
import Mathlib.Algebra.GroupWithZero.Nat
import Mathlib.Data.List.Dedup

/-! Deleting rules, all at once or bit by bit.

Each deletion sorts and numbers what it has left of a part of speech, and leaves the parts of speech
alone that have lost nothing. So it might matter which rules go together. It does not: sorting and
numbering in between leaves no trace (`arrange_filter_arrange`), and two deletions come to one
(`deleteWhere_deleteWhere`). What is deleted is told by `Removed`, whatever the rules were chosen
by. -/
namespace Conlang.RuleSet

/-! ### Choosing rules by what is not their number -/

/-- Whether a rule is chosen does not depend on its number. -/
def Blind (p : Rule → Bool) : Prop := ∀ r, p r.unnumbered = p r

theorem blind_isAmong (ids : List Nat) : Blind (isAmong ids) := isAmong_unnumbered ids

section
variable {p : Rule → Bool} (blind : Blind p)
include blind

theorem Blind.not : Blind (!p ·) := fun r => congrArg _ (blind r)

theorem Blind.map_filter (l : List Rule) :
    (l.filter p).map Rule.unnumbered = (l.map Rule.unnumbered).filter p := by
  rw [List.filter_map]
  exact congrArg _ (List.filter_congr fun r _ => (blind r).symm)

/-- The same rules are chosen under other numbers. -/
theorem Blind.filter_congr {l l' : List Rule}
    (same : l.map Rule.unnumbered = l'.map Rule.unnumbered) :
    (l.filter p).map Rule.unnumbered = (l'.filter p).map Rule.unnumbered := by
  rw [blind.map_filter, same, ← blind.map_filter]

theorem Blind.any_map (l : List Rule) : (l.map Rule.unnumbered).any p = l.any p := by
  rw [List.any_map]
  exact congrArg _ (funext blind)

theorem Blind.any_arrange (l : List Rule) : (arrange l).any p = l.any p := by
  rw [← blind.any_map, (map_unnumbered_arrange l).any_eq, blind.any_map]

theorem Blind.countP_map (l : List Rule) : (l.map Rule.unnumbered).countP p = l.countP p := by
  rw [List.countP_map]
  exact congrArg (List.countP · l) (funext blind)

end

theorem renumber_map_unnumbered (last : Option (Combination × Nat)) (l : List Rule) :
    renumber last (l.map Rule.unnumbered) = renumber last l := by
  induction l generalizing last with
  | nil => rfl
  | cons r rest ih =>
    rw [List.map_cons, renumber_cons, renumber_cons, ih]
    rfl

/-- The numbers that rules had before do not matter. -/
theorem renumber_congr {l l' : List Rule} (same : l.map Rule.unnumbered = l'.map Rule.unnumbered)
    (last : Option (Combination × Nat)) : renumber last l = renumber last l' := by
  rw [← renumber_map_unnumbered, same, renumber_map_unnumbered]

/-- Rules that were sorted and numbered before some of them were taken away stand as if they had not
been. -/
theorem arrange_filter_arrange {p : Rule → Bool} (blind : Blind p) (l : List Rule) :
    arrange ((arrange l).filter p) = arrange (l.filter p) := by
  have forms := (pairwise_sortBy inOrder_ranking l).imp form_le_of_inOrder
  have sorted : ((arrange l).filter p).Pairwise (fun r t => inOrder r t = true) :=
    (pairwise_renumber forms none).sublist (List.filter_sublist ..)
  calc arrange ((arrange l).filter p)
    _ = renumber none ((arrange l).filter p) := congrArg (renumber none) (sortBy_eq_self sorted)
    _ = renumber none ((sortBy inOrder l).filter p) :=
      renumber_congr (blind.filter_congr (map_unnumbered_renumber none _)) none
    _ = arrange (l.filter p) := by rw [filter_sortBy inOrder_ranking, arrange]

/-! ### What a part of speech keeps -/

/-- A list of rules after a deletion. One that has lost nothing is not sorted. -/
def pruned (doomed : Rule → Bool) (l : List Rule) : List Rule :=
  if l.any doomed then arrange (l.filter (!doomed ·)) else l

theorem filter_not_eq_self {doomed : Rule → Bool} {l : List Rule} (spared : ¬l.any doomed) :
    l.filter (!doomed ·) = l := by
  refine List.filter_eq_self.mpr fun r hr => ?_
  have survives := List.any_eq_false.mp (Bool.eq_false_iff.mpr spared) r hr
  simpa using survives

theorem filter_not_filter_not (p q : Rule → Bool) (l : List Rule) :
    (l.filter (!p ·)).filter (!q ·) = l.filter fun r => !(p r || q r) := by
  rw [List.filter_filter]
  exact List.filter_congr fun r _ => by rw [Bool.not_or, Bool.and_comm]

theorem any_filter_not (p q : Rule → Bool) (l : List Rule) :
    l.any (fun r => p r || q r) = (l.any p || (l.filter (!p ·)).any q) := by
  rw [Bool.eq_iff_iff]
  simp only [List.any_eq_true, Bool.or_eq_true, List.mem_filter, Bool.not_eq_true']
  constructor
  · rintro ⟨r, hr, dies⟩
    cases first : p r
    · exact .inr ⟨r, ⟨hr, first⟩, dies.resolve_left (by simp [first])⟩
    · exact .inl ⟨r, hr, first⟩
  · rintro (⟨r, hr, dies⟩ | ⟨r, ⟨hr, -⟩, dies⟩)
    · exact ⟨r, hr, .inl dies⟩
    · exact ⟨r, hr, .inr dies⟩

theorem pruned_pruned (p : Rule → Bool) {q : Rule → Bool} (blind : Blind q) (l : List Rule) :
    pruned q (pruned p l) = pruned (fun r => p r || q r) l := by
  rw [pruned.eq_1 p, pruned.eq_1 (fun r => p r || q r), any_filter_not, ← filter_not_filter_not]
  by_cases first : l.any p
  · rw [if_pos first, first, Bool.true_or, if_pos rfl, pruned, blind.any_arrange]
    split
    · exact arrange_filter_arrange blind.not _
    · next none => rw [filter_not_eq_self none]
  · rw [if_neg first, filter_not_eq_self first, Bool.eq_false_iff.mpr first, Bool.false_or, pruned]

theorem rulesOf_deleteWhere (s : RuleSet) (doomed : Rule → Bool) (type : Id) :
    (s.deleteWhere doomed).rulesOf type = pruned doomed (s.rulesOf type) := by
  have left : ({ s with rules := s.rules.filter (!doomed ·) } : RuleSet).rulesOf type =
      (s.rulesOf type).filter (!doomed ·) := by
    rw [rulesOf, rulesOf, List.filter_filter, List.filter_filter]
    exact List.filter_congr fun r _ => Bool.and_comm ..
  have touched : type ∈ ((s.rules.filter doomed).map (·.type)).eraseDups ↔
      (s.rulesOf type).any doomed = true := by
    simp only [List.mem_eraseDups, List.mem_map, List.mem_filter, List.any_eq_true, rulesOf,
      beq_iff_eq]
    constructor
    · rintro ⟨r, ⟨hr, dies⟩, ofType⟩
      exact ⟨r, ⟨hr, ofType⟩, dies⟩
    · rintro ⟨r, ⟨hr, ofType⟩, dies⟩
      exact ⟨r, ⟨hr, dies⟩, ofType⟩
  rw [deleteWhere, rulesOf_foldl_settle, left, pruned]
  by_cases hit : (s.rulesOf type).any doomed = true
  · rw [if_pos hit, if_pos (touched.mpr hit)]
  · rw [if_neg hit, if_neg (touched.not.mpr hit), filter_not_eq_self hit]

/-! ### Rule sets with the same lists -/

/-- All that is in a rule set besides the rules. -/
def withoutRules (s : RuleSet) : RuleSet := { s with rules := [] }

theorem withoutRules_deleteWhere (s : RuleSet) (doomed : Rule → Bool) :
    (s.deleteWhere doomed).withoutRules = s.withoutRules := by
  rw [deleteWhere_eq]
  rfl

/-- Each part of speech has the same rules in the same order and under the same numbers, and
everything else is the same. Nobody can ask how the rules of different parts of speech are mixed. -/
structure SameLists (s s' : RuleSet) : Prop where
  rulesOf : ∀ type, s.rulesOf type = s'.rulesOf type
  rest : s.withoutRules = s'.withoutRules

theorem SameLists.trans {s s' s'' : RuleSet} (h : s.SameLists s') (h' : s'.SameLists s'') :
    s.SameLists s'' :=
  ⟨fun type => (h.rulesOf type).trans (h'.rulesOf type), h.rest.trans h'.rest⟩

/-- Two deletions come to one. -/
theorem deleteWhere_deleteWhere (s : RuleSet) (p : Rule → Bool) {q : Rule → Bool}
    (blind : Blind q) :
    ((s.deleteWhere p).deleteWhere q).SameLists (s.deleteWhere fun r => p r || q r) where
  rulesOf type := by
    rw [rulesOf_deleteWhere, rulesOf_deleteWhere, rulesOf_deleteWhere, pruned_pruned p blind]
  rest := by rw [withoutRules_deleteWhere, withoutRules_deleteWhere, withoutRules_deleteWhere]

/-! ### What is gone -/

/-- These rules have gone, and nothing else has changed: each form keeps its other rules in their
order, numbered from one, and a part of speech that has lost none is as it was. -/
structure Removed (s s' : RuleSet) (gone : List Rule) : Prop where
  sublist : gone.Sublist s.rules
  rulesFor : ∀ type c, s'.rulesFor type c = numberFrom 0 ((s.rulesFor type c).filter (· ∉ gone))
  counted : s'.rules.length + gone.length = s.rules.length
  others : ∀ type, (∀ r ∈ gone, r.type ≠ type) → s'.rulesOf type = s.rulesOf type
  rest : s'.withoutRules = s.withoutRules

theorem WellKept.rulesFor_deleteWhere {s : RuleSet} (h : WellKept s) (doomed : Rule → Bool)
    (type : Id) (c : Combination) :
    (s.deleteWhere doomed).rulesFor type c =
      numberFrom 0 ((s.rulesFor type c).filter (!doomed ·)) := by
  rw [(h.deleteWhere doomed).rulesFor_eq, h.bucket_deleteWhere, h.rulesFor_eq]

theorem WellKept.removed_deleteWhere {s : RuleSet} (h : WellKept s) (doomed : Rule → Bool) :
    s.Removed (s.deleteWhere doomed) (s.rules.filter doomed) where
  sublist := List.filter_sublist ..
  rulesFor type c := by
    rw [h.rulesFor_deleteWhere]
    refine congrArg _ (List.filter_congr fun r hr => ?_)
    rw [h.rulesFor_eq] at hr
    simp [(mem_bucket.mp hr).1]
  counted := by
    have left := (map_unnumbered_deleteWhere s doomed).length_eq
    rw [List.length_map, List.length_map] at left
    rw [left, Nat.add_comm]
    exact (List.length_eq_length_filter_add doomed).symm
  others type spared := by
    have none : ¬(s.rulesOf type).any doomed = true := by
      intro hit
      obtain ⟨r, hr, dies⟩ := List.any_eq_true.mp hit
      obtain ⟨mem, ofType⟩ := List.mem_filter.mp hr
      exact spared r (List.mem_filter.mpr ⟨mem, dies⟩) (beq_iff_eq.mp ofType)
    rw [rulesOf_deleteWhere, pruned, if_neg none]
  rest := withoutRules_deleteWhere s doomed

/-! ### How many go -/

theorem countWhere_deleteWhere (s : RuleSet) (p : Rule → Bool) {q : Rule → Bool} (blind : Blind q) :
    s.countWhere p + (s.deleteWhere p).countWhere q = s.countWhere fun r => p r || q r := by
  have left : (s.deleteWhere p).countWhere q = (s.rules.filter (!p ·)).countP q := by
    rw [countWhere, ← blind.countP_map, (map_unnumbered_deleteWhere s p).countP_eq,
      blind.countP_map]
  rw [left, countWhere, countWhere]
  induction s.rules with
  | nil => rfl
  | cons r rest ih =>
    simp only [List.countP_cons, List.filter_cons]
    cases p r <;> cases hq : q r <;> simp [hq] <;> omega

/-- Of the ids that are named, each that has a rule counts once. -/
theorem WellKept.countWhere_isAmong {s : RuleSet} (h : WellKept s) (ids : List Nat) :
    s.countWhere (isAmong ids) = (ids.dedup.filter fun id => (s.rule? id).isSome).length := by
  have same : ((s.rules.filter (isAmong ids)).map (·.id)).Perm
      (ids.dedup.filter fun id => (s.rule? id).isSome) := by
    refine (List.perm_ext_iff_of_nodup ?_ ((List.nodup_dedup ids).filter _)).mpr fun id => ?_
    · exact h.distinct.sublist ((List.filter_sublist ..).map _)
    · simp only [List.mem_map, List.mem_filter, List.mem_dedup, rule?, List.find?_isSome,
        beq_iff_eq, isAmong, List.contains_iff_mem]
      constructor
      · rintro ⟨r, ⟨hr, named⟩, rfl⟩
        exact ⟨named, r, hr, rfl⟩
      · rintro ⟨named, r, hr, rfl⟩
        exact ⟨r, ⟨hr, named⟩, rfl⟩
  rw [countWhere, List.countP_eq_length_filter, ← same.length_eq, List.length_map]

/-! ### Deleting by id -/

theorem isAmong_append (a b : List Nat) :
    isAmong (a ++ b) = fun r => isAmong a r || isAmong b r := by
  funext r
  simp [isAmong]

/-- Neither the order of ids counts nor how often each is named. -/
theorem isAmong_congr {a b : List Nat} (same : ∀ id, id ∈ a ↔ id ∈ b) : isAmong a = isAmong b := by
  funext r
  exact Bool.eq_iff_iff.mpr (by simp [isAmong, same])

theorem deleteRules_nil (s : RuleSet) : s.deleteRules [] = s := by
  have none : s.rules.filter (isAmong []) = [] := List.filter_eq_nil_iff.mpr fun r _ => by
    simp [isAmong]
  have all : s.rules.filter (!isAmong [] ·) = s.rules := List.filter_eq_self.mpr fun r _ => rfl
  show s.deleteWhere (isAmong []) = s
  rw [deleteWhere, none, all]
  rfl

theorem deleteRules_append (s : RuleSet) (a b : List Nat) :
    ((s.deleteRules a).deleteRules b).SameLists (s.deleteRules (a ++ b)) := by
  show ((s.deleteWhere (isAmong a)).deleteWhere (isAmong b)).SameLists
    (s.deleteWhere (isAmong (a ++ b)))
  rw [isAmong_append]
  exact deleteWhere_deleteWhere s _ (blind_isAmong b)

theorem countWhere_append (s : RuleSet) (a b : List Nat) :
    s.countWhere (isAmong a) + (s.deleteRules a).countWhere (isAmong b) =
      s.countWhere (isAmong (a ++ b)) := by
  rw [isAmong_append]
  exact countWhere_deleteWhere s _ (blind_isAmong b)

/-! ### Rows of deletions -/

/-- How many rules have gone by an answer to a deletion. -/
def Answer.gone : Answer → Nat
  | .counted n => n
  | .found (some _) => 1
  | _ => 0

/-- The operation deletes the rules that have one of the ids, and its answer accounts for them. -/
structure Operation.Deletes (op : Operation) (ids : List Nat) : Prop where
  performs : ∀ (E : Pattern.Engine) (s : RuleSet), s.perform E op = s.deleteRules ids
  answers : ∀ (E : Pattern.Engine) {s : RuleSet}, WellKept s →
    (s.answer E op).gone = s.countWhere (isAmong ids)

theorem deletes_deleteRules (ids : List Nat) : (Operation.deleteRules ids).Deletes ids :=
  ⟨fun _ _ => rfl, fun _ _ _ => rfl⟩

theorem deletes_deleteRule (id : Nat) : (Operation.deleteRule id).Deletes [id] where
  performs _ s := by
    have named : (fun r : Rule => r.id == id) = isAmong [id] := by
      funext r
      rw [isAmong, List.contains_cons, List.contains_nil, Bool.or_false]
    exact congrArg s.deleteWhere named
  answers _ s h := by
    rw [h.countWhere_isAmong, answer, (List.nodup_singleton id).dedup, List.filter_singleton]
    cases s.rule? id <;> rfl

variable (E : Pattern.Engine)

/-- A row of deletions comes to one deletion of all that they name. -/
theorem run_deletes {row : List Operation} {parts : List (List Nat)}
    (each : List.Forall₂ Operation.Deletes row parts) {s : RuleSet} (h : WellKept s) :
    (s.run E row).SameLists (s.deleteRules parts.flatten) ∧
      ((s.answers E row).map Answer.gone).sum = s.countWhere (isAmong parts.flatten) := by
  induction each generalizing s with
  | nil =>
    rw [List.flatten_nil, deleteRules_nil, countWhere, List.countP_eq_zero.mpr fun r _ => by
      simp [isAmong]]
    exact ⟨⟨fun _ => rfl, rfl⟩, rfl⟩
  | @cons op ids row parts first _ ih =>
    obtain ⟨lists, count⟩ := ih (h.deleteWhere (isAmong ids))
    rw [run, answers, List.map_cons, List.sum_cons, first.answers E h, first.performs,
      List.flatten_cons, ← countWhere_append]
    exact ⟨lists.trans (deleteRules_append s ids parts.flatten), congrArg _ count⟩

/-- **Rules may be deleted in any order, one by one or many at once.** Two batches, all their ids in
another order, and the same ids one by one leave the same lists of rules as one deletion of all, in
the same order and under the same numbers, and by their answers as many rules have gone as there are
different ids that have a rule. These rules have gone and no others: each form keeps the rest in its
order. -/
theorem deletions_add_up (ops : List Operation) (a b ids : List Nat) (perm : ids.Perm (a ++ b)) :
    let s := empty.run E ops
    let whole := s.deleteRules (a ++ b)
    let existing := (a ++ b).dedup.filter fun id => (s.rule? id).isSome
    (∀ way ∈ [[.deleteRules a, .deleteRules b], [.deleteRules ids], ids.map Operation.deleteRule],
      (s.run E way).SameLists whole ∧ ((s.answers E way).map Answer.gone).sum = existing.length) ∧
    s.Removed whole (s.rules.filter (isAmong (a ++ b))) := by
  intro s whole existing
  have kept : WellKept s := wellKept_run E ops
  have comes (way : List Operation) (parts : List (List Nat))
      (each : List.Forall₂ Operation.Deletes way parts)
        (named : ∀ id, id ∈ parts.flatten ↔ id ∈ a ++ b) :
        (s.run E way).SameLists whole ∧
          ((s.answers E way).map Answer.gone).sum = existing.length := by
    have together := run_deletes E each kept
    have sameRules : s.deleteRules parts.flatten = whole :=
      congrArg s.deleteWhere (isAmong_congr named)
    rwa [sameRules, isAmong_congr named, kept.countWhere_isAmong] at together
  refine ⟨fun way chosen => ?_, kept.removed_deleteWhere _⟩
  simp only [List.mem_cons, List.not_mem_nil, or_false] at chosen
  rcases chosen with rfl | rfl | rfl
  · refine comes _ [a,
      b] (.cons (deletes_deleteRules a) (.cons (deletes_deleteRules b) .nil)) fun id => ?_
    simp
  · refine comes _ [ids] (.cons (deletes_deleteRules ids) .nil) fun id => ?_
    simpa using perm.mem_iff
  · refine comes _ (ids.map ([·])) (List.forall₂_map_left_iff.mpr ?_) fun id => ?_
    · exact List.forall₂_map_right_iff.mpr (List.forall₂_same.mpr fun id _ => deletes_deleteRule id)
    · simpa using perm.mem_iff

/-- Of four rules two are named twice, and no rule has the id 9. -/
theorem deletions_add_up_repeated :
    let E := Pattern.Engine.standard ⟨1000000, 10485760⟩
    let c : Combination := .ofForm 7
    let s := empty.run E [.add 1 c {}, .add 2 c {}, .add 1 c {}, .add 1 (.ofForm 6) {}]
    let way := [4, 1, 9, 1, 4].map Operation.deleteRule
    (s.run E way).SameLists (s.deleteRules ([1, 4] ++ [9, 1, 4])) ∧
      ((s.answers E way).map Answer.gone).sum = 2 := by
  intro E c s way
  obtain ⟨ways, -⟩ :=
    deletions_add_up E [.add 1 c {}, .add 2 c {}, .add 1 c {}, .add 1 (.ofForm 6) {}] [1, 4]
    [9, 1, 4]
    [4, 1, 9, 1, 4] (by decide)
  obtain ⟨lists, count⟩ := ways way (by simp [way])
  exact ⟨lists, count.trans (by rfl)⟩

end Conlang.RuleSet
