import Conlang.Proofs.RuleSet.History
import Conlang.Proofs.RuleSet.Paradigms

/-! Copies of rules.

Copying adds rules one after the other, each at the end of its form. So every form gets what was
meant for it, behind what it has and in the order in which it was added (`rules_foldl_add`), and a
cell that shares the value gets each of the copied rules once for every time that it is named
(`copied_copyToSharers`). -/
namespace Conlang.RuleSet

/-- What the rules of a form say, in the order in which they apply. -/
def contents (s : RuleSet) (type : Id) (c : Combination) : List RuleContent :=
  (s.rulesFor type c).map (·.content)

/-! ### Rules that are added -/

/-- The new rules stand behind all others, under the ids that come next. -/
theorem rules_foldl_add (copies : List (Combination × RuleContent)) (type : Id) (s : RuleSet) :
    ∃ made, (copies.foldl (fun s (c, content) => s.add type c content) s).rules = s.rules ++ made ∧
      made.map (·.id) = List.range' s.nextRule copies.length ∧
      made.map (fun r => (r.combination, r.content)) = copies ∧ ∀ r ∈ made, r.type = type := by
  induction copies generalizing s with
  | nil => exact ⟨[], by simp, rfl, rfl, by simp⟩
  | cons copy rest ih =>
    obtain ⟨c, content⟩ := copy
    obtain ⟨made, stored, ids, said, ofType⟩ := ih (s.add type c content)
    refine ⟨⟨s.nextRule, s.nextIndex type c, type, c, content⟩ :: made, ?_, ?_, ?_, ?_⟩
    · rw [List.foldl_cons, stored, add, List.append_assoc]
      rfl
    · rw [List.map_cons, ids, List.length_cons, List.range'_succ]
      rfl
    · rw [List.map_cons, said]
    · exact List.forall_mem_cons.mpr ⟨rfl, ofType⟩

theorem lastRule_foldl_add (copies : List (Combination × RuleContent)) (type : Id) (s : RuleSet) :
    (copies.foldl (fun s (c, content) => s.add type c content) s).lastRule =
      s.lastRule + copies.length := by
  induction copies generalizing s with
  | nil => rfl
  | cons copy rest ih =>
    rw [List.foldl_cons, ih, List.length_cons, Nat.add_comm rest.length, ← Nat.add_assoc]
    rfl

theorem WellKept.foldl_add {s : RuleSet} (h : WellKept s)
    (copies : List (Combination × RuleContent)) (type : Id) :
    WellKept (copies.foldl (fun s (c, content) => s.add type c content) s) := by
  induction copies generalizing s with
  | nil => exact h
  | cons copy rest ih => exact ih (h.add type copy.1 copy.2)

/-! ### Copies of rules -/

/-- What is added where, when rules are copied to forms. -/
def copiesFor (targets : List Combination) (models : List Rule) :
    List (Combination × RuleContent) :=
  targets.flatMap fun c => models.map fun r => (c, r.content)

theorem length_copiesFor (targets : List Combination) (models : List Rule) :
    (copiesFor targets models).length = targets.length * models.length := by
  simp [copiesFor, List.length_flatMap]

theorem map_fst_copiesFor (targets : List Combination) (models : List Rule) :
    (copiesFor targets models).map (·.1) = targets.flatMap fun c => models.map fun _ => c := by
  simp [copiesFor, List.map_flatMap, Function.comp_def]

/-- A form that is a target gets all copies, and once. -/
theorem filter_copiesFor {targets : List Combination} (nodup : targets.Nodup) (models : List Rule)
    {c : Combination} (target : c ∈ targets) :
    ((copiesFor targets models).filter (·.1 == c)).map (·.2) = models.map (·.content) := by
  have part (d : Combination) : ((models.map fun r => (d, r.content)).filter (·.1 == c)).map (·.2) =
      if d = c then models.map (·.content) else [] := by
    by_cases here : d = c <;> simp [List.filter_map, Function.comp_def, here]
  have others {l : List Combination} (absent : c ∉ l) :
      (l.flatMap fun d => if d = c then models.map (·.content) else []) = [] := by
    refine List.flatMap_eq_nil_iff.mpr fun d hd => if_neg ?_
    rintro rfl
    exact absent hd
  obtain ⟨front, back, rfl⟩ := List.append_of_mem target
  obtain ⟨-, rest, apart⟩ := List.nodup_append.mp nodup
  have before : c ∉ front := fun h => apart c h c List.mem_cons_self rfl
  have behind : c ∉ back := (List.nodup_cons.mp rest).1
  rw [copiesFor, List.filter_flatMap, List.map_flatMap]
  simp only [part, List.flatMap_append, List.flatMap_cons, others before, others behind, if_true,
    List.nil_append, List.append_nil]

/-! ### Copying to the cells that share a value -/

/-- A change that has an answer has been made. -/
theorem eq_ok_of_map_fst {α : Type} (s : RuleSet) (change : Except Fault (α × RuleSet)) (a : α)
    (answered : change.map (·.1) = .ok a) : change = .ok (a, s.after change) := by
  cases change with
  | error fault => cases answered
  | ok made => exact congrArg _ (Prod.ext (Except.ok.inj answered) rfl)

/-- Ids are resolved to the rules that have them, each to its own. -/
theorem resolve_eq_ok_iff {s : RuleSet} {ids : List Nat} {models : List Rule} :
    s.resolve ids = .ok models ↔ models.map some = ids.map s.rule? := by
  induction ids generalizing models with
  | nil => cases models <;> simp [resolve, pure, Except.pure]
  | cons id rest ih =>
    rw [resolve_cons, List.map_cons]
    cases s.rule? id with
    | none => cases models <;> simp
    | some r =>
      cases models with
      | nil => cases s.resolve rest <;> simp [Except.map]
      | cons model models =>
        rw [List.map_cons, List.cons.injEq, Option.some.injEq, ← ih]
        cases s.resolve rest <;> simp [Except.map, eq_comm]

theorem hasValue_iff {s : RuleSet} {type dimension value : Id} {p : Paradigm} {slot : Nat}
    {d : Dimension} (found : s.findDimension type dimension = .ok (p, slot, d)) (c : Combination) :
    s.HasValue type dimension value c ↔ c.valueAt? slot = some value := by
  obtain ⟨known, placed⟩ := findDimension_eq_ok found
  constructor
  · rintro ⟨p', slot', known', placed', has⟩
    rw [known'] at known
    cases known
    rw [placed'] at placed
    cases placed
    exact has
  · exact fun has => ⟨p, slot, known, placed, has⟩

/-- The models have been copied to each of the target forms: behind the rules that the form has
there stand their copies, in the order of the models, which say what the models said. The copies
have come last, under the ids that come next, and nothing else has changed. -/
structure Copied (s s' : RuleSet) (type : Id) (targets : List Combination)
    (models copies : List Rule) : Prop where
  stored : s'.rules = s.rules ++ copies
  ids : copies.map (·.id) = List.range' s.nextRule copies.length
  ofType : ∀ r ∈ copies, r.type = type
  forms : copies.map (·.combination) = targets.flatMap fun c => models.map fun _ => c
  rulesFor : ∀ t c, s'.rulesFor t c = s.rulesFor t c ++ copies.filter (isFor t c)
  target : ∀ c ∈ targets, (copies.filter (isFor type c)).map (·.content) = models.map (·.content)
  others : ∀ t c, ¬(t = type ∧ c ∈ targets) → s'.rulesFor t c = s.rulesFor t c
  rest : s' = { s with rules := s'.rules, lastRule := s.lastRule + copies.length }

theorem copied_foldl_add {s : RuleSet} (h : WellKept s) (type : Id) {targets : List Combination}
    (nodup : targets.Nodup) (models : List Rule) :
    ∃ copies, copies.length = targets.length * models.length ∧
      s.Copied ((copiesFor targets models).foldl (fun s (c, content) => s.add type c content) s)
        type targets models
        copies := by
  obtain ⟨copies, stored, ids, said, ofType⟩ := rules_foldl_add (copiesFor targets models) type s
  have kept := h.foldl_add (copiesFor targets models) type
  have lastRule := lastRule_foldl_add (copiesFor targets models) type s
  have rest := foldl_add_eq (copiesFor targets models) type s
  generalize (copiesFor targets models).foldl (fun s (c, content) => s.add type c content) s = s'
    at *
  have count : copies.length = (copiesFor targets models).length := by rw [← said, List.length_map]
  have forms : copies.map (·.combination) = targets.flatMap fun c => models.map fun _ => c := by
    rw [← map_fst_copiesFor, ← said, List.map_map]
    rfl
  have rulesFor (t : Id) (c : Combination) : s'.rulesFor t c =
      s.rulesFor t c ++ copies.filter (isFor t c) := by
    rw [kept.rulesFor_eq, h.rulesFor_eq, bucket_eq, bucket_eq, stored, List.filter_append]
  refine ⟨copies, count.trans (length_copiesFor ..), stored, count ▸ ids, ofType, forms, rulesFor,
    fun c target => ?_, fun t c other => ?_, ?_⟩
  · have here : copies.filter (isFor type c) = copies.filter (·.combination == c) :=
      List.filter_congr fun r hr => by simp [isFor, ofType r hr]
    rw [here, ← filter_copiesFor nodup models target, ← said, List.filter_map, List.map_map]
    rfl
  · have none : copies.filter (isFor t c) = [] := by
      refine List.filter_eq_nil_iff.mpr fun r hr eq => other ?_
      simp only [isFor, Bool.and_eq_true, beq_iff_eq] at eq
      have target : r.combination ∈ copies.map (·.combination) := List.mem_map_of_mem hr
      rw [forms] at target
      obtain ⟨d, hd, copy⟩ := List.mem_flatMap.mp target
      obtain ⟨-, -, same⟩ := List.mem_map.mp copy
      exact ⟨eq.1.symm.trans (ofType r hr), (same.trans eq.2) ▸ hd⟩
    rw [rulesFor, none, List.append_nil]
  · rw [count, ← lastRule]
    exact rest

theorem WellKept.copyToSharers {s s' : RuleSet} (h : WellKept s) {type dimension value : Id}
    {ids : List Nat} {source : Combination} {n : Nat}
    (copied : s.copyToSharers type dimension value ids source = .ok (n, s')) :
    WellKept s' := by
  obtain ⟨place, -, copied⟩ := bind_eq_ok_iff.mp copied
  obtain ⟨models, -, copied⟩ := bind_eq_ok_iff.mp copied
  obtain ⟨-, rfl⟩ := Prod.mk.inj (Except.ok.inj copied)
  exact h.foldl_add _ type

/-- The cells that have the value are the targets, in the order in which the paradigm lists them,
but for the source. -/
theorem copied_copyToSharers {s s' : RuleSet} (h : WellKept s) {type : Id}
    (distinct : (s.paradigm type).Distinct) {dimension value : Id} {ids : List Nat}
    {source : Combination} {n : Nat} (copied : s.copyToSharers type dimension value ids source =
      .ok (n, s')) :
    ∃ targets models copies,
      (targets.Sublist ((s.allForms type).map (·.combination)) ∧ targets.Nodup ∧
        ∀ c, c ∈ targets ↔ c ∈ (s.allForms type).map (·.combination) ∧ c.isCell = true ∧
          s.HasValue type dimension value c ∧ c ≠ source) ∧
      models.map some = ids.map s.rule? ∧
      s.Copied s' type targets models copies ∧ n = copies.length ∧
      n = targets.length * ids.length := by
  obtain ⟨⟨p, slot, d⟩, found, copied⟩ := bind_eq_ok_iff.mp copied
  obtain ⟨models, resolved, copied⟩ := bind_eq_ok_iff.mp copied
  obtain ⟨counted, made⟩ := Prod.mk.inj (Except.ok.inj copied)
  have models_eq := resolve_eq_ok_iff.mp resolved
  have nodup : (s.sharers type slot value source).Nodup := distinct.nodup_combinations.filter _
  obtain ⟨copies, count, spread⟩ := copied_foldl_add h type nodup models
  have length : models.length = ids.length := by simpa using congrArg List.length models_eq
  have n_eq : n = (copiesFor (s.sharers type slot value source) models).length := counted.symm
  rw [length_copiesFor] at n_eq
  refine ⟨s.sharers type slot value source, models, copies,
    ⟨List.filter_sublist .., nodup, fun c => ?_⟩, models_eq, made ▸ spread, n_eq.trans count.symm,
    length ▸ n_eq⟩
  rw [hasValue_iff found, sharers, List.mem_filter]
  simp only [selects, Bool.and_eq_true, bne_iff_ne, beq_iff_eq]
  constructor
  · rintro ⟨listed, ne, has⟩
    exact ⟨listed, Combination.isCell_of_valueAt? has, has, ne⟩
  · rintro ⟨listed, -, has, ne⟩
    exact ⟨listed, ne, has⟩

/-- A cell that has the value gets the copies behind its own rules, unless it is the source. -/
theorem contents_copyToSharers {s s' : RuleSet} (h : WellKept s) {type : Id}
    (distinct : (s.paradigm type).Distinct) {dimension value : Id} {ids : List Nat}
    {source : Combination} {n : Nat} (copied : s.copyToSharers type dimension value ids source =
      .ok (n, s')) :
    ∃ models, s.resolve ids = .ok models ∧
      ∀ c ∈ (s.allForms type).map (·.combination), c ≠ source → s.HasValue type dimension value c →
        s'.contents type c = s.contents type c ++ models.map (·.content) := by
  obtain ⟨targets, models, copies, ⟨-, -, target_iff⟩, named, spread, -⟩ :=
    copied_copyToSharers h distinct copied
  refine ⟨models, resolve_eq_ok_iff.mpr named, fun c listed ne has => ?_⟩
  obtain ⟨p, slot, -, -, at'⟩ := id has
  have target := (target_iff c).mpr ⟨listed, Combination.isCell_of_valueAt? at', has, ne⟩
  rw [contents, spread.rulesFor, List.map_append, spread.target c target]
  rfl

/-- **Copying reaches the other cells that share the value, and nothing else.** The targets are the
cells that are listed, hidden or not, and have the value in the slot of the dimension, but for the
source. Each gets one copy for each id that is named, in the order in which they are named, behind
the rules that it has; a copy says what the rule with the id said before, and its own id is higher
than any that a rule ever had. Other forms keep their rules. The answer is the number of copies,
which is that of the targets times that of the ids. -/
theorem copies_reach_sharers (E : Pattern.Engine) (ops : List Operation) (type dimension value : Id)
    (ids : List Nat) (source : Combination) (n : Nat) (s' : RuleSet)
    (copied : (empty.run E ops).copyToSharers type dimension value ids source = .ok (n, s')) :
    let s := empty.run E ops
    ∃ targets models copies,
      (targets.Sublist ((s.allForms type).map (·.combination)) ∧ targets.Nodup ∧
        ∀ c, c ∈ targets ↔ c ∈ (s.allForms type).map (·.combination) ∧ c.isCell = true ∧
          s.HasValue type dimension value c ∧ c ≠ source) ∧
      models.map some = ids.map s.rule? ∧
      s.Copied s' type targets models copies ∧
      (∀ t c, (s'.rulesFor t c).map (·.index) = List.range' 1 (s'.rulesFor t c).length) ∧
      (∀ earlier later, ops = earlier ++ later →
        ∀ r ∈ (empty.run E earlier).rules, ∀ copy ∈ copies, r.id < copy.id) ∧
      n = copies.length ∧ n = targets.length * ids.length := by
  intro s
  have kept : WellKept s := wellKept_run E ops
  obtain ⟨targets, models, copies, chosen, named, spread, counted⟩ :=
    copied_copyToSharers kept (distinct_history E ops type) copied
  refine ⟨targets, models, copies, chosen, named, spread, fun t c => ?_,
    fun earlier later split r hr copy hcopy => ?_, counted⟩
  · rw [(kept.copyToSharers copied).rulesFor_eq]
    exact (kept.copyToSharers copied).numbered t c
  · have behind : r.id ≤ s.lastRule := by
      have continued : s = (empty.run E earlier).run E later := by rw [← run_append, ← split]
      rw [continued]
      exact Nat.le_trans ((wellKept_run E earlier).issued r hr) (run_change E _ later).lastRule_le
    have ahead : copy.id ∈ List.range' s.nextRule copies.length :=
      spread.ids ▸ List.mem_map_of_mem hcopy
    exact Nat.lt_of_le_of_lt behind (List.mem_range'_1.mp ahead).1

/-- A rule of the nominative plural is copied to the accusative twice, and with it a rule of another
part of speech. The accusative is hidden. -/
theorem copies_reach_sharers_hidden :
    let E := Pattern.Engine.standard ⟨1000000, 10485760⟩
    let ops : List Operation := [.insertDimension 1 ⟨1, "number", [⟨1, "singular"⟩, ⟨2, "plural"⟩]⟩,
      .insertDimension 1 ⟨2, "case", [⟨1, "nominative"⟩, ⟨2, "accusative"⟩]⟩,
      .add 1 (.ofValues [2, 1]) { name := "plural" }, .add 2 (.ofForm 9) { name := "other" },
      .suppress 1 (.ofValues [2, 2]) true]
    let s := empty.run E ops
    ∃ s' copies, s.copyToSharers 1 1 2 [1, 2, 1] (.ofValues [2, 1]) = .ok (3, s') ∧
      s'.rules = s.rules ++ copies ∧ copies.map (·.id) = [3, 4, 5] ∧
        (s'.rulesFor 1 (.ofValues [2, 2])).map (·.content.name) =
        ["plural", "other", "plural"] := by
  intro E ops s
  have copied :=
    eq_ok_of_map_fst s (s.copyToSharers 1 1 2 [1, 2, 1] (.ofValues [2, 1])) 3 (by decide +kernel)
  obtain ⟨targets, models, copies, -, -, spread, -, -, count, -⟩ :=
    copies_reach_sharers E ops 1 1 2 _ _ 3 _ copied
  refine ⟨_, copies, copied, spread.stored, ?_, by decide +kernel⟩
  rw [spread.ids, ← count]
  decide +kernel

end Conlang.RuleSet
