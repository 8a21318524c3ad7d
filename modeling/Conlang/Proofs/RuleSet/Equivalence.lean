import Conlang.Proofs.RuleSet.Copying
import Conlang.Proofs.RuleSet.Deleting

/-! Rules that say the same.

Two rules are equivalent when they belong to one part of speech and are written alike
(`Rule.equivalent_iff`); where they stand does not count, and neither do their conditions. An update
takes all rules of such a class along with one of them (`update_moves_whole_class`), and a deletion
takes whole classes out of a part of speech, or what they have in the cells that share a value
(`deletion_takes_whole_classes`). -/
namespace Conlang

/-! ### Equivalence -/

theorem Substitution.sameText_iff {t u : Substitution} :
    t.sameText u = true ↔
      (t.pattern.source, t.replacement) = (u.pattern.source, u.replacement) := by
  simp [sameText, Pattern.sameSource]

namespace RuleContent

/-- What is compared of a rule: its name, its gate, and of each transform the pattern and the
replacement. -/
def texts (r : RuleContent) : String × String × List (String × String) :=
  (r.name, r.gate.source, r.transforms.map fun t => (t.pattern.source, t.replacement))

theorem all_sameText_iff {l m : List Substitution} :
    (l.length == m.length && (l.zip m).all fun (t, u) => t.sameText u) = true ↔
      (l.map fun t => (t.pattern.source, t.replacement)) = m.map fun t =>
        (t.pattern.source, t.replacement) := by
  induction l generalizing m with
  | nil => cases m <;> simp
  | cons t l ih =>
    cases m with
    | nil => simp
    | cons u m =>
      rw [List.map_cons, List.map_cons, List.cons.injEq, ← ih, ← Substitution.sameText_iff]
      simp only [List.length_cons, List.zip_cons_cons, List.all_cons, Bool.and_eq_true, beq_iff_eq,
        Nat.add_right_cancel_iff]
      exact and_left_comm

theorem sameText_iff {r t : RuleContent} : r.sameText t = true ↔ r.texts = t.texts := by
  rw [sameText, Bool.and_assoc, Bool.and_eq_true, all_sameText_iff]
  simp [texts, Pattern.sameSource, and_assoc]

end RuleContent

namespace Rule

theorem equivalent_iff {r t : Rule} :
    r.equivalent t = true ↔ r.type = t.type ∧ r.content.texts = t.content.texts := by
  rw [equivalent, Bool.and_eq_true, beq_iff_eq, RuleContent.sameText_iff]

theorem equivalence : Equivalence fun r t : Rule => r.equivalent t = true where
  refl _ := equivalent_iff.mpr ⟨rfl, rfl⟩
  symm h := equivalent_iff.mpr ⟨(equivalent_iff.mp h).1.symm, (equivalent_iff.mp h).2.symm⟩
  trans h h' := equivalent_iff.mpr
    ⟨(equivalent_iff.mp h).1.trans (equivalent_iff.mp h').1,
    (equivalent_iff.mp h).2.trans (equivalent_iff.mp h').2⟩

/-- Another rule says the same. -/
def Twin (o r : Rule) : Prop := r.id ≠ o.id ∧ r.equivalent o = true

instance (o r : Rule) : Decidable (o.Twin r) := inferInstanceAs (Decidable (_ ∧ _))

/-- A rule has taken over all that `u` says and is in its old place. -/
structure Follows (r' r u : Rule) : Prop where
  sameAs : r'.SameAs r
  index : r'.index = r.index
  content : r'.content = u.content
  equivalent : r'.equivalent u = true

theorem Twin.follows {o r u : Rule} (twin : o.Twin r) (ofType : u.type = o.type) :
    (r.adopt u.content).Follows r u where
  sameAs := ⟨rfl, rfl, rfl⟩
  index := rfl
  content := rfl
  equivalent := equivalent_iff.mpr ⟨(equivalent_iff.mp twin.2).1.trans ofType.symm, rfl⟩

end Rule

/-! ### Updating a class -/

namespace RuleSet

theorem WellKept.rule?_id {s : RuleSet} (h : WellKept s) {r : Rule} (hr : r ∈ s.rules) :
    s.rule? r.id = some r :=
  find?_id h.distinct hr

theorem updateEquivalent_twins (s : RuleSet) {o u : Rule} (edited : u.id = o.id) :
    s.updateEquivalent o.type o u =
      (s.rules.countP (o.Twin ·), { s with
        rules := s.rules.map fun r => r.adopt (if o.Twin r then u.content else r.content) }) := by
  have affected (r : Rule) : (r.type == o.type && r.id != u.id && r.equivalent o) =
      decide (o.Twin r) := by
    rw [Bool.eq_iff_iff]
    simp only [Bool.and_eq_true, beq_iff_eq, bne_iff_ne, decide_eq_true_eq, edited]
    exact ⟨fun h => ⟨h.1.2, h.2⟩, fun h => ⟨⟨(Rule.equivalent_iff.mp h.2).1, h.1⟩, h.2⟩⟩
  simp only [updateEquivalent, countWhere, affected, decide_eq_true_eq]
  congr 3
  funext r
  split <;> rfl

theorem updateEquivalent_of_none {s : RuleSet} {type : Id} {model updated : Rule}
    (none : ∀ r ∈ s.rules, r.type = type → r.id ≠ updated.id → r.equivalent model = false) :
    s.updateEquivalent type model updated = (0, s) := by
  have spared : ∀ r ∈ s.rules, ¬(r.type == type && r.id != updated.id && r.equivalent model) =
      true := by
    intro r hr affected
    simp only [Bool.and_eq_true, beq_iff_eq, bne_iff_ne] at affected
    exact Bool.eq_false_iff.mp (none r hr affected.1.1 affected.1.2) affected.2
  have same : (s.rules.map fun r => if r.type == type && r.id != updated.id && r.equivalent model
      then r.adopt updated.content else r) = s.rules :=
    (List.map_congr_left fun r hr => if_neg (spared r hr)).trans (List.map_id' s.rules)
  rw [updateEquivalent, countWhere, List.countP_eq_zero.mpr spared, same]

theorem forall₂_updateEquivalent (s : RuleSet) {o u : Rule} (edited : u.id = o.id)
    (ofType : u.type = o.type) :
    List.Forall₂ (fun r r' => if o.Twin r then r'.Follows r u else r' = r) s.rules
      (s.updateEquivalent o.type o u).2.rules := by
  rw [updateEquivalent_twins s edited]
  refine List.forall₂_map_right_iff.mpr (List.forall₂_same.mpr fun r _ => ?_)
  by_cases twin : o.Twin r
  · rw [if_pos twin, if_pos twin]
    exact twin.follows ofType
  · rw [if_neg twin, if_neg twin]
    rfl

/-- Where the edited rule says something else now, no rule says any more what it said before. -/
theorem WellKept.none_equivalent_left {s : RuleSet} (h : WellKept s) {o u : Rule}
    (there : u ∈ s.rules) (edited : u.id = o.id) (ofType : u.type = o.type)
    (changed : u.equivalent o = false) :
    ∀ r ∈ (s.updateEquivalent o.type o u).2.rules, r.equivalent o = false := by
  rw [updateEquivalent_twins s edited]
  intro r' hr'
  obtain ⟨r, hr, rfl⟩ := List.mem_map.mp hr'
  refine Bool.eq_false_iff.mpr fun same => Bool.eq_false_iff.mp changed ?_
  by_cases twin : o.Twin r
  · rw [if_pos twin] at same
    exact Rule.equivalence.trans (Rule.equivalence.symm (twin.follows ofType).equivalent) same
  · rw [if_neg twin] at same
    -- The one rule that could say the same and is no twin is the edited one.
    have itself : r.id = u.id := Decidable.byContradiction fun other => twin ⟨edited ▸ other, same⟩
    obtain rfl : r = u := Option.some.inj ((h.rule?_id hr).symm.trans (itself ▸ h.rule?_id there))
    exact same

/-- Rules that come to say something else stay in order. -/
theorem WellKept.order_adopt {s s' : RuleSet} (h : WellKept s) {content : Rule → RuleContent}
    (rules : s'.rules = s.rules.map fun r => r.adopt (content r)) (last : s'.lastRule = s.lastRule)
    (type : Id) (c : Combination) :
    (s'.rulesFor type c).map (fun r => (r.id, r.index)) = (s.rulesFor type c).map fun r =>
      (r.id, r.index) := by
  rw [(h.adopt rules last).rulesFor_eq, h.rulesFor_eq, bucket_adopt rules, List.map_map]
  rfl

variable (E : Pattern.Engine)

/-- **An update takes a whole class of rules along.** Being equivalent is an equivalence. When a
rule `o` has been edited and says `u` now, then exactly the other rules that say the same as `o`
come to say `u`; they keep their ids, numbers and forms, and all other rules stay as they are, in
the same order. The answer is how many have followed. Unless `u` is still equivalent to `o`, no rule
is any more, and another update changes nothing; neither does one for another part of speech. -/
theorem update_moves_whole_class (ops : List Operation) (o : Rule)
    (change : RuleContent → RuleContent) (known : o ∈ (empty.run E ops).rules) :
    let s := (empty.run E ops).edit o.id change
    let u := o.adopt (change o.content)
    let updated := s.updateEquivalent o.type o u
    (Equivalence fun r t : Rule => r.equivalent t = true) ∧
    s.rule? o.id = some u ∧
    List.Forall₂ (fun r r' => if o.Twin r then r'.Follows r u else r' = r) s.rules updated.2.rules ∧
    (∀ type c, (updated.2.rulesFor type c).map (fun r => (r.id, r.index)) =
      (s.rulesFor type c).map fun r => (r.id, r.index)) ∧
    updated.2.withoutRules = s.withoutRules ∧
    updated.1 = (s.rules.filter (o.Twin ·)).length ∧
    (u.equivalent o = false →
      (∀ r ∈ updated.2.rules, r.equivalent o = false) ∧
      updated.2.updateEquivalent o.type o u = (0, updated.2)) ∧
    ∀ type, type ≠ o.type → s.updateEquivalent type o u = (0, s) := by
  intro s u updated
  have kept : WellKept s := wellKept_perform E (wellKept_run E ops) (.edit o.id change)
  have there : u ∈ s.rules := List.mem_map.mpr ⟨o, known, if_pos rfl⟩
  have found : s.rule? o.id = some u := kept.rule?_id there
  have moved := updateEquivalent_twins s (show u.id = o.id from rfl)
  have rules : updated.2.rules = s.rules.map fun r =>
      r.adopt (if o.Twin r then u.content else r.content) :=
    congrArg (·.2.rules) moved
  have none_left := kept.none_equivalent_left there (show u.id = o.id from rfl) rfl
  refine ⟨Rule.equivalence, found, forall₂_updateEquivalent s rfl rfl, fun type c => ?_, ?_, ?_,
    fun changed => ?_, fun type other => ?_⟩
  · exact kept.order_adopt rules (congrArg (·.2.lastRule) moved) type c
  · exact congrArg (·.2.withoutRules) moved
  · exact (congrArg Prod.fst moved).trans (List.countP_eq_length_filter ..)
  · exact ⟨none_left changed, updateEquivalent_of_none fun r hr _ _ => none_left changed r hr⟩
  · refine updateEquivalent_of_none fun r _ ofType _ => Bool.eq_false_iff.mpr fun same => other ?_
    exact ofType.symm.trans (Rule.equivalent_iff.mp same).1

/-- Of three rules that say the same, one is of another part of speech; the other one loses the
condition that it had of its own. -/
theorem update_moves_whole_class_conditions :
    let E := Pattern.Engine.standard ⟨1000000, 10485760⟩
    let stem : RuleContent := { name := "stem", transforms := [.ofTexts "a" "e"] }
    let ops : List Operation := [.add 1 (.ofValues [1, 1]) stem,
      .add 1 (.ofValues [2, 2]) (stem.addCondition ⟨3, 1, true⟩), .add 2 (.ofForm 9) stem,
      .add 1 (.ofValues [1, 2]) { stem with name := "other" }]
    let o : Rule := ⟨1, 1, 1, .ofValues [1, 1], stem⟩
    let change (content : RuleContent) := content.setTransform 0 none (some "i")
    let updated := ((empty.run E ops).edit 1 change).updateEquivalent 1 o (o.adopt (change stem))
    updated.1 = 1 ∧ (∀ r ∈ updated.2.rules, r.equivalent o = false) ∧
      (updated.2.rulesFor 1 (.ofValues [2, 2])).map (·.content.conditions) = [[]] := by
  intro E stem ops o change updated
  obtain ⟨-, -, -, -, -, count, left, -⟩ := update_moves_whole_class E ops o change (by decide)
  exact ⟨count.trans (by decide), (left (by decide)).1, by decide⟩

/-! ### Deleting classes -/

/-- The rule says the same as one of those that have the ids. -/
def Echoes (s : RuleSet) (ids : List Nat) (r : Rule) : Prop :=
  ∃ id ∈ ids, ∃ model, s.rule? id = some model ∧ r.equivalent model = true

/-- Exactly the chosen rules have gone, and `n` is their number. -/
def Deleted (s s' : RuleSet) (chosen : Rule → Prop) (n : Nat) : Prop :=
  ∃ gone, (∀ r, r ∈ gone ↔ r ∈ s.rules ∧ chosen r) ∧ s.Removed s' gone ∧ n = gone.length

theorem WellKept.deleted {s : RuleSet} (h : WellKept s) {doomed : Rule → Bool}
    {chosen : Rule → Prop} (exact : ∀ r, doomed r = true ↔ chosen r) :
    s.Deleted (s.deleteWhere doomed) chosen (s.countWhere doomed) := by
  refine ⟨s.rules.filter doomed, fun r => ?_, h.removed_deleteWhere doomed,
    List.countP_eq_length_filter ..⟩
  rw [List.mem_filter, exact]

theorem mem_named {s : RuleSet} {ids : List Nat} {models : List Rule}
    (named : models.map some = ids.map s.rule?) {model : Rule} :
    model ∈ models ↔ ∃ id ∈ ids, s.rule? id = some model := by
  rw [← List.mem_map, ← named, List.mem_map]
  simp

theorem any_equivalent_iff {s : RuleSet} {ids : List Nat} {models : List Rule}
    (named : models.map some = ids.map s.rule?) (r : Rule) :
    models.any r.equivalent = true ↔ s.Echoes ids r := by
  simp only [List.any_eq_true, mem_named named, Echoes]
  constructor
  · rintro ⟨model, ⟨id, hid, found⟩, same⟩
    exact ⟨id, hid, model, found, same⟩
  · rintro ⟨id, hid, model, found, same⟩
    exact ⟨model, ⟨id, hid, found⟩, same⟩

/-- What is deleted from the cells that have a value. -/
def isEchoIn (type : Id) (slot : Nat) (value : Id) (models : List Rule) (r : Rule) : Bool :=
  r.type == type && selects slot value r.combination && models.any r.equivalent

theorem deleteFromSharers_eq {s : RuleSet} {type dimension value : Id} {ids : List Nat}
    {p : Paradigm} {slot : Nat} {d : Dimension}
    (found : s.findDimension type dimension = .ok (p, slot, d)) {models : List Rule}
    (named : s.resolve ids = .ok models) :
    s.deleteFromSharers type dimension value ids =
      .ok (s.deleteCounted (isEchoIn type slot value models)) := by
  rw [deleteFromSharers, found]
  show (s.resolve ids >>= _) = _
  rw [named]
  rfl

theorem WellKept.deleted_deleteEquivalent {s s' : RuleSet} (h : WellKept s) {type : Id}
    {ids : List Nat} {n : Nat} (deleted : s.deleteEquivalent type ids = .ok (n, s')) :
    s.Deleted s' (fun r => r.type = type ∧ s.Echoes ids r) n := by
  obtain ⟨models, named, deleted⟩ := bind_eq_ok_iff.mp deleted
  cases deleted
  refine h.deleted fun r => ?_
  rw [Bool.and_eq_true, beq_iff_eq, any_equivalent_iff (resolve_eq_ok_iff.mp named)]

theorem WellKept.deleted_deleteFromSharers {s s' : RuleSet} (h : WellKept s)
    {type dimension value : Id} {ids : List Nat} {n : Nat}
    (deleted : s.deleteFromSharers type dimension value ids = .ok (n, s')) :
    s.Deleted s' (fun r => r.type = type ∧
      (r.combination.isCell = true ∧ s.HasValue type dimension value r.combination) ∧
      s.Echoes ids r) n := by
  obtain ⟨⟨p, slot, d⟩, found, deleted⟩ := bind_eq_ok_iff.mp deleted
  obtain ⟨models, named, deleted⟩ := bind_eq_ok_iff.mp deleted
  cases deleted
  refine h.deleted fun r => ?_
  have has : selects slot value r.combination = true ↔
      r.combination.isCell = true ∧ s.HasValue type dimension value r.combination := by
    rw [hasValue_iff found, selects, beq_iff_eq]
    exact ⟨fun at' => ⟨Combination.isCell_of_valueAt? at', at'⟩, And.right⟩
  rw [Bool.and_eq_true, Bool.and_eq_true, beq_iff_eq, has,
    any_equivalent_iff (resolve_eq_ok_iff.mp named), and_assoc]

/-! ### Deleting copies -/

section
variable {s s' : RuleSet} {type : Id} {targets : List Combination} {models copies : List Rule}
  (spread : s.Copied s' type targets models copies)
include spread

/-- Each copy is in one of the target forms and says what one of the models says. -/
theorem Copied.model {copy : Rule} (hcopy : copy ∈ copies) :
    copy.combination ∈ targets ∧ ∃ model ∈ models, copy.content = model.content := by
  have target : copy.combination ∈ targets := by
    have listed : copy.combination ∈ copies.map (·.combination) := List.mem_map_of_mem hcopy
    rw [spread.forms] at listed
    obtain ⟨c, hc, same⟩ := List.mem_flatMap.mp listed
    obtain ⟨-, -, rfl⟩ := List.mem_map.mp same
    exact hc
  have said : copy.content ∈ models.map (·.content) := by
    rw [← spread.target _ target]
    exact List.mem_map_of_mem
      (List.mem_filter.mpr ⟨hcopy, by simp [isFor, spread.ofType copy hcopy]⟩)
  obtain ⟨model, hmodel, same⟩ := List.mem_map.mp said
  exact ⟨target, model, hmodel, same.symm⟩

/-- A copy is deleted from where it was copied to. Its model has to be of the same part of speech,
for only then are the two alike. -/
theorem Copied.isEchoIn {slot : Nat} {value : Id}
    (has : ∀ c ∈ targets, c.valueAt? slot = some value)
    (ofTypes : ∀ model ∈ models, model.type = type) {copy : Rule} (hcopy : copy ∈ copies) :
    isEchoIn type slot value models copy = true := by
  obtain ⟨target, model, hmodel, said⟩ := spread.model hcopy
  have ofType := spread.ofType copy hcopy
  have same : copy.equivalent model = true :=
    Rule.equivalent_iff.mpr ⟨ofType.trans (ofTypes model hmodel).symm,
      congrArg RuleContent.texts said⟩
  have echoes : models.any copy.equivalent = true := List.any_eq_true.mpr ⟨model, hmodel, same⟩
  simp [RuleSet.isEchoIn, ofType, selects, has _ target, echoes]

/-- Behind the copies the same dimensions are found. -/
theorem Copied.findDimension (t dimension : Id) :
    s'.findDimension t dimension = s.findDimension t dimension := by
  rw [spread.rest]
  rfl

/-- Behind the copies ids that name rules name the same rules. -/
theorem Copied.resolve {ids : List Nat} {named : List Rule} (resolved : s.resolve ids = .ok named) :
    s'.resolve ids = .ok named := by
  rw [resolve_eq_ok_iff] at resolved ⊢
  rw [resolved]
  refine List.map_congr_left fun id hid => ?_
  have there : s.rule? id ∈ named.map some := resolved ▸ List.mem_map_of_mem hid
  obtain ⟨r, -, found⟩ := List.mem_map.mp there
  have still : s'.rule? id = some r := by
    rw [rule?, spread.stored, List.find?_append, ← rule?, ← found]
    rfl
  rw [still, found]

end

theorem deleteFromSharers_copied {s s' : RuleSet} (h : WellKept s) {type : Id}
    (distinct : (s.paradigm type).Distinct) {dimension value : Id} {ids : List Nat}
    {source : Combination} {n : Nat} (copied : s.copyToSharers type dimension value ids source =
      .ok (n, s'))
    (ofType : ∀ id ∈ ids, ∀ r, s.rule? id = some r → r.type = type) :
    ∃ k s'' s₀, s'.deleteFromSharers type dimension value ids = .ok (n + k, s'') ∧
      s.deleteFromSharers type dimension value ids = .ok (k, s₀) ∧
      (∀ r ∈ s''.rules, r.id ∈ s.rules.map (·.id)) ∧ ∀ t c, s''.rulesFor t c = s₀.rulesFor t c := by
  obtain ⟨targets, models, copies, ⟨-, -, target_iff⟩, named, spread, count, -⟩ :=
    copied_copyToSharers h distinct copied
  obtain ⟨⟨p, slot, d⟩, found, -⟩ := bind_eq_ok_iff.mp copied
  have resolved : s.resolve ids = .ok models := resolve_eq_ok_iff.mpr named
  have ofTypes : ∀ model ∈ models, model.type = type := by
    intro model hmodel
    obtain ⟨id, hid, known⟩ := (mem_named named).mp hmodel
    exact ofType id hid model known
  let doomed := isEchoIn type slot value models
  have dies : ∀ copy ∈ copies, doomed copy = true := fun copy hcopy =>
    spread.isEchoIn (fun c hc => (hasValue_iff found c).mp ((target_iff c).mp hc).2.2.1) ofTypes
      hcopy
  have none_spared (t : Id) (c : Combination) : (copies.filter (isFor t c)).filter (!doomed ·) =
      [] :=
    List.filter_eq_nil_iff.mpr fun copy hcopy => by simp [dies copy (List.mem_of_mem_filter hcopy)]
  refine ⟨s.countWhere doomed, s'.deleteWhere doomed, s.deleteWhere doomed, ?_,
    deleteFromSharers_eq found resolved,
    fun r hr => ?_, fun t c => ?_⟩
  · rw [deleteFromSharers_eq ((spread.findDimension type dimension).trans found)
      (spread.resolve resolved)]
    have all : s'.countWhere doomed = n + s.countWhere doomed := by
      rw [countWhere, spread.stored, List.countP_append, List.countP_eq_length.mpr dies, count,
        countWhere, Nat.add_comm]
    rw [← all]
    rfl
  · obtain ⟨r', hr', same⟩ := sameAs_of_map_unnumbered (map_unnumbered_deleteWhere s' doomed) r hr
    obtain ⟨mem, spared⟩ := List.mem_filter.mp hr'
    rw [spread.stored] at mem
    rcases List.mem_append.mp mem with old | new
    · exact List.mem_map.mpr ⟨r', old, same.id⟩
    · simp [dies r' new] at spared
  · rw [(h.copyToSharers copied).rulesFor_deleteWhere, h.rulesFor_deleteWhere, spread.rulesFor,
      List.filter_append, none_spared, List.append_nil]

/-- **A deletion takes whole classes of rules, and nothing else.** It takes the rules of the part of
speech that say the same as one of the named rules, in all forms or in the cells that have the
value, and answers with their number. What is left of a form stays in its order and is numbered from
one; other parts of speech lose nothing, even if the ids name rules of theirs. When rules of the
part of speech have been copied just before, all copies go, and what stays is what would have stayed
without them. -/
theorem deletion_takes_whole_classes (ops : List Operation) (type : Id) (ids : List Nat) :
    let s := empty.run E ops
    (∀ n s', s.deleteEquivalent type ids = .ok (n, s') →
      s.Deleted s' (fun r => r.type = type ∧ s.Echoes ids r) n) ∧
    ∀ dimension value,
      (∀ n s', s.deleteFromSharers type dimension value ids = .ok (n, s') →
        s.Deleted s' (fun r => r.type = type ∧
          (r.combination.isCell = true ∧ s.HasValue type dimension value r.combination) ∧
          s.Echoes ids r) n) ∧
      ∀ source n s', s.copyToSharers type dimension value ids source = .ok (n, s') →
        (∀ id ∈ ids, ∀ r, s.rule? id = some r → r.type = type) →
        ∃ k s'' s₀, s'.deleteFromSharers type dimension value ids = .ok (n + k, s'') ∧
          s.deleteFromSharers type dimension value ids = .ok (k, s₀) ∧
          (∀ r ∈ s''.rules, r.id ∈ s.rules.map (·.id)) ∧
          ∀ t c, s''.rulesFor t c = s₀.rulesFor t c := by
  intro s
  have kept : WellKept s := wellKept_run E ops
  refine ⟨fun n s' => kept.deleted_deleteEquivalent, fun dimension value => ⟨?_, ?_⟩⟩
  · exact fun n s' => kept.deleted_deleteFromSharers
  · exact fun source n s' => deleteFromSharers_copied kept (distinct_history E ops type)

/-- Three rules say the same, one of them in the singular and one of another part of speech. -/
theorem deletion_takes_whole_classes_plural :
    let E := Pattern.Engine.standard ⟨1000000, 10485760⟩
    let ops : List Operation := [.insertDimension 1 ⟨1, "number", [⟨1, "singular"⟩, ⟨2, "plural"⟩]⟩,
      .insertDimension 1 ⟨2, "case", [⟨1, "nominative"⟩, ⟨2, "accusative"⟩]⟩,
      .add 1 (.ofValues [2, 1]) { name := "plural" },
        .add 1 (.ofValues [1, 1]) { name := "plural" },
      .add 2 (.ofForm 9) { name := "plural" }]
    let s := empty.run E ops
    s.Deleted (s.after (s.deleteEquivalent 1 [1])) (fun r => r.type = 1 ∧ s.Echoes [1] r) 2 ∧
      s.Deleted (s.after (s.deleteFromSharers 1 1 2 [1])) (fun r => r.type = 1 ∧
        (r.combination.isCell = true ∧ s.HasValue 1 1 2 r.combination) ∧ s.Echoes [1] r) 1 ∧
      ∃ s' s'', s.copyToSharers 1 1 2 [1] (.ofValues [2, 1]) = .ok (1, s') ∧
        s'.deleteFromSharers 1 1 2 [1] = .ok (2, s'') ∧ ∀ r ∈ s''.rules, r.id ∈ [1, 2, 3] := by
  intro E ops s
  obtain ⟨everywhere, sharing⟩ := deletion_takes_whole_classes E ops 1 [1]
  obtain ⟨inCells, afterCopy⟩ := sharing 1 2
  have plurals := eq_ok_of_map_fst s (s.deleteFromSharers 1 1 2 [1]) 1 (by decide +kernel)
  have copied :=
    eq_ok_of_map_fst s (s.copyToSharers 1 1 2 [1] (.ofValues [2, 1])) 1 (by decide +kernel)
  obtain ⟨k, s'', s₀, both, alone, old, -⟩ := afterCopy _ 1 _ copied (by decide +kernel)
  obtain rfl : 1 = k := congrArg Prod.fst (Except.ok.inj (plurals.symm.trans alone))
  refine ⟨everywhere 2 _ (eq_ok_of_map_fst s _ 2 (by decide +kernel)), inCells 1 _ plurals, _, s'',
    copied, both, ?_⟩
  have ids : s.rules.map (·.id) = [1, 2, 3] := by decide +kernel
  exact ids ▸ old

end RuleSet

end Conlang
