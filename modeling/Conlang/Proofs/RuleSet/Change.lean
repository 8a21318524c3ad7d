import Conlang.Proofs.RuleSet.Operation
import Conlang.Proofs.RuleSet.WellKept

/-! How an operation changes rules.

Two dozen operations come down to a few ways of changing the list of rules. `Change touched` says
that rules have changed in these ways only, and in no form but those that are `touched`;
`perform_change` says that an operation is such a change, and touches the forms that it addresses.
What a change keeps is shown once for each way. -/
namespace Conlang.RuleSet

inductive Change (touched : Id → Combination → Prop) : RuleSet → RuleSet → Prop where
  | keep {s s'} (rules : s'.rules = s.rules) (last : s'.lastRule = s.lastRule) : Change touched s s'
  | rewrite {s s'} (content : Rule → RuleContent)
      (spared : ∀ r ∈ s.rules, ¬touched r.type r.combination → content r = r.content)
      (rules : s'.rules = s.rules.map fun r => r.adopt (content r)) (last : s'.lastRule =
        s.lastRule) :
      Change touched s s'
  | add {s} (type : Id) (c : Combination) (content : RuleContent) (here : touched type c) :
      Change touched s (s.add type c content)
  | delete {s} (doomed : Rule → Bool) (here : ∀ r ∈ s.rules, doomed r = true →
    touched r.type r.combination) :
      Change touched s (s.deleteWhere doomed)
  | move {s} (type : Id) (c : Combination) (move : List Nat → List Nat) (here : touched type c) :
      Change touched s (s.reorder type c move)
  | clear {s s'} (type : Id) (here : ∀ c, touched type c) (rules : s'.rules =
    s.rules.filter (·.type != type))
      (last : s'.lastRule = s.lastRule) : Change touched s s'
  | trans {s s' s''} (first : Change touched s s') (second : Change touched s' s'') :
    Change touched s s''

namespace Change
variable {touched : Id → Combination → Prop} {s s' : RuleSet}

/-! ### What a change keeps -/

theorem wellKept (change : Change touched s s') (h : WellKept s) : WellKept s' := by
  induction change with
  | keep rules last => exact h.of_rules rules last
  | rewrite content spared rules last => exact h.adopt rules last
  | add type c content here => exact h.add type c content
  | delete doomed here => exact h.deleteWhere doomed
  | move type c move here => exact h.reorder type c move
  | clear type here rules last => exact h.clear rules last
  | trans first second ih ih' => exact ih' (ih h)

/-- A form that is not touched keeps its rules: the same ones, with the same numbers and contents,
in the same order. -/
theorem bucket_eq_of_not_touched (change : Change touched s s') (h : WellKept s) {type : Id}
    {c : Combination} (untouched : ¬touched type c) : s'.bucket type c = s.bucket type c := by
  induction change with
  | keep rules last => rw [bucket_eq, bucket_eq, rules]
  | rewrite content spared rules last =>
    rename_i s s'
    have same : ∀ r ∈ s.bucket type c, r.adopt (content r) = id r := by
      intro r hr
      obtain ⟨mem, rfl, rfl⟩ := mem_bucket.mp hr
      rw [spared r mem untouched]
      rfl
    rw [bucket_adopt rules, List.map_congr_left same, List.map_id]
  | add t d content here =>
    have elsewhere : ¬(type = t ∧ c = d) := by
      intro same
      obtain ⟨rfl, rfl⟩ := same
      exact untouched here
    rw [bucket_add, if_neg elsewhere, List.append_nil]
  | delete doomed here =>
    rename_i s
    have spared : (s.bucket type c).filter (!doomed ·) = s.bucket type c := by
      refine List.filter_eq_self.mpr fun r hr => ?_
      obtain ⟨mem, rfl, rfl⟩ := mem_bucket.mp hr
      cases dies : doomed r
      · rfl
      · exact absurd (here r mem dies) untouched
    rw [h.bucket_deleteWhere, spared, numberFrom_eq_self (h.numbered type c)]
  | move t d move here =>
    refine h.bucket_reorder_of_ne move ?_
    intro same
    obtain ⟨rfl, rfl⟩ := same
    exact untouched here
  | clear t here rules last =>
    refine (bucket_clear rules type c).trans (if_neg ?_)
    intro same
    subst same
    exact untouched (here c)
  | trans first second ih ih' => rw [ih' (first.wellKept h), ih h]

theorem lastRule_le (change : Change touched s s') : s.lastRule ≤ s'.lastRule := by
  induction change with
  | keep rules last => exact last.ge
  | rewrite content spared rules last => exact last.ge
  | add type c content here => exact Nat.le_succ _
  | delete doomed here => exact (lastRule_deleteWhere _ doomed).ge
  | move type c move here => exact Nat.le_refl _
  | clear type here rules last => exact last.ge
  | trans first second ih ih' => exact Nat.le_trans ih ih'

/-- A rule was there before, for the same form, or its id is new. -/
theorem origin (change : Change touched s s') :
    ∀ r ∈ s'.rules, (∃ r' ∈ s.rules, r'.SameAs r) ∨ s.lastRule < r.id := by
  induction change with
  | keep rules last => exact fun r hr => .inl ⟨r, rules ▸ hr, .refl r⟩
  | rewrite content spared rules last =>
    intro r hr
    rw [rules] at hr
    obtain ⟨r', hr', rfl⟩ := List.mem_map.mp hr
    exact .inl ⟨r', hr', rfl, rfl, rfl⟩
  | add type c content here =>
    intro r hr
    rcases List.mem_append.mp hr with hr | hr
    · exact .inl ⟨r, hr, .refl r⟩
    · rw [List.mem_singleton.mp hr]
      exact .inr (Nat.lt_succ_self _)
  | delete doomed here =>
    intro r hr
    obtain ⟨r', hr', same⟩ := sameAs_of_map_unnumbered (map_unnumbered_deleteWhere _ doomed) r hr
    exact .inl ⟨r', List.mem_of_mem_filter hr', same⟩
  | move type c move here =>
    exact fun r hr => .inl (sameAs_of_map_unnumbered (map_unnumbered_reorder _ type c move) r hr)
  | clear type here rules last =>
    intro r hr
    rw [rules] at hr
    exact .inl ⟨r, List.mem_of_mem_filter hr, .refl r⟩
  | trans first second ih ih' =>
    intro r hr
    rcases ih' r hr with ⟨r', hr', same⟩ | new
    · rcases ih r' hr' with ⟨r'', hr'', same'⟩ | new
      · exact .inl ⟨r'', hr'', same'.trans same⟩
      · exact .inr (same.id ▸ new)
    · exact .inr (Nat.lt_of_le_of_lt first.lastRule_le new)

/-- A rule that was not there before has an id that no rule had before. -/
theorem id_mem_or_lt (change : Change touched s s') :
    ∀ id ∈ s'.rules.map (·.id), id ∈ s.rules.map (·.id) ∨ s.lastRule < id := by
  intro id hid
  obtain ⟨r, hr, rfl⟩ := List.mem_map.mp hid
  refine (change.origin r hr).imp_left fun ⟨r', hr', same⟩ => ?_
  exact List.mem_map.mpr ⟨r', hr', same.id⟩

/-! ### Changes made of others -/

theorem mono {touched' : Id → Combination → Prop} (change : Change touched s s')
    (wider : ∀ type c, touched type c → touched' type c) : Change touched' s s' := by
  induction change with
  | keep rules last => exact .keep rules last
  | rewrite content spared rules last =>
    exact .rewrite content (fun r hr untouched => spared r hr fun here =>
      untouched (wider _ _ here)) rules last
  | add type c content here => exact .add type c content (wider _ _ here)
  | delete doomed here => exact .delete doomed fun r hr dies => wider _ _ (here r hr dies)
  | move type c move here => exact .move type c move (wider _ _ here)
  | clear type here rules last => exact .clear type (fun c => wider _ _ (here c)) rules last
  | trans first second ih ih' => exact ih.trans ih'

theorem foldl_add {copies : List (Combination × RuleContent)} {type : Id}
    (here : ∀ copy ∈ copies, touched type copy.1) (s : RuleSet) :
    Change touched s (copies.foldl (fun s (c, content) => s.add type c content) s) := by
  induction copies generalizing s with
  | nil => exact .keep rfl rfl
  | cons copy rest ih =>
    obtain ⟨c, content⟩ := copy
    have first : Change touched s (s.add type c content) :=
      .add type c content (here _ (List.mem_cons_self ..))
    exact first.trans (ih (fun copy hc => here copy (List.mem_cons_of_mem _ hc)) _)

/-- Dropping forms changes a paradigm and hidden forms as well, which is nothing to the rules. -/
theorem dropForms {type : Id} {chosen : Combination → Bool} (rules : s'.rules = s.rules)
    (last : s'.lastRule = s.lastRule) (here : ∀ c, chosen c = true → touched type c) :
    Change touched s (s'.dropForms type chosen).2 := by
  have hidden : Change touched s { s' with suppressed := s'.suppressed.release type chosen } :=
    .keep rules last
  refine hidden.trans (.delete _ fun r _ dies => ?_)
  simp only [Bool.and_eq_true, beq_iff_eq] at dies
  rw [dies.1]
  exact here _ dies.2

theorem after_bind {α β : Type} {found : Except Fault α} {f : α → Except Fault (β × RuleSet)}
    (change : ∀ a, found = .ok a → Change touched s (s.after (f a))) :
    Change touched s (s.after (found >>= f)) :=
  RuleSet.after_bind (.keep rfl rfl) change

end Change

theorem findDimension_eq_ok {s : RuleSet} {type dimension : Id} {p : Paradigm} {slot : Nat}
    {d : Dimension} (found : s.findDimension type dimension = .ok (p, slot, d)) :
    s.paradigm? type = some p ∧ p.slot? dimension = some slot := by
  unfold findDimension at found
  split at found
  · cases found
  · next p' paradigm =>
    split at found
    · next slot' d' hslot _ =>
      cases found
      exact ⟨paradigm, hslot⟩
    · cases found

/-- An operation changes rules only in the forms that it addresses. -/
theorem perform_change (E : Pattern.Engine) (s : RuleSet) (op : Operation) :
    Change (op.Addresses s) s (s.perform E op) := by
  cases op with
  | add type c content => exact .add type c content ⟨rfl, rfl⟩
  | edit id change =>
    refine .rewrite (fun r => if r.id = id then change r.content else r.content)
      (fun r hr spared => ?_) ?_ rfl
    · exact if_neg fun eq => spared ⟨r, hr, by simp [eq], rfl, rfl⟩
    · refine List.map_congr_left fun r _ => ?_
      split <;> rfl
  | deleteRule id =>
    exact .delete _ fun r hr dies => ⟨r, hr, by simpa using dies, rfl, rfl⟩
  | deleteRules ids =>
    exact .delete _ fun r hr dies => ⟨r, hr, by simpa using dies, rfl, rfl⟩
  | deleteRulesFor type c =>
    exact .delete _ fun r _ dies => by simpa [isFor, Operation.Addresses] using dies
  | moveUp type c ids =>
    rw [perform, moveUp]
    split
    · exact .keep rfl rfl
    · exact .move type c _ ⟨rfl, rfl⟩
  | moveDown type c ids =>
    rw [perform, moveDown]
    split
    · exact .keep rfl rfl
    · exact .move type c _ ⟨rfl, rfl⟩
  | copyToSharers type dimension value ids source =>
    refine .after_bind fun place found => .after_bind fun models _ => ?_
    obtain ⟨p, slot, d⟩ := place
    refine .foldl_add (fun copy hcopy => ?_) s
    obtain ⟨paradigm, hslot⟩ := findDimension_eq_ok found
    obtain ⟨c, target, hc⟩ := List.mem_flatMap.mp hcopy
    obtain ⟨r, -, rfl⟩ := List.mem_map.mp hc
    obtain ⟨listed, chosen⟩ := List.mem_filter.mp target
    simp only [selects, Bool.and_eq_true, bne_iff_ne, beq_iff_eq] at chosen
    exact ⟨rfl, chosen.1, listed, p, slot, paradigm, hslot, chosen.2⟩
  | deleteFromSharers type dimension value ids =>
    refine .after_bind fun place _ => .after_bind fun models _ => .delete _ fun r _ dies => ?_
    simp only [Bool.and_eq_true, beq_iff_eq] at dies
    exact dies.1.1
  | updateEquivalent type model updated =>
    let affected (r : Rule) : Bool := r.type == type && r.id != updated.id && r.equivalent model
    refine .rewrite (fun r => if affected r then updated.content else r.content)
      (fun r _ spared => ?_) ?_ rfl
    · refine if_neg fun hit => spared ?_
      simp only [affected, Bool.and_eq_true, beq_iff_eq] at hit
      exact hit.1.1
    · refine List.map_congr_left fun r _ => ?_
      split <;> simp_all [Rule.adopt]
  | deleteEquivalent type ids =>
    refine .after_bind fun models _ => .delete _ fun r _ dies => ?_
    simp only [Bool.and_eq_true, beq_iff_eq] at dies
    exact dies.1
  | evolve filter find replace =>
    rw [perform, evolveRules]
    split
    · exact .keep rfl rfl
    · refine .rewrite (fun r => if inScope filter r then
        { r.content with transforms := r.content.transforms.map (RuleSet.evolve E find replace) }
          else r.content)
        (fun r _ spared => if_neg fun scope => spared ?_) ?_ rfl
      · intro type h
        obtain rfl := h
        exact (beq_iff_eq.mp scope).symm
      · refine List.map_congr_left fun r _ => ?_
        split <;> rfl
  | purge l => exact .rewrite _ (fun r _ spared => absurd trivial spared) rfl rfl
  | addDimension type label =>
    rw [perform, addDimension, addItem]
    split <;> exact .keep rfl rfl
  | insertDimension type d =>
    rw [perform, insertDimension]
    split <;> exact .keep rfl rfl
  | addValue type dimension label =>
    refine .after_bind fun place _ => ?_
    dsimp only
    split <;> exact .keep rfl rfl
  | addExtra type label =>
    rw [perform, addExtra, addItem]
    split <;> exact .keep rfl rfl
  | insertExtra type e =>
    rw [perform, insertExtra]
    split <;> exact .keep rfl rfl
  | deleteDimension type dimension =>
    exact .after_bind fun place _ => .dropForms rfl rfl fun c cell => ⟨rfl, cell⟩
  | deleteValue type dimension value =>
    refine .after_bind fun place found => ?_
    obtain ⟨p, slot, d⟩ := place
    obtain ⟨paradigm, hslot⟩ := findDimension_eq_ok found
    dsimp only
    split
    · exact .keep rfl rfl
    · refine .dropForms rfl rfl fun c chosen => ⟨rfl, p, slot, paradigm, hslot, ?_⟩
      simpa [selects] using chosen
  | deleteExtra type form =>
    rw [perform, deleteExtra]
    split
    · exact .keep rfl rfl
    · split
      · exact .keep rfl rfl
      · show Change _ s (dropForms _ type (· == .ofForm form)).2
        exact .dropForms rfl rfl fun c chosen => ⟨rfl, beq_iff_eq.mp chosen⟩
  | clearType type => exact .clear type (fun c => rfl) rfl rfl
  | suppress type c hidden => exact .keep rfl rfl
  | loadSuppressed raw => exact .keep rfl rfl

end Conlang.RuleSet
