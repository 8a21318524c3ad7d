import Conlang.Proofs.RuleSet.Paradigms

/-! Changes that are refused.

An `Edit` names dimensions, values, forms or rules, and is refused when one of them is missing.
`attempt` makes it step by step on the rule set itself, where nothing that was done before a fault
is undone: a value and an extra form are taken out first, and only then is it asked whether anything
has gone; copies are added one by one. This comes to the same as the operation (`Edit.outcome`), so
a refusal leaves no trace (`refused_changes_nothing`). -/
namespace Conlang.RuleSet
open Std

/-! ### What an edit asks for -/

inductive Edit where
  | addValue (type dimension : Id) (label : String)
  | deleteDimension (type dimension : Id)
  | deleteValue (type dimension value : Id)
  | deleteExtra (type form : Id)
  | copyToSharers (type dimension value : Id) (ids : List Nat) (source : Combination)
  | deleteFromSharers (type dimension value : Id) (ids : List Nat)
  | deleteEquivalent (type : Id) (ids : List Nat)

def dimension? (s : RuleSet) (type dimension : Id) : Option Dimension := do
  (← s.paradigm? type).dimension? dimension

/-- Some of the ids has no rule. -/
def LacksRule (s : RuleSet) (ids : List Nat) : Prop := ∃ id ∈ ids, s.rule? id = none

namespace Edit

def operation : Edit → Operation
  | addValue type dimension label => .addValue type dimension label
  | deleteDimension type dimension => .deleteDimension type dimension
  | deleteValue type dimension value => .deleteValue type dimension value
  | deleteExtra type form => .deleteExtra type form
  | copyToSharers type dimension value ids source => .copyToSharers type dimension value ids source
  | deleteFromSharers type dimension value ids => .deleteFromSharers type dimension value ids
  | deleteEquivalent type ids => .deleteEquivalent type ids

/-- Something that the edit names is not there. A dimension is missing also where its paradigm is,
and a value where its dimension is. -/
def Lacks (s : RuleSet) : Edit → Prop
  | addValue type dimension _ | deleteDimension type dimension => s.dimension? type dimension = none
  | deleteValue type dimension value => (s.dimension? type dimension).bind (·.value? value) = none
  | deleteExtra type form => (s.paradigm? type).bind (·.extra? form) = none
  | copyToSharers type dimension _ ids _ | deleteFromSharers type dimension _ ids =>
    s.dimension? type dimension = none ∨ s.LacksRule ids
  | deleteEquivalent _ ids => s.LacksRule ids

/-- A value is to be added behind the highest id there is. Nothing is missing then, but the edit can
not be made. -/
def Overflows (s : RuleSet) : Edit → Prop
  | addValue type dimension _ => ∃ d, s.dimension? type dimension = some d ∧ d.nextValue? = none
  | _ => False

end Edit

/-! ### Changes in place -/

/-- A change of the rule set itself. What was done before a fault stays done. -/
abbrev InPlace := ExceptT Fault (StateM RuleSet)

namespace InPlace

/-- The answer of a change, or its fault, and the rule set that it leaves. -/
def on {α : Type} (m : InPlace α) (s : RuleSet) : Except Fault α × RuleSet := m.run.run s

def find {α : Type} (f : RuleSet → Except Fault α) : InPlace α := do ofExcept (f (← get))

section
variable {α β : Type} {s s' : RuleSet}

theorem on_bind (m : InPlace α) (f : α → InPlace β) (s : RuleSet) :
    (m >>= f).on s = match m.on s with
      | (.ok a, s') => (f a).on s'
      | (.error fault, s') => (.error fault, s') := by
  unfold on ExceptT.run StateT.run
  simp only [bind, ExceptT.bind, ExceptT.mk, StateT.bind, ExceptT.bindCont]
  cases m s with
  | mk result s' => cases result <;> rfl

theorem on_find_bind {f : RuleSet → Except Fault α} {g : α → InPlace β} :
    (find f >>= g).on s = match f s with
      | .ok a => (g a).on s
      | .error fault => (.error fault, s) := by
  have asked : (find f).on s = (f s, s) := by
    show (ofExcept (f s) : InPlace α).on s = _
    cases f s <;> rfl
  rw [on_bind, asked]
  cases f s <;> rfl

theorem on_modify_bind {change : RuleSet → RuleSet} {g : Unit → InPlace β} :
    (modify change >>= g).on s = (g ()).on (change s) := rfl

theorem on_forM {m : α → InPlace PUnit} {change : α → RuleSet → RuleSet}
    (each : ∀ a s, (m a).on s = (.ok ⟨⟩, change a s)) (l : List α) :
    (l.forM m).on s = (.ok ⟨⟩, l.foldl (fun s a => change a s) s) := by
  induction l generalizing s with
  | nil => rfl
  | cons a rest ih =>
    show (m a >>= fun _ => rest.forM m).on s = _
    rw [on_bind, each]
    exact ih

end

/-- Takes rules away and counts them. -/
def delete (doomed : Rule → Bool) : InPlace Answer := do
  let n := (← get).countWhere doomed
  modify (·.deleteWhere doomed)
  pure (.counted n)

/-- Shows the chosen forms again, and takes their rules away. -/
def drop (type : Id) (chosen : Combination → Bool) : InPlace Answer := do
  modify fun s => { s with suppressed := s.suppressed.release type chosen }
  delete fun r => r.type == type && chosen r.combination

end InPlace

open InPlace in
/-- Makes an edit in place. -/
def Edit.attempt : Edit → InPlace Answer
  | addValue type dimension label => do
    let (p, slot, d) ← find (·.findDimension type dimension)
    match d.nextValue? with
    | none => throw .noIdLeft
    | some id =>
      modify (·.setDimension type p slot { d with values := d.values ++ [⟨id, label⟩] })
      pure (.declared id)
  | deleteDimension type dimension => do
    let (p, slot, _) ← find (·.findDimension type dimension)
    modify (·.setParadigm type { p with dimensions := p.dimensions.eraseIdx slot })
    drop type (·.isCell)
  | deleteValue type dimension value => do
    let (p, slot, d) ← find (·.findDimension type dimension)
    let left := d.values.filter (·.id != value)
    modify (·.setDimension type p slot { d with values := left })
    if left.length = d.values.length then throw (.unknownValue dimension value)
      else drop type (selects slot value)
  | deleteExtra type form => do
    let p ← find fun s => (s.paradigm? type).elim (.error (.noParadigm type)) .ok
    let left := p.extras.filter (·.id != form)
    modify (·.setParadigm type { p with extras := left })
    if left.length = p.extras.length then throw (.unknownExtra type form)
      else drop type (· == .ofForm form)
  | copyToSharers type dimension value ids source => do
    let (_, slot, _) ← find (·.findDimension type dimension)
    let models ← find (·.resolve ids)
    let targets := (← get).sharers type slot value source
    targets.forM fun target => models.forM fun model => modify (·.add type target model.content)
    pure (.counted (targets.length * models.length))
  | deleteFromSharers type dimension value ids => do
    let (_, slot, _) ← find (·.findDimension type dimension)
    let models ← find (·.resolve ids)
    delete fun r => r.type == type && selects slot value r.combination && models.any r.equivalent
  | deleteEquivalent type ids => do
    let models ← find (·.resolve ids)
    delete fun r => r.type == type && models.any r.equivalent

/-! ### What is found -/

section
variable {s : RuleSet} {type dimension : Id}

theorem setParadigm_self {p : Paradigm} (known : s.paradigm? type = some p) :
    s.setParadigm type p = s := by
  have same : s.paradigms.insert type p = s.paradigms := by
    refine ExtTreeMap.ext_getElem? fun t => ?_
    rw [ExtTreeMap.getElem?_insert]
    split
    · next here =>
      obtain rfl : type = t := LawfulEqCmp.eq_of_compare here
      exact known.symm
    · rfl
  rw [setParadigm, same]

/-- A dimension is found with its paradigm and its slot, or it is missing. -/
theorem findDimension_cases (s : RuleSet) (type dimension : Id) :
    (∃ p slot d, s.findDimension type dimension = .ok (p, slot, d) ∧
      s.dimension? type dimension = some d) ∨
      ∃ fault, s.findDimension type dimension = .error fault ∧ fault ≠ .noIdLeft ∧
        s.dimension? type dimension = none := by
  rw [findDimension]
  cases known : s.paradigm? type with
  | none => exact .inr ⟨_, rfl, by simp, by rw [dimension?, known]; rfl⟩
  | some p =>
    have there : s.dimension? type dimension = p.dimension? dimension := by
      rw [dimension?, known]; rfl
    have placed : (p.slot? dimension).isSome = (p.dimension? dimension).isSome := by
      rw [Paradigm.slot?, Paradigm.dimension?, List.findIdx?_isSome, Bool.eq_iff_iff,
        List.find?_isSome, List.any_eq_true]
    rw [there]
    dsimp only
    cases found : p.dimension? dimension with
    | none =>
      exact .inr ⟨.unknownDimension type dimension, by cases p.slot? dimension <;> rfl,
        by simp, rfl⟩
    | some d =>
      rw [found] at placed
      obtain ⟨slot, at'⟩ := Option.isSome_iff_exists.mp placed
      exact .inl ⟨p, slot, d, by rw [at'], rfl⟩

/-- The ids name rules, or one of them has none. -/
theorem resolve_cases (s : RuleSet) (ids : List Nat) :
    (∃ models, s.resolve ids = .ok models ∧ ¬s.LacksRule ids) ∨
      ∃ fault, s.resolve ids = .error fault ∧ fault ≠ .noIdLeft ∧ s.LacksRule ids := by
  induction ids with
  | nil => exact .inl ⟨[], rfl, by simp [LacksRule]⟩
  | cons id rest ih =>
    rw [resolve_cons]
    cases named : s.rule? id with
    | none => exact .inr ⟨_, rfl, by simp, id, List.mem_cons_self, named⟩
    | some r =>
      rcases ih with ⟨models, found, all⟩ | ⟨fault, refused, other, lacks⟩
      · rw [found]
        refine .inl ⟨r :: models, rfl, ?_⟩
        rintro ⟨id', mem, none⟩
        rcases List.mem_cons.mp mem with rfl | mem
        · rw [named] at none
          cases none
        · exact all ⟨id', mem, none⟩
      · rw [refused]
        obtain ⟨id', mem, none⟩ := lacks
        exact .inr ⟨fault, rfl, other, id', List.mem_cons_of_mem _ mem, none⟩

end

/-! ### What comes of an edit -/

/-- The answer of a change that may be refused, with the rule set behind it. -/
def told {α : Type} (tell : α → Answer) (change : Except Fault (α × RuleSet)) :
    Except Fault (Answer × RuleSet) :=
  change.map fun (a, s') => (tell a, s')

/-- What an edit comes to when it is made at once. -/
def Edit.change (s : RuleSet) : Edit → Except Fault (Answer × RuleSet)
  | addValue type dimension label => told .declared (s.addValue type dimension label)
  | deleteDimension type dimension => told .counted (s.deleteDimension type dimension)
  | deleteValue type dimension value => told .counted (s.deleteValue type dimension value)
  | deleteExtra type form => told .counted (s.deleteExtra type form)
  | copyToSharers type dimension value ids source =>
      told .counted (s.copyToSharers type dimension value ids source)
  | deleteFromSharers type dimension value ids =>
      told .counted (s.deleteFromSharers type dimension value ids)
  | deleteEquivalent type ids => told .counted (s.deleteEquivalent type ids)

theorem ofChange_eq {α : Type} (tell : α → Answer) (change : Except Fault (α × RuleSet)) :
    Answer.ofChange tell change = Answer.ofChange id (told tell change) := by
  cases change <;> rfl

theorem after_eq {α : Type} (s : RuleSet) (tell : α → Answer)
    (change : Except Fault (α × RuleSet)) :
    s.after change = s.after (told tell change) := by
  cases change <;> rfl

variable (E : Pattern.Engine)

theorem Edit.answer_eq (s : RuleSet) (edit : Edit) :
    s.answer E edit.operation = .ofChange id (edit.change s) := by
  cases edit <;> exact ofChange_eq ..

theorem Edit.perform_eq (s : RuleSet) (edit : Edit) :
    s.perform E edit.operation = s.after (edit.change s) := by
  cases edit <;> exact after_eq ..

/-- What an attempt comes to, and the change at once. -/
inductive Edit.Outcome (edit : Edit) (s : RuleSet) :
    Except Fault Answer × RuleSet → Except Fault (Answer × RuleSet) → Prop
  | refused {fault : Fault} (lacks : edit.Lacks s) (room : ¬edit.Overflows s)
    (named : fault ≠ .noIdLeft) :
    Outcome edit s (.error fault, s) (.error fault)
  | overflowing (has : ¬edit.Lacks s) (full : edit.Overflows s) :
    Outcome edit s (.error .noIdLeft, s) (.error .noIdLeft)
  | made (has : ¬edit.Lacks s) (room : ¬edit.Overflows s) (a : Answer) (s' : RuleSet) :
    Outcome edit s (.ok a, s') (.ok (a, s'))

namespace Edit.Outcome
open InPlace

variable {s : RuleSet} {type dimension value form : Id} {ids : List Nat}

section
variable {edit : Edit} {α β : Type} {tell : β → Answer}

section
variable {look : RuleSet → Except Fault α} {g : α → InPlace Answer} {f : α →
  Except Fault (β × RuleSet)}

theorem of_found {a : α} (found : look s = .ok a)
    (goes : edit.Outcome s ((g a).on s) (told tell (f a))) :
    edit.Outcome s ((find look >>= g).on s) (told tell (look s >>= f)) := by
  rw [on_find_bind, found]
  exact goes

theorem of_missing {fault : Fault} (missing : look s = .error fault) (lacks : edit.Lacks s)
    (room : ¬edit.Overflows s) (named : fault ≠ .noIdLeft) :
    edit.Outcome s ((find look >>= g).on s) (told tell (look s >>= f)) := by
  rw [on_find_bind, missing]
  exact .refused lacks room named

end

theorem of_findDimension {g : Paradigm × Nat × Dimension → InPlace Answer}
    {f : Paradigm × Nat × Dimension → Except Fault (β × RuleSet)}
    (lacks : s.dimension? type dimension = none → edit.Lacks s ∧ ¬edit.Overflows s)
    (goes : ∀ p slot d, s.findDimension type dimension = .ok (p, slot, d) →
      s.dimension? type dimension = some d →
      edit.Outcome s ((g (p, slot, d)).on s) (told tell (f (p, slot, d)))) :
    edit.Outcome s ((find (·.findDimension type dimension) >>= g).on s)
      (told tell (s.findDimension type dimension >>= f)) := by
  rcases findDimension_cases s type dimension
    with ⟨p, slot, d, found, there⟩ | ⟨fault, missing, named, none⟩
  · exact of_found found (goes p slot d found there)
  · exact of_missing missing (lacks none).1 (lacks none).2 named

theorem of_resolve {g : List Rule → InPlace Answer} {f : List Rule → Except Fault (β × RuleSet)}
    (room : ¬edit.Overflows s) (lacks : s.LacksRule ids → edit.Lacks s)
    (goes : ∀ models, ¬s.LacksRule ids → edit.Outcome s ((g models).on s) (told tell (f models))) :
    edit.Outcome s ((find (·.resolve ids) >>= g).on s) (told tell (s.resolve ids >>= f)) := by
  rcases resolve_cases s ids with ⟨models, found, all⟩ | ⟨fault, missing, named, short⟩
  · exact of_found found (goes models all)
  · exact of_missing missing (lacks short) room named

end

theorem addValue (label : String) :
    (Edit.addValue type dimension label).Outcome s
      ((Edit.addValue type dimension label).attempt.on s)
      (told .declared (s.addValue type dimension label)) := by
  rw [attempt, RuleSet.addValue]
  refine of_findDimension (fun none => ⟨none, by simp [Overflows, none]⟩) fun p slot d _ there => ?_
  have has : ¬(Edit.addValue type dimension label).Lacks s := by simp [Lacks, there]
  dsimp only
  cases next : d.nextValue? with
  | none => exact .overflowing has ⟨d, there, next⟩
  | some id => exact .made has (by simp [Overflows, there, next]) _ _

theorem deleteDimension :
    (Edit.deleteDimension type dimension).Outcome s
      ((Edit.deleteDimension type dimension).attempt.on s)
      (told .counted (s.deleteDimension type dimension)) := by
  rw [attempt, RuleSet.deleteDimension]
  refine of_findDimension (fun none => ⟨none, id⟩) fun p slot d _ there => ?_
  exact .made (by simp [Lacks, there]) id _ _

theorem setDimension_self {p : Paradigm} {slot : Nat} {d : Dimension}
    (found : s.findDimension type dimension = .ok (p, slot, d)) :
    s.setDimension type p slot d = s := by
  obtain ⟨known, -, here⟩ := getElem?_of_findDimension found
  obtain ⟨inside, rfl⟩ := List.getElem?_eq_some_iff.mp here
  rw [setDimension, List.set_getElem_self]
  exact setParadigm_self known

/-- Where nothing has the id, taking it out takes nothing. -/
theorem filter_of_find?_none {α : Type} {item : α → Id} {l : List α} {id : Id}
    (missing : l.find? (item · == id) = none) :
    l.filter (item · != id) = l :=
  List.filter_eq_self.mpr fun a mem => by simpa using List.find?_eq_none.mp missing a mem

/-- Where something has the id, taking it out makes the list shorter. -/
theorem length_filter_of_find?_some {α : Type} {item : α → Id} {l : List α} {id : Id} {a : α}
    (found : l.find? (item · == id) = some a) : (l.filter (item · != id)).length ≠ l.length := by
  intro whole
  have other := List.length_filter_eq_length_iff.mp whole a (List.mem_of_find?_eq_some found)
  exact absurd (List.find?_some found) (by simpa using other)

theorem deleteValue :
    (Edit.deleteValue type dimension value).Outcome s
      ((Edit.deleteValue type dimension value).attempt.on s)
      (told .counted (s.deleteValue type dimension value)) := by
  rw [attempt, RuleSet.deleteValue]
  refine of_findDimension (fun none => ⟨by simp [Lacks, none], id⟩) fun p slot d found there => ?_
  dsimp only
  rw [on_modify_bind]
  cases known : d.value? value with
  | none =>
    -- The dimension is written back as it was.
    have whole : d.values.filter (·.id != value) = d.values := filter_of_find?_none known
    rw [if_pos (by rw [whole]), whole, setDimension_self found]
    exact .refused (by simp [Lacks, there, known]) id (by simp)
  | some v =>
    rw [if_neg (length_filter_of_find?_some known)]
    exact .made (by simp [Lacks, there, known]) id _ _

theorem deleteExtra :
    (Edit.deleteExtra type form).Outcome s ((Edit.deleteExtra type form).attempt.on s)
      (told .counted (s.deleteExtra type form)) := by
  rw [attempt, on_find_bind, RuleSet.deleteExtra]
  cases known : s.paradigm? type with
  | none => exact .refused (by simp [Lacks, known]) id (by simp)
  | some p =>
    dsimp only [Option.elim_some]
    rw [on_modify_bind]
    cases declared : p.extra? form with
    | none =>
      -- The paradigm is written back as it was.
      have whole : p.extras.filter (·.id != form) = p.extras := filter_of_find?_none declared
      rw [if_pos (by rw [whole]), whole, setParadigm_self known]
      exact .refused (by simp [Lacks, known, declared]) id (by simp)
    | some e =>
      rw [if_neg (length_filter_of_find?_some declared)]
      exact .made (by simp [Lacks, known, declared]) id _ _

/-- Copies are added one by one, target by target. -/
theorem on_copies (type : Id) (targets : List Combination) (models : List Rule) (s : RuleSet) :
    (targets.forM fun target => models.forM fun model =>
        (modify (·.add type target model.content) : InPlace PUnit)).on s =
      (.ok ⟨⟩, (targets.flatMap fun c => models.map fun r => (c, r.content)).foldl
        (fun s (c, content) => s.add type c content) s) := by
  have one (target : Combination) (s : RuleSet) := on_forM (s := s) (fun (model : Rule) s =>
    show (modify (·.add type target model.content) : InPlace PUnit).on s =
      (.ok ⟨⟩, s.add type target model.content)
      from rfl) models
  rw [on_forM one targets, List.foldl_flatMap]
  simp only [List.foldl_map]

theorem copyToSharers (source : Combination) :
    (Edit.copyToSharers type dimension value ids source).Outcome s
      ((Edit.copyToSharers type dimension value ids source).attempt.on s)
      (told .counted (s.copyToSharers type dimension value ids source)) := by
  rw [attempt, RuleSet.copyToSharers]
  refine of_findDimension (fun none => ⟨.inl none, id⟩) fun p slot d _ there => ?_
  refine of_resolve id .inr fun models all => ?_
  have has : ¬(Edit.copyToSharers type dimension value ids source).Lacks s := by
    simp [Lacks, there, all]
  let targets := s.sharers type slot value source
  let copies := targets.flatMap fun c => models.map fun r => (c, r.content)
  have counted : targets.length * models.length = copies.length := by
    simp [copies, List.length_flatMap]
  show Edit.Outcome _ _
    (((targets.forM fun target =>
        models.forM fun model => (modify (·.add type target model.content) : InPlace PUnit))
      >>= fun _ => pure (.counted (targets.length * models.length))).on s)
    (.ok (.counted copies.length, copies.foldl (fun s (c, content) => s.add type c content) s))
  rw [on_bind, on_copies, counted]
  exact .made has id _ _

theorem deleteFromSharers :
    (Edit.deleteFromSharers type dimension value ids).Outcome s
      ((Edit.deleteFromSharers type dimension value ids).attempt.on s)
      (told .counted (s.deleteFromSharers type dimension value ids)) := by
  rw [attempt, RuleSet.deleteFromSharers]
  refine of_findDimension (fun none => ⟨.inl none, id⟩) fun p slot d _ there => ?_
  refine of_resolve id .inr fun models all => ?_
  exact .made (by simp [Lacks, there, all]) id _ _

theorem deleteEquivalent :
    (Edit.deleteEquivalent type ids).Outcome s ((Edit.deleteEquivalent type ids).attempt.on s)
      (told .counted (s.deleteEquivalent type ids)) := by
  rw [attempt, RuleSet.deleteEquivalent]
  refine of_resolve id id fun models all => ?_
  have has : ¬(Edit.deleteEquivalent type ids).Lacks s := all
  exact .made has id _ _

end Edit.Outcome

theorem Edit.outcome (s : RuleSet) (edit : Edit) :
    edit.Outcome s (edit.attempt.on s) (edit.change s) := by
  cases edit with
  | addValue type dimension label => exact .addValue label
  | deleteDimension => exact .deleteDimension
  | deleteValue => exact .deleteValue
  | deleteExtra => exact .deleteExtra
  | copyToSharers type dimension value ids source => exact .copyToSharers source
  | deleteFromSharers => exact .deleteFromSharers
  | deleteEquivalent => exact .deleteEquivalent

/-- **A refused edit leaves no trace**, although it is made in place: rules, paradigms, hidden forms
and both counters are as they were. It is refused exactly when something that it names is missing.
Besides, a value can not be added behind the highest id there is; that is no refusal, but leaves no
trace either. -/
theorem refused_changes_nothing (s : RuleSet) (edit : Edit) :
    let (result, s') := edit.attempt.on s
    (s.perform E edit.operation = s' ∧
      s.answer E edit.operation = match result with
        | .ok a => a
        | .error fault => .refused fault) ∧
      (∀ fault, result = .error fault → s' = s) ∧
      ((∃ fault, result = .error fault ∧ fault ≠ .noIdLeft) ↔ edit.Lacks s) ∧
      (result = .error .noIdLeft ↔ edit.Overflows s) := by
  rw [edit.perform_eq, edit.answer_eq]
  have outcome := edit.outcome s
  generalize edit.attempt.on s = attempted at outcome
  generalize edit.change s = change at outcome
  cases outcome with
  | @refused fault lacks room named =>
    exact ⟨⟨rfl, rfl⟩, fun _ _ => rfl, ⟨fun _ => lacks, fun _ => ⟨fault, rfl, named⟩⟩,
      ⟨fun same => absurd (Except.error.inj same) named, fun full => absurd full room⟩⟩
  | overflowing has full =>
    refine ⟨⟨rfl, rfl⟩, fun _ _ =>
      rfl, ⟨?_, fun lacks => absurd lacks has⟩, ⟨fun _ => full, fun _ => rfl⟩⟩
    rintro ⟨fault, same, named⟩
    exact absurd (Except.error.inj same).symm named
  | made has room a s' =>
    refine ⟨⟨rfl, rfl⟩, nofun, ⟨?_, fun lacks => absurd lacks has⟩,
      ⟨nofun, fun full => absurd full room⟩⟩
    rintro ⟨fault, same, -⟩
    cases same

end Conlang.RuleSet
