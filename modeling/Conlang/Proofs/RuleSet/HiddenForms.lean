import Conlang.Language
import Conlang.Proofs.RuleSet.Copying

/-! What hidden forms have influence on.

Two rule sets `Agrees` when they are the same but for the forms that they hide. An operation gives
both the same answer and leaves them in agreement (`Agrees.answer_eq`, `Agrees.perform`), so no row
of operations ever tells them apart (`Agrees.run`), and neither does any question but those that ask
for hidden forms (`TellAlike`). -/
namespace Conlang

/-- What an explanation says, apart from whether the form is hidden. -/
def Explanation.shown (e : Explanation) : Explanation := { e with suppressed := false }

namespace RuleSet

/-- The rule sets have the same rules, paradigms and counters. -/
structure Agrees (s s' : RuleSet) : Prop where
  rules : s.rules = s'.rules
  paradigms : s.paradigms = s'.paradigms
  lastRule : s.lastRule = s'.lastRule
  lastItem : s.lastItem = s'.lastItem

/-- Changes with the same outcome, which leave rule sets that agree or are refused for the same
reason. -/
inductive SameOutcome {α : Type} :
    Except Fault (α × RuleSet) → Except Fault (α × RuleSet) → Prop where
  | made {a s s'} : Agrees s s' → SameOutcome (.ok (a, s)) (.ok (a, s'))
  | refused {fault} : SameOutcome (.error fault) (.error fault)

/-- The rule sets answer alike whatever is asked, as long as it is not asked for hidden forms. -/
structure TellAlike (E : Pattern.Engine) (s s' : RuleSet) : Prop where
  isEmpty : s.isEmpty = s'.isEmpty
  rule? : ∀ id, s.rule? id = s'.rule? id
  rulesOf : ∀ type, s.rulesOf type = s'.rulesOf type
  rulesFor : ∀ type c, s.rulesFor type c = s'.rulesFor type c
  deprecated : ∀ type, s.deprecated type = s'.deprecated type
  paradigm? : ∀ type, s.paradigm? type = s'.paradigm? type
  allForms : ∀ type, s.allForms type = s'.allForms type
  label? : ∀ type c, s.label? type c = s'.label? type c
  decline : ∀ l word c, s.decline E l word c = s'.decline E l word c
  declineTraced : ∀ l word c record, s.declineTraced E l word c record =
    s'.declineTraced E l word c record
  explain : ∀ (l : Language) word c,
    ({ l with rules := s }.explain E word c).map Explanation.shown =
      ({ l with rules := s' }.explain E word c).map Explanation.shown

namespace Agrees

theorem hide (s : RuleSet) (hidden : Suppression) : Agrees s { s with suppressed := hidden } :=
  ⟨rfl, rfl, rfl, rfl⟩

section
variable {s s' : RuleSet} (h : Agrees s s')
include h

/-- It is enough to look at one rule set that hides other forms. -/
theorem exists_hide : ∃ hidden, s' = { s with suppressed := hidden } := by
  obtain ⟨rules, paradigms, lastRule, lastItem⟩ := h
  exact ⟨s'.suppressed, by rw [rules, paradigms, lastRule, lastItem]⟩

theorem paradigm?_eq (type : Id) : s'.paradigm? type = s.paradigm? type := by
  rw [RuleSet.paradigm?, RuleSet.paradigm?, h.paradigms]

theorem paradigm_eq (type : Id) : s'.paradigm type = s.paradigm type := by
  rw [RuleSet.paradigm, RuleSet.paradigm, h.paradigm?_eq]

/-! ### Changes -/

theorem settle (type : Id) : Agrees (s.settle type) (s'.settle type) := by
  obtain ⟨hidden, rfl⟩ := h.exists_hide
  exact ⟨rfl, rfl, rfl, rfl⟩

theorem foldl_settle (types : List Id) :
    Agrees (types.foldl RuleSet.settle s) (types.foldl RuleSet.settle s') := by
  induction types generalizing s s' with
  | nil => exact h
  | cons type rest ih => exact ih (h.settle type)

theorem deleteWhere (doomed : Rule → Bool) :
    Agrees (s.deleteWhere doomed) (s'.deleteWhere doomed) := by
  obtain ⟨hidden, rfl⟩ := h.exists_hide
  have left := hide { s with rules := s.rules.filter (!doomed ·) } hidden
  exact left.foldl_settle _

theorem add (type : Id) (c : Combination) (content : RuleContent) :
    Agrees (s.add type c content) (s'.add type c content) := by
  obtain ⟨hidden, rfl⟩ := h.exists_hide
  exact ⟨rfl, rfl, rfl, rfl⟩

theorem foldl_add (copies : List (Combination × RuleContent)) (type : Id) :
    Agrees (copies.foldl (fun s (c, content) => s.add type c content) s)
      (copies.foldl (fun s (c, content) => s.add type c content) s') := by
  induction copies generalizing s s' with
  | nil => exact h
  | cons copy rest ih => exact ih (h.add type copy.1 copy.2)

theorem reorder (type : Id) (c : Combination) (move : List Nat → List Nat) :
    Agrees (s.reorder type c move) (s'.reorder type c move) := by
  obtain ⟨hidden, rfl⟩ := h.exists_hide
  have numbered := hide (s.number type c (move ((s.rulesFor type c).map (·.id)))) hidden
  exact numbered.settle type

end

end Agrees

/-! ### Changes that may be refused -/

namespace SameOutcome
variable {α : Type} {x y : Except Fault (α × RuleSet)}

theorem bind {β : Type} (found : Except Fault β) {f g : β → Except Fault (α × RuleSet)}
    (same : ∀ b, SameOutcome (f b) (g b)) : SameOutcome (found >>= f) (found >>= g) := by
  cases found with
  | error fault => exact .refused
  | ok b => exact same b

theorem answer_eq (h : SameOutcome x y) (tell : α → Answer) :
    Answer.ofChange tell x = Answer.ofChange tell y := by
  cases h <;> rfl

theorem after (h : SameOutcome x y) {s s' : RuleSet} (agree : Agrees s s') :
    Agrees (s.after x) (s'.after y) := by
  cases h with
  | made left => exact left
  | refused => exact agree

end SameOutcome

namespace Agrees
variable {s s' : RuleSet} (h : Agrees s s')
include h

/-- Forms that go are shown again in both. -/
theorem dropForms (type : Id) (p : Paradigm) (chosen : Combination → Bool) :
    SameOutcome (.ok ((s.setParadigm type p).dropForms type chosen))
      (.ok ((s'.setParadigm type p).dropForms type chosen)) := by
  obtain ⟨hidden, rfl⟩ := h.exists_hide
  have released :
    Agrees { s.setParadigm type p with suppressed := s.suppressed.release type chosen }
      { s.setParadigm type p with suppressed := hidden.release type chosen } := ⟨rfl, rfl, rfl, rfl⟩
  exact .made (released.deleteWhere _)

theorem copyToSharers (type dimension value : Id) (ids : List Nat) (source : Combination) :
    SameOutcome (s.copyToSharers type dimension value ids source)
      (s'.copyToSharers type dimension value ids source) := by
  obtain ⟨hidden, rfl⟩ := h.exists_hide
  exact .bind (s.findDimension type dimension) fun _ => .bind (s.resolve ids) fun _ =>
    .made (h.foldl_add _ type)

theorem deleteFromSharers (type dimension value : Id) (ids : List Nat) :
    SameOutcome (s.deleteFromSharers type dimension value ids)
      (s'.deleteFromSharers type dimension value ids) := by
  obtain ⟨hidden, rfl⟩ := h.exists_hide
  exact .bind (s.findDimension type dimension) fun _ => .bind (s.resolve ids) fun _ =>
    .made (h.deleteWhere _)

theorem deleteEquivalent (type : Id) (ids : List Nat) :
    SameOutcome (s.deleteEquivalent type ids) (s'.deleteEquivalent type ids) := by
  obtain ⟨hidden, rfl⟩ := h.exists_hide
  exact .bind (s.resolve ids) fun _ => .made (h.deleteWhere _)

theorem addItem (type : Id) (change : Id → Paradigm → Paradigm) :
    SameOutcome (s.addItem type change) (s'.addItem type change) := by
  obtain ⟨hidden, rfl⟩ := h.exists_hide
  have next : ({ s with suppressed := hidden } : RuleSet).nextItem? = s.nextItem? := rfl
  rw [RuleSet.addItem, RuleSet.addItem, next]
  cases s.nextItem? with
  | none => exact .refused
  | some id => exact .made ⟨rfl, rfl, rfl, rfl⟩

theorem insertExtra (type : Id) (e : ExtraForm) :
    SameOutcome ((s.insertExtra type e).map ((), ·)) ((s'.insertExtra type e).map ((), ·)) := by
  simp only [RuleSet.insertExtra, h.paradigm_eq]
  obtain ⟨hidden, rfl⟩ := h.exists_hide
  split
  · exact .refused
  · exact .made ⟨rfl, rfl, rfl, rfl⟩

theorem addValue (type dimension : Id) (label : String) :
    SameOutcome (s.addValue type dimension label) (s'.addValue type dimension label) := by
  obtain ⟨hidden, rfl⟩ := h.exists_hide
  refine .bind (s.findDimension type dimension) fun place => ?_
  obtain ⟨p, slot, d⟩ := place
  dsimp only
  cases d.nextValue? with
  | none => exact .refused
  | some id => exact .made ⟨rfl, rfl, rfl, rfl⟩

theorem deleteDimension (type dimension : Id) :
    SameOutcome (s.deleteDimension type dimension) (s'.deleteDimension type dimension) := by
  obtain ⟨hidden, rfl⟩ := h.exists_hide
  exact .bind (s.findDimension type dimension) fun _ => h.dropForms type _ _

theorem deleteValue (type dimension value : Id) :
    SameOutcome (s.deleteValue type dimension value) (s'.deleteValue type dimension value) := by
  obtain ⟨hidden, rfl⟩ := h.exists_hide
  refine .bind (s.findDimension type dimension) fun place => ?_
  obtain ⟨p, slot, d⟩ := place
  dsimp only
  split
  · exact .refused
  · exact h.dropForms type _ _

theorem deleteExtra (type form : Id) :
    SameOutcome (s.deleteExtra type form) (s'.deleteExtra type form) := by
  rw [RuleSet.deleteExtra, RuleSet.deleteExtra, h.paradigm?_eq]
  cases s.paradigm? type with
  | none => exact .refused
  | some p =>
    dsimp only
    split
    · exact .refused
    · exact h.dropForms type _ _

/-! ### Operations -/

variable (E : Pattern.Engine)

theorem answer_eq (op : Operation) : s.answer E op = s'.answer E op := by
  cases op with
  | copyToSharers type dimension value ids source =>
    exact (h.copyToSharers type dimension value ids source).answer_eq _
  | deleteFromSharers type dimension value ids =>
    exact (h.deleteFromSharers type dimension value ids).answer_eq _
  | deleteEquivalent type ids => exact (h.deleteEquivalent type ids).answer_eq _
  | addDimension type label => exact (h.addItem type _).answer_eq _
  | addExtra type label => exact (h.addItem type _).answer_eq _
  | addValue type dimension label => exact (h.addValue type dimension label).answer_eq _
  | insertExtra type e => exact (h.insertExtra type e).answer_eq _
  | deleteDimension type dimension => exact (h.deleteDimension type dimension).answer_eq _
  | deleteValue type dimension value => exact (h.deleteValue type dimension value).answer_eq _
  | deleteExtra type form => exact (h.deleteExtra type form).answer_eq _
  | insertDimension type d =>
    simp only [RuleSet.answer, RuleSet.insertDimension, h.paradigm_eq]
    cases takenBy? (s.paradigm type) d <;> rfl
  | _ =>
    obtain ⟨hidden, rfl⟩ := h.exists_hide
    rfl

theorem perform (op : Operation) : Agrees (s.perform E op) (s'.perform E op) := by
  cases op with
  | copyToSharers type dimension value ids source =>
    exact (h.copyToSharers type dimension value ids source).after h
  | deleteFromSharers type dimension value ids =>
    exact (h.deleteFromSharers type dimension value ids).after h
  | deleteEquivalent type ids => exact (h.deleteEquivalent type ids).after h
  | addDimension type label => exact (h.addItem type _).after h
  | addExtra type label => exact (h.addItem type _).after h
  | addValue type dimension label => exact (h.addValue type dimension label).after h
  | insertExtra type e => exact (h.insertExtra type e).after h
  | deleteDimension type dimension => exact (h.deleteDimension type dimension).after h
  | deleteValue type dimension value => exact (h.deleteValue type dimension value).after h
  | deleteExtra type form => exact (h.deleteExtra type form).after h
  | deleteRule | deleteRules | deleteRulesFor => exact h.deleteWhere _
  | moveUp type c ids | moveDown type c ids =>
    simp only [RuleSet.perform, moveUp, moveDown]
    split
    · exact h
    · exact h.reorder type c _
  | evolve filter find replace =>
    obtain ⟨hidden, rfl⟩ := h.exists_hide
    rw [RuleSet.perform, RuleSet.perform, evolveRules, evolveRules]
    split <;> exact ⟨rfl, rfl, rfl, rfl⟩
  | insertDimension type d =>
    rw [RuleSet.perform, RuleSet.perform, RuleSet.insertDimension, RuleSet.insertDimension,
      h.paradigm_eq]
    obtain ⟨hidden, rfl⟩ := h.exists_hide
    cases takenBy? (s.paradigm type) d <;> exact ⟨rfl, rfl, rfl, rfl⟩
  | _ =>
    obtain ⟨hidden, rfl⟩ := h.exists_hide
    exact ⟨rfl, rfl, rfl, rfl⟩

theorem run (ops : List Operation) :
    s.answers E ops = s'.answers E ops ∧ Agrees (s.run E ops) (s'.run E ops) := by
  induction ops generalizing s s' with
  | nil => exact ⟨rfl, h⟩
  | cons op rest ih =>
    obtain ⟨answers, left⟩ := ih (h.perform E op)
    exact ⟨by rw [RuleSet.answers, RuleSet.answers, h.answer_eq E op, answers], left⟩

theorem tellAlike : TellAlike E s s' := by
  obtain ⟨hidden, rfl⟩ := h.exists_hide
  have explain (l : Language) (word : Id) (c : Combination) :
      ({ l with rules := s }.explain E word c).map Explanation.shown =
        ({ l with rules := { s with suppressed := hidden } }.explain E word c).map
        Explanation.shown := by
    have forms : ({ l with rules := { s with suppressed := hidden } } : Language).decline E word c =
        ({ l with rules := s } : Language).decline E word c := rfl
    have words : ({ l with rules := { s with suppressed := hidden } } : Language).lookUp word =
        ({ l with rules := s } : Language).lookUp word := rfl
    rw [Language.explain, Language.explain, forms, words]
    cases ({ l with rules := s } : Language).decline E word c with
    | error fault => rfl
    | ok d => cases ({ l with rules := s } : Language).lookUp word <;> rfl
  exact ⟨rfl, fun _ => rfl, fun _ => rfl, fun _ _ => rfl, fun _ => rfl, fun _ => rfl, fun _ =>
    rfl, fun _ _ => rfl,
    fun _ _ _ => rfl, fun _ _ _ _ => rfl, explain⟩

end Agrees

/-- **Hidden forms have influence on nothing but listings.** Take two rule sets that have come about
by operations and agree on all but the forms that they hide. Any operations get the same answers
from both and leave them in agreement; they have the same rules, deprecated rules, paradigms and
labels, every word takes the same form, with the same diagnostics and trace, and explanations differ
in whether the form is hidden at most. What each lists is the same row of forms, less those that it
hides itself. Copying rules spares no hidden form: every cell that has the value, except the source,
gets the copies. -/
theorem hidden_forms_tell_nothing (E : Pattern.Engine) (earlier earlier' : List Operation)
    (agree : Agrees (empty.run E earlier) (empty.run E earlier')) (ops : List Operation) :
    let s := empty.run E earlier
    let s' := empty.run E earlier'
    s.answers E ops = s'.answers E ops ∧
      Agrees (s.run E ops) (s'.run E ops) ∧
      TellAlike E (s.run E ops) (s'.run E ops) ∧
      (∀ type, (s'.run E ops).forms type =
        ((s.run E ops).allForms type).filter fun f =>
          !(s'.run E ops).isSuppressed type f.combination) ∧
      ∀ type dimension value ids source n copied,
        s.copyToSharers type dimension value ids source = .ok (n, copied) →
          ∃ models, s.resolve ids = .ok models ∧
            ∀ c ∈ (s.allForms type).map (·.combination), c ≠ source →
            s.HasValue type dimension value c →
              copied.contents type c = s.contents type c ++ models.map (·.content) := by
  intro s s'
  obtain ⟨answers, left⟩ := agree.run E ops
  have alike := left.tellAlike E
  refine ⟨answers, left, alike, fun type => ?_,
    fun type dimension value ids source n copied made => ?_⟩
  · rw [alike.allForms]
    rfl
  · exact contents_copyToSharers (wellKept_run E earlier) (distinct_history E earlier type) made

/-- One of two rule sets hides the genitive, which gets a copy all the same and then goes with its
value. -/
theorem hidden_forms_tell_nothing_genitive :
    let E := Pattern.Engine.standard ⟨1000000, 10485760⟩
    let nominative : Combination := .ofValues [1, 1]
    let genitive : Combination := .ofValues [1, 2]
    let earlier : List Operation :=
      [.insertDimension 1 ⟨1, "number", [⟨1, "singular"⟩]⟩,
        .insertDimension 1 ⟨2, "case", [⟨1, "nominative"⟩, ⟨2, "genitive"⟩]⟩,
        .add 1 nominative { name := "ending" }]
    let ops : List Operation := [.copyToSharers 1 1 1 [1] nominative, .deleteValue 1 2 2]
    let s := empty.run E (earlier ++ [.suppress 1 genitive true])
    let s' := empty.run E earlier
    s.isSuppressed 1 genitive = true ∧ s'.isSuppressed 1 genitive = false ∧ Agrees s s' ∧
      s.answers E ops = s'.answers E ops ∧ s'.answers E ops = [.counted 1, .counted 1] ∧
      Agrees (s.run E ops) (s'.run E ops) ∧ TellAlike E (s.run E ops) (s'.run E ops) := by
  intro E nominative genitive earlier ops s s'
  have agree : Agrees s s' := ⟨rfl, rfl, rfl, rfl⟩
  obtain ⟨answers, left, alike, -⟩ := hidden_forms_tell_nothing E _ _ agree ops
  have counted : s'.answers E ops = [.counted 1, .counted 1] := by decide +kernel
  exact ⟨by decide, by decide, agree, answers, counted, left, alike⟩

end RuleSet

end Conlang
