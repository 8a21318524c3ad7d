import Conlang.Proofs.Declension.Replay
import Conlang.Proofs.Results
import Conlang.Proofs.RuleSet.Operation

/-! The table of a word's forms.

A table asks for each form that is not hidden by itself, and is refused when one of them is. Whether
a form is refused does not depend on the form. So the table is refused exactly when all forms are,
and with the same fault, except where there is no form to ask for: then nothing asks for the part of
speech, and the table of a word whose part of speech is not declared is empty (`forms_agree`). -/
namespace Conlang

namespace Language
open Declension

variable (E : Pattern.Engine)

instance : Nonempty Combination :=
  ⟨.ofValues []⟩

/-- Either every form of a word is refused, with one fault, or none is. -/
theorem decline_cases (l : Language) (word : Id) :
    (∃ fault, l.lexicon.declinable word = .error fault ∧ ∀ c, l.decline E word c = .error fault) ∨
      ∃ w, l.lexicon.declinable word = .ok w ∧ ∀ c, ∃ d, l.decline E word c = .ok d := by
  cases known : l.lexicon.declinable word with
  | error fault => exact .inl ⟨fault, rfl, fun c => RuleSet.declineTraced_error known⟩
  | ok w => exact .inr ⟨w, rfl, fun c => ⟨_, RuleSet.declineTraced_ok known⟩⟩

/-! ### Rows -/

/-- A row of a table: a form, and what a word is in it. -/
def IsRow (l : Language) (word : Id) (f : Form) (row : DeclinedForm) : Prop :=
  ∃ d, l.decline E word f.combination = .ok d ∧ row = ⟨f, d.value, d.diagnostics⟩

theorem declineForm_eq_ok_iff {l : Language} {word : Id} {f : Form} {row : DeclinedForm} :
    l.declineForm E word f = .ok row ↔ l.IsRow E word f row := by
  rw [declineForm, IsRow]
  cases l.decline E word f.combination with
  | error fault => simp [bind, Except.bind]
  | ok d => simp [bind, Except.bind, eq_comm]

theorem rows_iff {l : Language} {word : Id} {forms : List Form} {table : List DeclinedForm} :
    forms.mapM (l.declineForm E word) = .ok table ↔ List.Forall₂ (l.IsRow E word) forms table := by
  simp only [mapM_eq_ok_iff, declineForm_eq_ok_iff]

section
variable {l : Language} {word : Id} {forms : List Form}

theorem exists_rows (each : ∀ c, ∃ d, l.decline E word c = .ok d) (forms : List Form) :
    ∃ table, forms.mapM (l.declineForm E word) = .ok table := by
  choose d declined using each
  refine ⟨forms.map fun f =>
    ⟨f, (d f.combination).value, (d f.combination).diagnostics⟩, (rows_iff E).mpr ?_⟩
  exact List.forall₂_map_right_iff.mpr (List.forall₂_same.mpr fun f _ => ⟨_, declined _, rfl⟩)

/-- Where all forms are refused, the first one that is asked for is. -/
theorem rows_refused {fault : Fault} (each : ∀ c, l.decline E word c = .error fault)
    (any : forms ≠ []) :
    forms.mapM (l.declineForm E word) = .error fault := by
  obtain ⟨f, rest, rfl⟩ := List.exists_cons_of_ne_nil any
  rw [List.mapM_cons, declineForm, each]
  rfl

end

/-! ### Tables -/

/-- The forms of a part of speech that are not hidden, in the order of its paradigm. -/
def shown (l : Language) (type : Id) : List Form :=
  (l.rules.paradigm type).forms.filter fun f => !l.rules.isSuppressed type f.combination

theorem forms_of_missing {l : Language} {word : Id} (missing : l.lexicon.word? word = none) :
    l.forms E word = .error (.missingWord word) := by
  rw [forms, lookUp, missing]
  rfl

theorem forms_of_word {l : Language} {word : Id} {w : Word}
    (found : l.lexicon.word? word = some w) :
    l.forms E word = (l.shown w.type).mapM (l.declineForm E word) := by
  rw [forms, lookUp, found]
  rfl

/-- **A table agrees with the forms in it.** It is refused with a fault exactly when every form of
the word is refused with that fault and there is a form to show. Otherwise it has a row for each
form that is not hidden, in the order of the paradigm, and no other, with the value and the
diagnostics that the form has by itself. -/
theorem forms_agree (l : Language) (word : Id) :
    (∀ fault, l.forms E word = .error fault ↔
      (∀ c, l.decline E word c = .error fault) ∧ ∀ w, l.lexicon.word? word = some w →
      l.shown w.type ≠ []) ∧
      ∀ table, l.forms E word = .ok table ↔
        ∃ w, l.lexicon.word? word = some w ∧
        List.Forall₂ (l.IsRow E word) (l.shown w.type) table := by
  cases found : l.lexicon.word? word with
  | none =>
    have refused (c : Combination) : l.decline E word c = .error (.missingWord word) :=
      RuleSet.declineTraced_error (by simp [Lexicon.declinable, found])
    simp [forms_of_missing E found, refused, forall_const]
  | some w =>
    simp only [forms_of_word E found, rows_iff, Option.some.injEq, forall_eq', exists_eq_left',
      implies_true, and_true]
    intro fault
    rcases decline_cases E l word with ⟨fault', -, refused⟩ | ⟨w', -, each⟩
    · by_cases hidden : l.shown w.type = []
      · simp [hidden, pure, Except.pure]
      · simp [rows_refused E refused hidden, refused, hidden, forall_const]
    · obtain ⟨table, rows⟩ := exists_rows E each (l.shown w.type)
      obtain ⟨d, declined⟩ := each (.ofValues [])
      rw [rows]
      refine ⟨by simp, ?_⟩
      rintro ⟨refused, -⟩
      cases (refused _).symm.trans declined

/-- The only form of a part of speech that is not declared is hidden. Its word has no form, for each
is refused, and yet it has a table. -/
theorem forms_of_undeclared_is_empty :
    let E := Pattern.Engine.standard ⟨1000000, 10485760⟩
    let l : Language := {
      lexicon := Lexicon.empty.addWord { id := 1, value := "kat", type := 1 }
      rules := RuleSet.empty.run E [.suppress 1 (.ofValues []) true] }
    l.forms E 1 = .ok [] ∧ ∀ c, l.decline E 1 c = .error (.unknownPartOfSpeech 1 1) := by
  intro E l
  have found : l.lexicon.word? 1 = some { id := 1, value := "kat", type := 1 } := rfl
  refine ⟨?_, fun c => RuleSet.declineTraced_error rfl⟩
  have nothing : l.shown 1 = [] := rfl
  rw [forms_of_word E found, nothing]
  rfl

end Language

end Conlang
