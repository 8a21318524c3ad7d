import Conlang.Proofs.Paradigm.Forms

/-! What the text of a form tells.

The numbers of a form can be read off its text alone: those of a cell stand between its commas
(`spelledValues`), and that of an extra form is the whole text (`spelledForm?`). Both pass over what
is no number, but in the text of a combination there is nothing to pass over, so they find just the
numbers that the combination has. Hence a form that is written from numbers gives them back, and no
two are written alike (`numbers_survive_text`). -/
namespace Conlang
open Text

theorem Text.Numeral.chars_ne_nil (n : Numeral) : n.chars ≠ [] := by
  intro empty
  have reads := n.reads
  rw [empty] at reads
  cases reads

namespace Combination

/-! ### Numbers in texts -/

/-- The numbers between the commas of a text that begins with one. What is no number is left out. -/
def spelledValues : List Char → List Id
  | ',' :: rest =>
    let parts := (fields ',' (',' :: rest)).filter (!·.isEmpty)
    parts.filterMap fun part => (readNumber part).toOption
  | _ => []

/-- The number that a text is, if it does not begin with a comma. -/
def spelledForm? : List Char → Option Id
  | ',' :: _ => none
  | form => (readNumber form).toOption

/-- A numeral does not begin with a comma. -/
theorem numeral_ne_comma_cons (n : Numeral) (rest : List Char) : n.chars ≠ ',' :: rest := by
  intro eq
  exact n.comma_notMem (by simp [eq])

/-- No slot of a cell gets lost between its commas. -/
theorem spelledValues_chars (c : Combination) : spelledValues c.chars = c.values := by
  cases c with
  | cell slots =>
    have parts : (fields ',' (',' :: slotChars slots)).filter (!·.isEmpty) =
        slots.map Numeral.chars := by
      have each : ∀ part ∈ slots.map Numeral.chars, (!part.isEmpty) = true := by
        intro part mem
        obtain ⟨n, -, rfl⟩ := List.mem_map.mp mem
        simpa using n.chars_ne_nil
      have first : fields ',' (',' :: slotChars slots) = [] :: fields ',' (slotChars slots) :=
        if_pos rfl
      rw [first, fields_slotChars, List.filter_cons_of_neg (by simp), List.filter_append,
        List.filter_eq_self.mpr each]
      exact List.append_nil _
    rw [chars, spelledValues, parts, List.filterMap_map, values, ← List.filterMap_eq_map]
    refine List.filterMap_congr fun n _ => ?_
    simp only [Function.comp_apply, n.reads]
    rfl
  | extra form =>
    rw [chars, spelledValues]
    · rfl
    · exact numeral_ne_comma_cons form

theorem spelledForm?_chars (c : Combination) : spelledForm? c.chars = c.form? := by
  cases c with
  | cell slots => rfl
  | extra form =>
    rw [chars, spelledForm?]
    · rw [form.reads]
      rfl
    · exact numeral_ne_comma_cons form

/-! ### Texts -/

theorem text_ofForm (form : Id) : (ofForm form).text = toString form := rfl

theorem text_ofValues (values : List Id) :
    (ofValues values).text = "," ++ String.join (values.map fun id => s!"{id},") := by
  have written (id : Id) : s!"{id},".toList = (Numeral.ofNumber id).chars ++ [','] := by
    show (toString id ++ ",").toList = _
    rw [String.toList_append]
    exact congrArg (· ++ [',']) String.toList_ofList
  apply String.toList_injective
  rw [String.toList_append, String.toList_join, List.flatMap_map]
  simp only [written, text, String.toList_ofList, chars, ofValues, slotChars, List.flatMap_map]
  rfl

/-- **A form that is written from numbers gives them back.** Its text is a comma and each number
with a comma behind it, or the bare number of an extra form, and it reads back as the same form. The
form answers with the numbers that it was made from, slot by slot, and so does its text, where
nothing is passed over. A cell and an extra form never answer for one another, and no two forms have
one text. -/
theorem numbers_survive_text (values : List Id) (form : Id) :
    let cell := ofValues values
    let extra := ofForm form
    (cell.text = "," ++ String.join (values.map fun id => s!"{id},") ∧ extra.text = toString form) ∧
      (parse cell.text = .ok cell ∧ parse extra.text = .ok extra) ∧
      (cell.values = values ∧ spelledValues cell.chars = values ∧
        ∀ slot, cell.valueAt? slot = values[slot]?) ∧
      (extra.form? = some form ∧ spelledForm? extra.chars = some form) ∧
      (extra.values = [] ∧ spelledValues extra.chars = [] ∧ ∀ slot, extra.valueAt? slot = none) ∧
      (cell.form? = none ∧ spelledForm? cell.chars = none) ∧
      ((∀ values', (ofValues values').text = cell.text ↔ values' = values) ∧
        (∀ form', (ofForm form').text = extra.text ↔ form' = form) ∧ cell.text ≠ extra.text) := by
  intro cell extra
  have values_cell : cell.values = values := values_ofValues values
  refine ⟨⟨text_ofValues values, text_ofForm form⟩, ⟨parse_text cell, parse_text extra⟩, ?_, ?_, ?_,
    ?_, ?_, ?_, ?_⟩
  · refine ⟨values_cell, ?_, fun slot => ?_⟩
    · rw [spelledValues_chars, values_cell]
    · rw [valueAt?, values_cell]
  · exact ⟨rfl, spelledForm?_chars extra⟩
  · exact ⟨rfl, spelledValues_chars extra, fun _ => rfl⟩
  · exact ⟨rfl, spelledForm?_chars cell⟩
  · intro values'
    constructor
    · intro same
      exact ofValues_injective (text_injective same)
    · rintro rfl
      rfl
  · intro form'
    constructor
    · intro same
      exact ofForm_injective (text_injective same)
    · rintro rfl
      rfl
  · intro same
    exact ofValues_ne_ofForm values form (text_injective same)

end Combination

end Conlang
