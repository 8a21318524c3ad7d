import Conlang.Sound.Syllable

/-! What a template fits.

`Fits` reads a template off the characters that it is written with, and knows of no elements.
`fits_iff` says that a text fits a template just when the template can be read and the text fits the
elements that come out; one that can not be read fits nothing. What a single slot stands for is left
open. -/
namespace Conlang.SyllableTemplate

variable (slotFits : Char → List Char → Prop)

/-- Slots in a row, each with its part of the text. -/
inductive RowFits : List Char → List Char → Prop where
  | nil : RowFits [] []
  | cons {slot row part text} : slotFits slot part → RowFits row text →
    RowFits (slot :: row) (part ++ text)

/-- What may stand between a pair of parentheses. -/
def Plain (group : List Char) : Prop := '(' ∉ group ∧ ')' ∉ group

/-- A text fits a template: slots outside of parentheses are filled one after the other, and a group
in parentheses is filled whole or left out. -/
inductive Fits : List Char → List Char → Prop where
  | done : Fits [] []
  | slot {c source part text} : c ≠ '(' → c ≠ ')' → slotFits c part → Fits source text →
      Fits (c :: source) (part ++ text)
  | skipped {group source text} : Plain group → Fits source text →
    Fits ('(' :: group ++ ')' :: source) text
  | taken {group source part text} : Plain group → RowFits slotFits group part → Fits source text →
      Fits ('(' :: group ++ ')' :: source) (part ++ text)

/-- The same for elements. -/
inductive ElementsFit : List TemplateElement → List Char → Prop where
  | done : ElementsFit [] []
  | skipped {e rest text} : e.optional = true → ElementsFit rest text → ElementsFit (e :: rest) text
  | taken {e rest part text} : RowFits slotFits e.slots part → ElementsFit rest text →
      ElementsFit (e :: rest) (part ++ text)

/-! ### Reading -/

/-- What a group adds to the elements behind it. -/
def withGroup (group : List Char) (es : List TemplateElement) : List TemplateElement :=
  if group.isEmpty then es else ⟨group, true⟩ :: es

/-- The elements that a template is written for. -/
inductive Reads : List Char → List TemplateElement → Prop where
  | done : Reads [] []
  | slot {c source es} : c ≠ '(' → c ≠ ')' → Reads source es →
    Reads (c :: source) (⟨[c], false⟩ :: es)
  | group {group source es} : Plain group → Reads source es →
      Reads ('(' :: group ++ ')' :: source) (withGroup group es)

theorem plain_cons {c : Char} {group : List Char} :
    Plain (c :: group) ↔ (c ≠ '(' ∧ c ≠ ')') ∧ Plain group := by
  simp only [Plain, List.mem_cons, not_or]
  constructor
  · intro h
    obtain ⟨⟨first, opens⟩, first', closes⟩ := h
    exact ⟨⟨fun e => first e.symm, fun e => first' e.symm⟩, opens, closes⟩
  · intro h
    obtain ⟨⟨first, first'⟩, opens, closes⟩ := h
    exact ⟨⟨fun e => first e.symm, opens⟩, fun e => first' e.symm, closes⟩

/-- A group that is open takes what is left of it and its closing parenthesis. -/
theorem elements?_group {group : List Char} (plain : Plain group) (slots source : List Char) :
    elements? (some slots) (group ++ ')' :: source) =
      (elements? none source).map (withGroup (slots ++ group)) := by
  induction group generalizing slots with
  | nil =>
    rw [List.nil_append, List.append_nil, elements?]
    rfl
  | cons c group ih =>
    obtain ⟨⟨opens, closes⟩, plain⟩ := plain_cons.mp plain
    rw [List.cons_append, elements?]
    simp only [if_neg opens, if_neg closes]
    rw [ih plain, List.append_assoc]
    rfl

theorem elements?_of_reads {source : List Char} {es : List TemplateElement} (h : Reads source es) :
    elements? none source = some es := by
  induction h with
  | done => rfl
  | slot opens closes _ ih =>
    rw [elements?]
    simp only [if_neg opens, if_neg closes, ih]
    rfl
  | group plain _ ih =>
    rw [List.cons_append, elements?]
    simp only [if_true]
    rw [elements?_group plain, ih]
    rfl

/-- What is left of a template where a group may be open. -/
def ReadsOn : Option (List Char) → List Char → List TemplateElement → Prop
  | none, source, es => Reads source es
  | some slots, text, es => ∃ group source rest, text = group ++ ')' :: source ∧ Plain group ∧
      Reads source rest ∧ es = withGroup (slots ++ group) rest

theorem readsOn_of_elements? (open? : Option (List Char)) (text : List Char)
    (es : List TemplateElement) (h : elements? open? text = some es) : ReadsOn open? text es := by
  -- Reading goes in and out of groups, so one induction has to carry both states.
  induction text generalizing open? es with
  | nil =>
    cases open? with
    | none =>
      obtain rfl : [] = es := Option.some.inj h
      exact .done
    | some slots => cases h
  | cons c text ih =>
    cases open? with
    | none =>
      by_cases opens : c = '('
      · subst opens
        obtain ⟨group, source, rest, rfl, plain, reads, rfl⟩ := ih (some []) es h
        exact .group plain reads
      · by_cases closes : c = ')'
        · simp [elements?, closes] at h
        · simp only [elements?, if_neg opens, if_neg closes, Option.map_eq_some_iff] at h
          obtain ⟨rest, read, rfl⟩ := h
          exact .slot opens closes (ih none rest read)
    | some slots =>
      by_cases opens : c = '('
      · simp [elements?, opens] at h
      · by_cases closes : c = ')'
        · subst closes
          simp only [elements?, if_neg opens, if_true, Option.map_eq_some_iff] at h
          obtain ⟨rest, read, rfl⟩ := h
          exact ⟨[], text, rest, rfl, by simp [Plain], ih none rest read,
            by rw [List.append_nil]; rfl⟩
        · simp only [elements?, if_neg opens, if_neg closes] at h
          obtain ⟨group, source, rest, rfl, plain, reads, rfl⟩ := ih (some (slots ++ [c])) es h
          exact ⟨c :: group, source, rest, rfl, plain_cons.mpr ⟨⟨opens, closes⟩, plain⟩, reads,
            by rw [List.append_assoc]; rfl⟩

theorem elements?_eq_some_iff {source : List Char} {es : List TemplateElement} :
    elements? none source = some es ↔ Reads source es :=
  ⟨readsOn_of_elements? none source es, elements?_of_reads⟩

/-- A template keeps the text that it is read from, and its elements are those that the text is
written for. -/
theorem parse_eq_ok_iff {source : String} {t : SyllableTemplate} :
    parse source = .ok t ↔ t.source = source ∧ t.elements ≠ [] ∧
    Reads source.toList t.elements := by
  rw [← elements?_eq_some_iff, parse]
  obtain ⟨source', es⟩ := t
  constructor
  · intro parsed
    cases read : elements? none source.toList with
    | none => rw [read] at parsed; cases parsed
    | some es' =>
      cases es' with
      | nil => rw [read] at parsed; cases parsed
      | cons e rest =>
        rw [read] at parsed
        cases parsed
        exact ⟨rfl, List.cons_ne_nil e rest, rfl⟩
  · intro h
    obtain ⟨rfl, filled, read⟩ := h
    obtain ⟨e, rest, rfl⟩ := List.exists_cons_of_ne_nil filled
    simp only [read]

/-- A text is a template when it is written for some elements. -/
theorem parse_isOk_iff {source : String} :
    (∃ t, parse source = .ok t) ↔ ∃ es, es ≠ [] ∧ Reads source.toList es := by
  simp only [parse_eq_ok_iff]
  constructor
  · intro h
    obtain ⟨t, -, filled, reads⟩ := h
    exact ⟨t.elements, filled, reads⟩
  · intro h
    obtain ⟨es, filled, reads⟩ := h
    exact ⟨⟨source, es⟩, rfl, filled, reads⟩

/-! ### Fitting -/

section
variable {slotFits}

theorem rowFits_single {slot : Char} {part : List Char} :
    RowFits slotFits [slot] part ↔ slotFits slot part := by
  constructor
  · intro h
    cases h with
    | cons fits rest =>
      cases rest
      rwa [List.append_nil]
  · intro fits
    rw [← List.append_nil part]
    exact .cons fits .nil

theorem elementsFit_withGroup {group text : List Char} {es : List TemplateElement} :
    ElementsFit slotFits (withGroup group es) text ↔
      ElementsFit slotFits es text ∨
        ∃ part rest, text = part ++ rest ∧ RowFits slotFits group part ∧
        ElementsFit slotFits es rest := by
  cases group with
  | nil =>
    constructor
    · exact .inl
    · intro h
      rcases h with fits | ⟨part, rest, rfl, row, fits⟩
      · exact fits
      · cases row
        exact fits
  | cons c group =>
    constructor
    · intro h
      cases h with
      | skipped _ fits => exact .inl fits
      | taken row fits => exact .inr ⟨_, _, rfl, row, fits⟩
    · intro h
      rcases h with fits | ⟨part, rest, rfl, row, fits⟩
      · exact .skipped rfl fits
      · exact .taken row fits

theorem Reads.fits {source text : List Char} {es : List TemplateElement} (h : Reads source es)
    (fits : ElementsFit slotFits es text) : Fits slotFits source text := by
  induction h generalizing text with
  | done =>
    cases fits
    exact .done
  | slot opens closes _ ih =>
    cases fits with
    | skipped optional => cases optional
    | taken row fits => exact .slot opens closes (rowFits_single.mp row) (ih fits)
  | group plain _ ih =>
    rcases elementsFit_withGroup.mp fits with fits | ⟨part, rest, rfl, row, fits⟩
    · exact .skipped plain (ih fits)
    · exact .taken plain row (ih fits)

theorem Fits.exists_reads {source text : List Char} (h : Fits slotFits source text) :
    ∃ es, Reads source es ∧ ElementsFit slotFits es text := by
  induction h with
  | done => exact ⟨[], .done, .done⟩
  | slot opens closes fits _ ih =>
    obtain ⟨es, reads, rest⟩ := ih
    exact ⟨_, .slot opens closes reads, .taken (rowFits_single.mpr fits) rest⟩
  | skipped plain _ ih =>
    obtain ⟨es, reads, rest⟩ := ih
    exact ⟨_, .group plain reads, elementsFit_withGroup.mpr (.inl rest)⟩
  | taken plain row _ ih =>
    obtain ⟨es, reads, rest⟩ := ih
    exact ⟨_, .group plain reads, elementsFit_withGroup.mpr (.inr ⟨_, _, rfl, row, rest⟩)⟩

/-- **A text fits a template just when it fits the elements that are read from it.** -/
theorem fits_iff {source text : List Char} :
    Fits slotFits source text ↔ ∃ es, elements? none source = some es ∧
    ElementsFit slotFits es text := by
  constructor
  · intro h
    obtain ⟨es, reads, fits⟩ := h.exists_reads
    exact ⟨es, elements?_of_reads reads, fits⟩
  · intro h
    obtain ⟨es, read, fits⟩ := h
    exact (elements?_eq_some_iff.mp read).fits fits

/-- The same for the template that a text is read as, where the text fits something that is not
empty. -/
theorem fits_iff_parse {source : String} {text : List Char} (nonempty : text ≠ []) :
    Fits slotFits source.toList text ↔ ∃ t, parse source = .ok t ∧
    ElementsFit slotFits t.elements text := by
  rw [fits_iff]
  constructor
  · intro h
    obtain ⟨es, read, fits⟩ := h
    have filled : es ≠ [] := by
      rintro rfl
      cases fits
      exact nonempty rfl
    exact ⟨⟨source, es⟩, parse_eq_ok_iff.mpr ⟨rfl, filled, elements?_eq_some_iff.mp read⟩, fits⟩
  · intro h
    obtain ⟨t, parsed, fits⟩ := h
    obtain ⟨-, -, reads⟩ := parse_eq_ok_iff.mp parsed
    exact ⟨t.elements, elements?_of_reads reads, fits⟩

end

end Conlang.SyllableTemplate
