import Conlang.Proofs.Syllable.Building
import Conlang.Proofs.Text.Replacing

/-! Which texts are templates.

It depends on the parentheses of a text alone whether it can be read: they have to pair off
(`Balanced`), one pair after the other (not `Nested`). A reader goes through a text from the front,
and a group may be open where it is: `Paired` says both of what is left there
(`isSome_elements?_iff`).

What is read can be written again, and then it is the text without its empty pairs
(`Reads.replaces`). Elements that are as the reader makes them can be told from how they are written
(`eq_of_written_eq`), so no others could have been read. -/
namespace Conlang

namespace TemplateElement

/-- How an element is written. -/
def chars (e : TemplateElement) : List Char :=
  if e.optional then '(' :: e.slots ++ [')'] else e.slots

/-- An element as it can be written: a group that is not empty, or a slot alone. -/
structure IsProper (e : TemplateElement) : Prop where
  filled : e.slots ≠ []
  plain : SyllableTemplate.Plain e.slots
  single : e.optional = false → ∃ c, e.slots = [c]

end TemplateElement

namespace SyllableTemplate
open SyllableGrammar

/-- How elements are written. -/
def written (es : List TemplateElement) : List Char := es.flatMap TemplateElement.chars

/-- A character that can be a slot. -/
def IsSlot (c : Char) : Prop := c ≠ '(' ∧ c ≠ ')'

/-- No parenthesis closes without one that is open, and none stays open. -/
structure Balanced (s : List Char) : Prop where
  opened : ∀ front, front <+: s → front.count ')' ≤ front.count '('
  closed : s.count '(' = s.count ')'

/-- Somewhere more than one parenthesis is open. -/
def Nested (s : List Char) : Prop := ∃ front, front <+: s ∧ front.count ')' + 1 < front.count '('

/-! ### Parentheses -/

/-- Where `d` parentheses are open before a text, it closes all, and more than one is never open. -/
structure Paired (d : Nat) (s : List Char) : Prop where
  inside : ∀ front, front <+: s → front.count ')' ≤ d + front.count '(' ∧
    d + front.count '(' ≤ front.count ')' + 1
  closed : d + s.count '(' = s.count ')'

theorem paired_zero_iff {s : List Char} : Paired 0 s ↔ Balanced s ∧ ¬Nested s := by
  constructor
  · intro h
    refine ⟨⟨fun front within => ?_, ?_⟩, fun ⟨front, within, deep⟩ => ?_⟩
    · simpa using (h.inside front within).1
    · simpa using h.closed
    · have := (h.inside front within).2
      omega
  · intro h
    obtain ⟨balanced, flat⟩ := h
    refine ⟨fun front within => ?_, by simpa using balanced.closed⟩
    have opened := balanced.opened front within
    have shallow : ¬front.count ')' + 1 < front.count '(' := fun deep => flat ⟨front, within, deep⟩
    omega

theorem paired_nil {d : Nat} : Paired d [] ↔ d = 0 := by
  constructor
  · intro h
    simpa using h.closed
  · intro none
    subst none
    exact ⟨fun front within => by simp [List.prefix_nil.mp within], rfl⟩

/-- The parts of a text that begin it, the character at its front apart. -/
theorem paired_cons {d : Nat} {c : Char} {s : List Char} :
    Paired d (c :: s) ↔ d ≤ 1 ∧
      (∀ front, front <+: s → (c :: front).count ')' ≤ d + (c :: front).count '(' ∧
        d + (c :: front).count '(' ≤ (c :: front).count ')' + 1) ∧
      d + (c :: s).count '(' = (c :: s).count ')' := by
  constructor
  · intro h
    refine ⟨?_, fun front within => h.inside _ (List.cons_prefix_cons.mpr ⟨rfl, within⟩), h.closed⟩
    simpa using (h.inside [] List.nil_prefix).2
  · intro h
    obtain ⟨few, inside, closed⟩ := h
    refine ⟨fun front within => ?_, closed⟩
    rcases List.prefix_cons_iff.mp within with rfl | ⟨front, rfl, behind⟩
    · simpa using few
    · exact inside front behind

theorem Paired.le_one {d : Nat} {s : List Char} (h : Paired d s) : d ≤ 1 := by
  simpa using (h.inside [] List.nil_prefix).2

theorem paired_open {d : Nat} {s : List Char} : Paired d ('(' :: s) ↔ Paired (d + 1) s := by
  simp only [paired_cons, List.count_cons_self, List.count_cons_of_ne (show '(' ≠ ')' by decide)]
  constructor
  · intro h
    obtain ⟨-, inside, closed⟩ := h
    refine ⟨fun front within => ?_, by omega⟩
    have := inside front within
    omega
  · intro h
    refine ⟨by have := h.le_one; omega, fun front within => ?_, by have := h.closed; omega⟩
    have := h.inside front within
    omega

theorem paired_close {d : Nat} {s : List Char} : Paired d (')' :: s) ↔ d = 1 ∧ Paired 0 s := by
  simp only [paired_cons, List.count_cons_self, List.count_cons_of_ne (show ')' ≠ '(' by decide)]
  constructor
  · intro h
    obtain ⟨few, inside, closed⟩ := h
    obtain rfl : d = 1 := by
      have := (inside [] List.nil_prefix).1
      simp only [List.count_nil] at this
      omega
    refine ⟨rfl, fun front within => ?_, by omega⟩
    have := inside front within
    omega
  · intro h
    obtain ⟨rfl, h⟩ := h
    refine ⟨Nat.le_refl 1, fun front within => ?_, by have := h.closed; omega⟩
    have := h.inside front within
    omega

theorem paired_slot {d : Nat} {c : Char} {s : List Char} (slot : IsSlot c) :
    Paired d (c :: s) ↔ Paired d s := by
  simp only [paired_cons, List.count_cons_of_ne slot.1, List.count_cons_of_ne slot.2]
  exact ⟨fun h => ⟨h.2.1, h.2.2⟩, fun h => ⟨h.le_one, h.inside, h.closed⟩⟩

/-- What is left of a text can be read just when its parentheses pair off with the one that is
open. -/
theorem isSome_elements?_iff (open? : Option (List Char)) (s : List Char) :
    (elements? open? s).isSome ↔ Paired open?.toList.length s := by
  induction s generalizing open? with
  | nil => cases open? <;> simp [elements?, paired_nil]
  | cons c s ih =>
    by_cases opens : c = '('
    · subst opens
      rw [paired_open]
      cases open? with
      | none => exact ih (some [])
      | some slots =>
        refine iff_of_false (by simp [elements?]) fun h => ?_
        have := h.le_one
        simp at this
    · by_cases closes : c = ')'
      · subst closes
        rw [paired_close]
        cases open? with
        | none => simp [elements?]
        | some slots => simpa [elements?] using ih none
      · rw [paired_slot ⟨opens, closes⟩]
        cases open? with
        | none => simpa [elements?, opens, closes] using ih none
        | some slots => simpa [elements?, opens, closes] using ih (some (slots ++ [c]))

theorem exists_reads_iff {s : List Char} : (∃ es, Reads s es) ↔ Balanced s ∧ ¬Nested s := by
  have read : (elements? none s).isSome ↔ Paired 0 s := isSome_elements?_iff none s
  rw [← paired_zero_iff, ← read, Option.isSome_iff_exists]
  exact exists_congr fun es => elements?_eq_some_iff.symm

/-! ### Writing -/

theorem written_withGroup (group : List Char) (es : List TemplateElement) :
    written (withGroup group es) = if group.isEmpty then written es
      else '(' :: group ++ ')' :: written es := by
  rw [withGroup]
  split <;> simp [written, TemplateElement.chars]

/-- Nothing is replaced where the sought text can not begin. -/
theorem replaces_append {first : Char} {others new cs rest rest' : List Char} (other : first ∉ cs)
    (h : Text.Replaces (first :: others) new rest rest') :
    Text.Replaces (first :: others) new (cs ++ rest) (cs ++ rest') := by
  induction cs with
  | nil => exact h
  | cons c cs ih =>
    rw [List.mem_cons, not_or] at other
    exact .passed (fun front => other.1 (List.cons_prefix_cons.mp front).1) (ih other.2)

/-- Elements that have been read are written as the text is, without its empty pairs. -/
theorem Reads.replaces {s : List Char} {es : List TemplateElement} (h : Reads s es) :
    Text.Replaces ['(', ')'] [] s (written es) := by
  induction h with
  | done => exact .nil
  | slot opens _ _ ih =>
    exact .passed (fun front => opens (List.cons_prefix_cons.mp front).1.symm) ih
  | @group group source es plain _ ih =>
    rw [written_withGroup]
    cases group with
    | nil => exact .found ih
    | cons c group =>
      -- A slot stands behind the parenthesis, so this is no empty pair, and no other begins before
      -- it closes.
      refine .passed (fun front => ?_) ?_
      · have second := (List.cons_prefix_cons.mp (List.cons_prefix_cons.mp front).2).1
        exact (plain_cons.mp plain).1.2 second.symm
      · have closing : Text.Replaces ['(', ')'] [] (')' :: source) (')' :: written es) :=
          .passed (fun front => absurd (List.cons_prefix_cons.mp front).1 (by decide)) ih
        exact replaces_append plain.1 closing

theorem Reads.proper {s : List Char} {es : List TemplateElement} (h : Reads s es) :
    ∀ e ∈ es, e.IsProper := by
  induction h with
  | done => exact List.forall_mem_nil _
  | @slot c _ _ opens closes _ ih =>
    have alone : Plain [c] := plain_cons.mpr ⟨⟨opens, closes⟩, by simp [Plain]⟩
    exact List.forall_mem_cons.mpr ⟨⟨List.cons_ne_nil c [], alone, fun _ => ⟨c, rfl⟩⟩, ih⟩
  | @group group _ _ plain _ ih =>
    rw [withGroup]
    split
    · exact ih
    · next filled =>
      have proper : TemplateElement.IsProper ⟨group, true⟩ :=
        ⟨by simpa using filled, plain, fun alone => Bool.noConfusion alone⟩
      exact List.forall_mem_cons.mpr ⟨proper, ih⟩

/-- What is written for elements is read as these. -/
theorem reads_written {es : List TemplateElement} (proper : ∀ e ∈ es, e.IsProper) :
    Reads (written es) es := by
  induction es with
  | nil => exact .done
  | cons e es ih =>
    obtain ⟨first, others⟩ := List.forall_mem_cons.mp proper
    obtain ⟨slots, optional⟩ := e
    cases optional with
    | false =>
      obtain ⟨c, rfl⟩ : ∃ c, slots = [c] := first.single rfl
      obtain ⟨opens, closes⟩ := (plain_cons.mp first.plain).1
      exact .slot opens closes (ih others)
    | true =>
      have grouped := Reads.group first.plain (ih others)
      rw [withGroup, if_neg (by simpa using first.filled)] at grouped
      simpa [written, TemplateElement.chars] using grouped

theorem eq_of_written_eq {es es' : List TemplateElement} (proper : ∀ e ∈ es, e.IsProper)
    (proper' : ∀ e ∈ es', e.IsProper) (same : written es = written es') : es = es' := by
  have read := elements?_of_reads (reads_written proper)
  rw [same, elements?_of_reads (reads_written proper')] at read
  exact (Option.some.inj read).symm

/-- Elements come from slots. -/
theorem Reads.eq_nil_iff {s : List Char} {es : List TemplateElement} (h : Reads s es) :
    es = [] ↔ ∀ c ∈ s, ¬IsSlot c := by
  induction h with
  | done => simp
  | slot opens closes _ _ =>
    exact iff_of_false (List.cons_ne_nil _ _) fun none => none _ List.mem_cons_self ⟨opens, closes⟩
  | @group group source es plain _ ih =>
    cases group with
    | nil => simpa [withGroup, IsSlot] using ih
    | cons c group =>
      refine iff_of_false (List.cons_ne_nil _ _) fun none => none c ?_ (plain_cons.mp plain).1
      exact List.mem_cons_of_mem _ (List.mem_append_left _ List.mem_cons_self)

/-! ### Templates -/

section
variable {source : String}

theorem parse_eq_unbalanced_iff :
    parse source = .error (.unbalanced source) ↔ ¬∃ es, Reads source.toList es := by
  simp only [← elements?_eq_some_iff, ← Option.isSome_iff_exists, parse]
  split <;> simp_all

theorem parse_eq_noSlots_iff :
    parse source = .error (.noSlots source) ↔ Reads source.toList [] := by
  rw [← elements?_eq_some_iff, parse]
  split <;> simp_all

theorem addTo_template_eq_self_iff (g : SyllableGrammar) :
    Addition.addTo g (.template source) = g ↔ ∃ e, parse source = .error e ∧
    g.addTemplate source = .error e := by
  cases parsed : parse source with
  | error e =>
    refine iff_of_true (addTo_template_error parsed) ⟨e, rfl, ?_⟩
    rw [addTemplate, parsed]
    rfl
  | ok t =>
    rw [addTo_template_ok parsed]
    refine iff_of_false (fun same => ?_) (by simp)
    simpa using congrArg (·.templates) same

end

/-- **A text is a template when its parentheses pair off one after the other and there is a slot.**
Written again, its elements are the text without its empty pairs. Each has a slot, and no other
elements are written so. If the parentheses do not pair off, this is the fault, whatever else the
text lacks; only of a text whose parentheses do is the fault that there is no slot. A grammar stays
as it is just when a template is refused. -/
theorem parse_exact (source : String) :
    ((∃ t, parse source = .ok t) ↔
      Balanced source.toList ∧ ¬Nested source.toList ∧ ∃ c ∈ source.toList, IsSlot c) ∧
    (∀ t, parse source = .ok t →
      t.source = source ∧
        String.ofList (written t.elements) = Text.replaceLiteral "()" "" false source ∧
      (∀ e ∈ t.elements, e.IsProper) ∧
      ∀ es, (∀ e ∈ es, e.IsProper) → written es = written t.elements → es = t.elements) ∧
    (parse source = .error (.unbalanced source) ↔ ¬Balanced source.toList ∨ Nested source.toList) ∧
    (parse source = .error (.noSlots source) ↔
      Balanced source.toList ∧ ¬Nested source.toList ∧ ∀ c ∈ source.toList, ¬IsSlot c) ∧
    ∀ g : SyllableGrammar,
      Addition.addTo g (.template source) = g ↔ ∃ e, parse source = .error e ∧
      g.addTemplate source = .error e := by
  refine ⟨?_, fun t parsed => ?_, ?_, ?_, addTo_template_eq_self_iff⟩
  · rw [parse_isOk_iff, ← and_assoc, ← exists_reads_iff]
    constructor
    · intro h
      obtain ⟨es, filled, reads⟩ := h
      exact ⟨⟨es, reads⟩, by simpa using mt reads.eq_nil_iff.mpr filled⟩
    · intro h
      obtain ⟨⟨es, reads⟩, c, mem, slot⟩ := h
      exact ⟨es, fun empty => reads.eq_nil_iff.mp empty c mem slot, reads⟩
  · obtain ⟨kept, -, reads⟩ := parse_eq_ok_iff.mp parsed
    have replaced : Text.Replaces "()".toList "".toList source.toList
        (String.ofList (written t.elements)).toList := by
      rw [String.toList_empty, String.toList_ofList (l := written t.elements)]
      exact reads.replaces
    exact ⟨kept, (Text.replaces_iff (by decide)).mp replaced, reads.proper,
      fun es proper same => eq_of_written_eq proper reads.proper same⟩
  · rw [parse_eq_unbalanced_iff, exists_reads_iff, Classical.not_and_iff_not_or_not,
      Classical.not_not]
  · rw [parse_eq_noSlots_iff, ← and_assoc, ← exists_reads_iff]
    constructor
    · intro reads
      exact ⟨⟨[], reads⟩, reads.eq_nil_iff.mp rfl⟩
    · intro h
      obtain ⟨⟨es, reads⟩, none⟩ := h
      exact reads.eq_nil_iff.mpr none ▸ reads

end SyllableTemplate

end Conlang
