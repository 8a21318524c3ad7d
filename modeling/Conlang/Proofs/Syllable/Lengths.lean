import Conlang.Proofs.Syllable.Template

/-! The lengths of syllables at the front of a word.

`Lists` says that a list of lengths is that of all texts of some kind at the front of a word: none
is missing and none is made up. It goes from slots to rows, from rows to elements and from elements
to templates, each time by the same step (`lists_then`). -/
namespace Conlang.SyllableGrammar
open SyllableTemplate

/-- The lengths are those of the texts of a kind at the front. -/
def Lists (kind : List Char → Prop) (s : List Char) (lengths : List Nat) : Prop :=
  ∀ n, n ∈ lengths ↔ ∃ part, part <+: s ∧ part.length = n ∧ kind part

/-- Two kinds of text, one behind the other. -/
def Behind (first second : List Char → Prop) (text : List Char) : Prop :=
  ∃ part rest, text = part ++ rest ∧ first part ∧ second rest

/-! ### Lists of lengths -/

section
variable {kind first second : List Char → Prop} {s : List Char} {lengths : List Nat}

theorem lists_congr {kind' : List Char → Prop} (h : Lists kind s lengths)
    (same : ∀ text, kind text ↔ kind' text) :
    Lists kind' s lengths := by
  intro n
  simp only [h n, same]

theorem lists_nothing (h : ∀ text, kind text ↔ text = []) : Lists kind s [0] := by
  intro n
  simp only [List.mem_singleton, h]
  constructor
  · intro none
    subst none
    exact ⟨[], List.nil_prefix, rfl, rfl⟩
  · intro nothing
    obtain ⟨_, _, rfl, rfl⟩ := nothing
    rfl

theorem lists_append {other : List Nat} (h : Lists first s lengths) (h' : Lists second s other) :
    Lists (fun text => first text ∨ second text) s (lengths ++ other) := by
  intro n
  rw [List.mem_append, h n, h' n]
  simp only [and_or_left, exists_or]

/-- What stands behind a text at the front is looked for in what that text leaves. -/
theorem lists_then (h : Lists first s lengths) {more : Nat → List Nat}
    (h' : ∀ n, Lists second (s.drop n) (more n)) :
    Lists (Behind first second) s (lengths.flatMap fun n => (more n).map (n + ·)) := by
  intro n
  simp only [List.mem_flatMap, List.mem_map]
  constructor
  · intro listed
    obtain ⟨m, first, k, found, rfl⟩ := listed
    obtain ⟨part, ⟨left, rfl⟩, rfl, isFirst⟩ := (h m).mp first
    obtain ⟨rest, front, rfl, isSecond⟩ := (h' part.length k).mp found
    rw [List.drop_left] at front
    exact ⟨part ++ rest, List.prefix_append_right_inj part |>.mpr front, List.length_append, part,
      rest, rfl, isFirst, isSecond⟩
  · intro listed
    obtain ⟨_, front, rfl, part, rest, rfl, isFirst, isSecond⟩ := listed
    obtain ⟨left, rfl⟩ := front
    refine ⟨part.length, (h _).mpr ⟨part, ⟨rest ++ left, by simp⟩, rfl, isFirst⟩, rest.length,
      ?_, by simp⟩
    refine (h' _ _).mpr ⟨rest, ⟨left, ?_⟩, rfl, isSecond⟩
    rw [List.append_assoc, List.drop_left]

end

/-! ### Slots and rows -/

variable (g : SyllableGrammar)

/-- What a slot stands for in a grammar. -/
def Stands (slot : Char) (part : List Char) : Prop :=
  match g.categories[slot]? with
  | some members => String.ofList part ∈ members
  | none => part = [slot]

theorem mem_slotMatches {slot : Char} {s part : List Char} :
    part ∈ g.slotMatches slot s ↔ part <+: s ∧ g.Stands slot part := by
  rw [slotMatches, Stands]
  cases g.categories[slot]? with
  | some members =>
    simp only [List.mem_filter, List.mem_map, List.isPrefixOf_iff_prefix]
    constructor
    · intro h
      obtain ⟨⟨m, added, rfl⟩, front⟩ := h
      exact ⟨front, by rwa [String.ofList_toList]⟩
    · intro h
      obtain ⟨front, added⟩ := h
      exact ⟨⟨_, added, String.toList_ofList⟩, front⟩
  | none =>
    have front : [slot] <+: s ↔ s.head? = some slot := List.singleton_prefix_iff_head?_eq_some
    by_cases stands : s.head? = some slot
    · rw [if_pos stands, List.mem_singleton]
      constructor
      · intro h
        obtain rfl := h
        exact ⟨front.mpr stands, rfl⟩
      · exact And.right
    · rw [if_neg stands]
      constructor
      · intro h
        cases h
      · intro h
        obtain ⟨here, rfl⟩ := h
        exact absurd (front.mp here) stands

theorem lists_slot (slot : Char) (s : List Char) :
    Lists (g.Stands slot) s ((g.slotMatches slot s).map List.length) := by
  intro n
  simp only [List.mem_map, mem_slotMatches, and_assoc]
  exact exists_congr fun part => and_congr_right fun _ => and_comm

theorem rowFits_cons {slotFits : Char → List Char → Prop} {slot : Char} {row text : List Char} :
    Behind (slotFits slot) (RowFits slotFits row) text ↔ RowFits slotFits (slot :: row) text := by
  constructor
  · intro h
    obtain ⟨part, rest, rfl, fits, fit⟩ := h
    exact .cons fits fit
  · intro h
    cases h with
    | cons fits fit => exact ⟨_, _, rfl, fits, fit⟩

theorem lists_slots (slots s : List Char) :
    Lists (RowFits g.Stands slots) s (g.slotsLengths slots s) := by
  induction slots generalizing s with
  | nil =>
    refine lists_nothing fun text => ⟨fun h => ?_, fun h => ?_⟩
    · cases h
      rfl
    · rw [h]
      exact .nil
  | cons slot row ih =>
    have listed := lists_then (g.lists_slot slot s) fun n => ih (s.drop n)
    rw [List.flatMap_map] at listed
    exact lists_congr listed fun _ => rowFits_cons

/-! ### Elements and templates -/

theorem elementsFit_cons {slotFits : Char → List Char → Prop} {e : TemplateElement}
    {es : List TemplateElement} {text : List Char} :
    ElementsFit slotFits (e :: es) text ↔
      (e.optional = true ∧ ElementsFit slotFits es text) ∨
        Behind (RowFits slotFits e.slots) (ElementsFit slotFits es) text := by
  constructor
  · intro h
    cases h with
    | skipped optional fits => exact .inl ⟨optional, fits⟩
    | taken row fits => exact .inr ⟨_, _, rfl, row, fits⟩
  · intro h
    rcases h with ⟨optional, fits⟩ | ⟨part, rest, rfl, row, fits⟩
    · exact .skipped optional fits
    · exact .taken row fits

theorem lists_elements (es : List TemplateElement) (s : List Char) :
    Lists (ElementsFit g.Stands es) s (g.elementsLengths es s) := by
  induction es generalizing s with
  | nil =>
    refine lists_nothing fun text => ⟨fun h => ?_, fun h => ?_⟩
    · cases h
      rfl
    · rw [h]
      exact .done
  | cons e es ih =>
    have taken := lists_then (g.lists_slots e.slots s) fun n => ih (s.drop n)
    have skipped : Lists (fun text => e.optional = true ∧ ElementsFit g.Stands es text) s
        (if e.optional then g.elementsLengths es s else []) := by
      cases e.optional with
      | true => exact lists_congr (ih s) fun _ => by simp
      | false => intro n; simp
    exact lists_congr (lists_append skipped taken) fun _ => elementsFit_cons.symm

theorem mem_insertLength {n m : Nat} {lengths : List Nat} :
    m ∈ insertLength n lengths ↔ m = n ∨ m ∈ lengths := by
  induction lengths with
  | nil => simp [insertLength]
  | cons k lengths ih =>
    rw [insertLength]
    by_cases larger : k < n
    · simp [larger]
    · by_cases same : k = n
      · simp [same]
      · simp only [if_neg larger, if_neg same, List.mem_cons, ih]
        exact or_left_comm

theorem mem_foldr_insertLength {m : Nat} {lengths : List Nat} :
    m ∈ lengths.foldr insertLength [] ↔ m ∈ lengths := by
  induction lengths with
  | nil => rfl
  | cons n lengths ih => rw [List.foldr_cons, mem_insertLength, ih, List.mem_cons]

/-- **The lengths to try are those of all texts at the front that fit a template and are not
empty.** -/
theorem lists_candidates (s : List Char) :
    Lists (fun text => text ≠ [] ∧ ∃ t ∈ g.templates, ElementsFit g.Stands t.elements text) s
      (g.candidateLengths s) := by
  intro n
  simp only [candidateLengths, mem_foldr_insertLength, List.mem_filter, List.mem_flatMap,
    decide_eq_true_eq, (g.lists_elements _ s) n]
  constructor
  · intro h
    obtain ⟨⟨t, offered, part, front, rfl, fits⟩, positive⟩ := h
    exact ⟨part, front, rfl, List.ne_nil_of_length_pos positive, t, offered, fits⟩
  · intro h
    obtain ⟨part, front, rfl, nonempty, t, offered, fits⟩ := h
    exact ⟨⟨t, offered, part, front, rfl, fits⟩, List.length_pos_iff.mpr nonempty⟩

end Conlang.SyllableGrammar
