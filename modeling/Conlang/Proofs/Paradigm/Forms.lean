import Conlang.Paradigm.Basic
import Mathlib.Data.List.Forall2
import Mathlib.Data.List.Nodup

/-! What a paradigm lists, and what it declares.

`forms` lists one cell for every choice of values: `mem_choices` says which choices there are, and
`pairwise_choices` that they come in the order in which the values are declared, the first dimension
counting most. A paradigm declares a combination by its numbers, however they are spelled, and lists
forms in their shortest spelling; `declares_iff` brings the two together. Where ids are `Distinct`,
no form is listed twice and each is called what the list calls it. -/
namespace Conlang

/-! ### Shortest spellings -/

namespace Combination

/-- The same form, with every number written without a sign and without leading zeros. -/
def shortest : Combination → Combination
  | .cell slots => .ofValues (slots.map (·.value))
  | .extra form => .ofForm form.value

@[simp] theorem values_ofValues (ids : List Id) : (ofValues ids).values = ids := by
  simp [ofValues, values, Function.comp_def, Text.Numeral.ofNumber]

@[simp] theorem form?_ofValues (ids : List Id) : (ofValues ids).form? = none := rfl

@[simp] theorem form?_ofForm (id : Id) : (ofForm id).form? = some id := rfl

theorem ofValues_injective {a b : List Id} (h : ofValues a = ofValues b) : a = b := by
  simpa using congrArg values h

theorem ofForm_injective {a b : Id} (h : ofForm a = ofForm b) : a = b := by
  simpa using congrArg form? h

theorem ofValues_ne_ofForm (ids : List Id) (id : Id) : ofValues ids ≠ ofForm id := nofun

theorem isCell_of_valueAt? {c : Combination} {slot : Nat} {id : Id}
    (h : c.valueAt? slot = some id) :
    c.isCell = true := by
  cases c with
  | cell slots => rfl
  | extra form => simp [valueAt?, values] at h

theorem text_injective {c d : Combination} (h : c.text = d.text) : c = d :=
  chars_injective (String.ofList_injective h)

theorem parse_text (c : Combination) : parse c.text = .ok c := by
  simp [parse, text, read_chars]

end Combination

/-! ### Finding by id -/

/-- Where no two elements share an id, each is found by its own. -/
theorem find?_id {α κ : Type} [BEq κ] [LawfulBEq κ] {id : α → κ} {l : List α}
    (distinct : (l.map id).Nodup) {a : α} (ha : a ∈ l) : l.find? (id · == id a) = some a := by
  cases h : l.find? (id · == id a) with
  | none => exact absurd (beq_self_eq_true _) (List.find?_eq_none.mp h a ha)
  | some b =>
    have same : id b = id a := by simpa using List.find?_some h
    rw [List.inj_on_of_nodup_map distinct (List.mem_of_find?_eq_some h) ha same]

namespace Dimension
variable {d : Dimension} {id : Id} {v : DimensionValue}

theorem isSome_value? : (d.value? id).isSome = true ↔ ∃ v ∈ d.values, v.id = id := by
  simp [value?]

theorem value?_id (distinct : (d.values.map (·.id)).Nodup) (hv : v ∈ d.values) :
    d.value? v.id = some v :=
  find?_id distinct hv

end Dimension

namespace Paradigm

/-- No id is declared twice: not for dimensions and extra forms together, and not for the values of
a dimension. -/
structure Distinct (p : Paradigm) : Prop where
  items : p.ids.Nodup
  values : ∀ d ∈ p.dimensions, (d.values.map (·.id)).Nodup

/-! ### Choices -/

/-- One value of each dimension, in their order. -/
def IsChoice (values : List DimensionValue) (dimensions : List Dimension) : Prop :=
  List.Forall₂ (fun v d => v ∈ d.values) values dimensions

/-- Where the chosen values stand among those of their dimensions. -/
def places (dimensions : List Dimension) (values : List DimensionValue) : List Nat :=
  List.zipWith (fun d v => d.values.idxOf v) dimensions values

theorem mem_choices {dimensions : List Dimension} {values : List DimensionValue} :
    values ∈ choices dimensions ↔ IsChoice values dimensions := by
  induction dimensions generalizing values with
  | nil => simp [choices, IsChoice]
  | cons d rest ih =>
    cases values with
    | nil => simp [choices, IsChoice]
    | cons v values => simp [choices, IsChoice, ih]

/-- Choices come in the order in which the values are declared, earlier dimensions first. -/
theorem pairwise_choices {dimensions : List Dimension}
    (distinct : ∀ d ∈ dimensions, d.values.Nodup) :
    ((choices dimensions).map (places dimensions)).Pairwise (List.Lex (· < ·)) := by
  induction dimensions with
  | nil => simp [choices]
  | cons d rest ih =>
    have ih := List.pairwise_map.mp (ih fun d hd => distinct d (List.mem_cons_of_mem _ hd))
    rw [List.pairwise_map, choices, List.pairwise_flatMap]
    constructor
    · intro v _
      rw [List.pairwise_map]
      exact ih.imp fun earlier => .cons earlier
    · have ascending : d.values.Pairwise fun v w => d.values.idxOf v < d.values.idxOf w := by
        have nodup := distinct d (List.mem_cons_self ..)
        refine List.pairwise_iff_getElem.mpr fun i j hi hj lt => ?_
        rw [nodup.idxOf_getElem i hi, nodup.idxOf_getElem j hj]
        exact lt
      refine ascending.imp fun lt values hv values' hv' => ?_
      obtain ⟨rest, -, rfl⟩ := List.mem_map.mp hv
      obtain ⟨rest', -, rfl⟩ := List.mem_map.mp hv'
      exact .rel lt

theorem choices_eq_nil {dimensions : List Dimension} {d : Dimension} (hd : d ∈ dimensions)
    (unvalued : d.values = []) : choices dimensions = [] := by
  induction dimensions with
  | nil => cases hd
  | cons e rest ih =>
    rcases List.mem_cons.mp hd with rfl | hd
    · rw [choices, unvalued]
      rfl
    · simp [choices, ih hd]

/-- The ids of a choice tell which choice it is. -/
theorem eq_of_ids_eq {dimensions : List Dimension}
    (distinct : ∀ d ∈ dimensions, (d.values.map (·.id)).Nodup)
    {values values' : List DimensionValue} (h : IsChoice values dimensions)
    (h' : IsChoice values' dimensions) (same : values.map (·.id) = values'.map (·.id)) :
    values = values' := by
  induction h generalizing values' with
  | nil => cases h'; rfl
  | cons hv _ ih =>
    cases h' with
    | cons hv' rest' =>
      simp only [List.map_cons, List.cons.injEq] at same
      have first := List.inj_on_of_nodup_map (distinct _ (List.mem_cons_self ..)) hv hv' same.1
      rw [first, ih (fun d hd => distinct d (List.mem_cons_of_mem _ hd)) rest' same.2]

/-- The choices of one value from each dimension: every one of them, in the order in which the
values are declared, where an earlier dimension counts more. -/
structure CrossProduct (dimensions : List Dimension) (cells : List (List DimensionValue)) :
    Prop where
  mem_iff : ∀ values, values ∈ cells ↔ IsChoice values dimensions
  ordered : (cells.map (places dimensions)).Pairwise (List.Lex (· < ·))

theorem crossProduct_choices {dimensions : List Dimension}
    (distinct : ∀ d ∈ dimensions, (d.values.map (·.id)).Nodup) :
    CrossProduct dimensions (choices dimensions) where
  mem_iff _ := mem_choices
  ordered := pairwise_choices fun d hd => (distinct d hd).of_map

/-- No choice is listed twice. -/
theorem CrossProduct.nodup {dimensions : List Dimension} {cells : List (List DimensionValue)}
    (h : CrossProduct dimensions cells) : cells.Nodup := by
  refine (List.pairwise_map.mp h.ordered).imp fun {values values'} earlier eq => ?_
  rw [eq] at earlier
  exact List.lex_irrefl (fun _ => Nat.lt_irrefl _) _ earlier

/-- There is only one such list. -/
theorem CrossProduct.unique {dimensions : List Dimension}
    {cells cells' : List (List DimensionValue)} (h : CrossProduct dimensions cells)
    (h' : CrossProduct dimensions cells') : cells = cells' := by
  have same : cells.Perm cells' :=
    (List.perm_ext_iff_of_nodup h.nodup h'.nodup).mpr fun values => by
    rw [h.mem_iff, h'.mem_iff]
  refine same.eq_of_pairwise (fun values values' _ _ earlier later => ?_)
    (List.pairwise_map.mp h.ordered) (List.pairwise_map.mp h'.ordered)
  exact absurd later (List.lex_asymm Nat.lt_asymm earlier)

/-! ### Finding the choice behind a cell -/

theorem isSome_select? {ids : List Id} {dimensions : List Dimension} :
    (select? ids dimensions).isSome = true ↔ ∃ values, IsChoice values dimensions ∧
    values.map (·.id) = ids := by
  induction dimensions generalizing ids with
  | nil => cases ids <;> simp [select?, IsChoice]
  | cons d rest ih =>
    cases ids with
    | nil => simp [select?, IsChoice]
    | cons id ids =>
      have both : (select? (id :: ids) (d :: rest)).isSome = true ↔
          (d.value? id).isSome = true ∧ (select? ids rest).isSome = true := by
        rw [select?]
        cases d.value? id <;> cases select? ids rest <;> simp
      rw [both, Dimension.isSome_value?, ih]
      constructor
      · rintro ⟨⟨v, hv, rfl⟩, values, chosen, rfl⟩
        exact ⟨v :: values, .cons hv chosen, rfl⟩
      · rintro ⟨values, chosen, eq⟩
        cases chosen with
        | cons hv chosen =>
          simp only [List.map_cons, List.cons.injEq] at eq
          exact ⟨⟨_, hv, eq.1⟩, _, chosen, eq.2⟩

theorem select?_ids {dimensions : List Dimension}
    (distinct : ∀ d ∈ dimensions, (d.values.map (·.id)).Nodup) {values : List DimensionValue}
    (h : IsChoice values dimensions) :
    select? (values.map (·.id)) dimensions = some values := by
  induction h with
  | nil => rfl
  | cons hv _ ih =>
    rw [List.map_cons, select?, Dimension.value?_id (distinct _ (List.mem_cons_self ..)) hv,
      ih fun d hd => distinct d (List.mem_cons_of_mem _ hd)]
    rfl

/-! ### Declared forms -/

theorem isSome_extra? {p : Paradigm} {id : Id} :
    (p.extra? id).isSome = true ↔ ∃ e ∈ p.extras, e.id = id := by
  simp [extra?]

theorem mem_combinations {p : Paradigm} {c : Combination} :
    c ∈ p.forms.map (·.combination) ↔
      (∃ values, IsChoice values p.dimensions ∧ .ofValues (values.map (·.id)) = c) ∨
        ∃ e ∈ p.extras, .ofForm e.id = c := by
  simp [forms, formOfChoice, formOfExtra, mem_choices]

theorem declares_cell {p : Paradigm} {c : Combination} (cell : c.form? = none) :
    p.declares c = true ↔ (select? c.values p.dimensions).isSome = true := by
  simp [declares, label?, cell]

theorem declares_extra {p : Paradigm} {c : Combination} {id : Id} (extra : c.form? = some id) :
    p.declares c = true ↔ ∃ e ∈ p.extras, e.id = id := by
  simp [declares, label?, extra, ← isSome_extra?]

/-- A paradigm declares the forms that it lists, in whatever spelling. -/
theorem declares_iff {p : Paradigm} {c : Combination} :
    p.declares c = true ↔ c.shortest ∈ p.forms.map (·.combination) := by
  rw [mem_combinations]
  cases c with
  | cell slots =>
    rw [declares_cell rfl, isSome_select?]
    constructor
    · rintro ⟨values, chosen, eq⟩
      exact .inl ⟨values, chosen, congrArg Combination.ofValues eq⟩
    · rintro (⟨values, chosen, eq⟩ | ⟨e, -, eq⟩)
      · exact ⟨values, chosen, Combination.ofValues_injective eq⟩
      · exact absurd eq.symm (Combination.ofValues_ne_ofForm _ _)
  | extra form =>
    rw [declares_extra rfl]
    constructor
    · rintro ⟨e, he, eq⟩
      exact .inr ⟨e, he, congrArg Combination.ofForm eq⟩
    · rintro (⟨values, -, eq⟩ | ⟨e, he, eq⟩)
      · exact absurd eq (Combination.ofValues_ne_ofForm _ _)
      · exact ⟨e, he, Combination.ofForm_injective eq⟩

section
variable {p : Paradigm} (h : p.Distinct)
include h

/-- A form that is listed is called what the list calls it. -/
theorem Distinct.label?_eq {f : Form} (hf : f ∈ p.forms) :
    p.label? f.combination = some f.label := by
  rcases List.mem_append.mp hf with hf | hf
  · obtain ⟨values, hv, rfl⟩ := List.mem_map.mp hf
    simp [label?, formOfChoice, select?_ids h.values (mem_choices.mp hv)]
  · obtain ⟨e, he, rfl⟩ := List.mem_map.mp hf
    have extras : (p.extras.map (·.id)).Nodup := (List.nodup_append.mp h.items).2.1
    have found : p.extra? e.id = some e := find?_id extras he
    simp [label?, formOfExtra, found]

/-- No form is listed twice. -/
theorem Distinct.nodup_combinations : (p.forms.map (·.combination)).Nodup := by
  have extras : (p.extras.map (·.id)).Nodup := (List.nodup_append.mp h.items).2.1
  have unique : (choices p.dimensions).Nodup := (crossProduct_choices h.values).nodup
  rw [forms, List.map_append, List.map_map, List.map_map, List.nodup_append]
  refine ⟨?_, ?_, ?_⟩
  · refine List.Nodup.map_on (fun values hv values' hv' eq => ?_) unique
    exact eq_of_ids_eq h.values (mem_choices.mp hv) (mem_choices.mp hv')
      (Combination.ofValues_injective eq)
  · have numbers := extras.map fun a b => Combination.ofForm_injective (a := a) (b := b)
    rwa [List.map_map] at numbers
  · intro c hc d hd
    obtain ⟨values, -, rfl⟩ := List.mem_map.mp hc
    obtain ⟨e, -, rfl⟩ := List.mem_map.mp hd
    exact Combination.ofValues_ne_ofForm _ _

/-- A dimension has the slot in which it is declared. -/
theorem Distinct.slot?_eq {i : Nat} {d : Dimension} (hd : p.dimensions[i]? = some d) :
    p.slot? d.id = some i := by
  have dimensions : (p.dimensions.map (·.id)).Nodup := (List.nodup_append.mp h.items).1
  obtain ⟨hi, rfl⟩ := List.getElem?_eq_some_iff.mp hd
  refine List.findIdx?_eq_some_iff_getElem.mpr ⟨hi, beq_self_eq_true _, fun j hj => ?_⟩
  have differ := (List.pairwise_iff_getElem.mp dimensions) j i (by simp; omega) (by simpa) hj
  simpa using differ

/-- In the slot of a dimension a cell has the id of the value that was chosen there. -/
theorem Distinct.valueAt?_slot {values : List DimensionValue}
    (chosen : IsChoice values p.dimensions) {i : Nat} {d : Dimension}
    (hd : p.dimensions[i]? = some d) :
    ∃ v ∈ d.values, values[i]? = some v ∧
      ∃ slot, p.slot? d.id = some slot ∧
        (formOfChoice values).combination.valueAt? slot = some v.id := by
  obtain ⟨hi, rfl⟩ := List.getElem?_eq_some_iff.mp hd
  obtain ⟨sameLength, each⟩ := List.forall₂_iff_get.mp chosen
  have hi' : i < values.length := sameLength ▸ hi
  refine ⟨values[i], each i hi' hi, List.getElem?_eq_getElem hi', i, h.slot?_eq hd, ?_⟩
  simp [formOfChoice, Combination.valueAt?, hi']

end

end Paradigm

end Conlang
