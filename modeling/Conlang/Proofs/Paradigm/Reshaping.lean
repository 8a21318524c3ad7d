import Conlang.Proofs.Paradigm.Forms

/-! How a paradigm changes.

`Reshape` lists the ways. An item that comes in brings an id that no item of the paradigm has, and
values that come in are new to their dimension, so ids stay distinct (`Reshape.distinct`). A
dimension keeps its slot as long as the grid is not rebuilt (`Reshape.slot?_eq`). -/
namespace Conlang

/-! ### Fresh ids -/

theorem toNat_max (a b : Id) : (max a b).toNat = max a.toNat b.toNat := by
  show (if a ≤ b then b else a).toNat = _
  split
  · next le =>
    have := UInt32.le_iff_toNat_le.mp le
    omega
  · next gt =>
    have := UInt32.le_iff_toNat_le.not.mp gt
    omega

theorem foldl_max_le_iff {ids : List Id} {start bound : Id} :
    ids.foldl max start ≤ bound ↔ start ≤ bound ∧ ∀ id ∈ ids, id ≤ bound := by
  induction ids generalizing start with
  | nil => simp
  | cons id rest ih =>
    have both : max start id ≤ bound ↔ start ≤ bound ∧ id ≤ bound := by
      simp only [UInt32.le_iff_toNat_le, toNat_max]
      omega
    simp only [List.foldl_cons, ih, both, List.mem_cons, forall_eq_or_imp, and_assoc]

theorem le_highest {ids : List Id} {id : Id} (h : id ∈ ids) : id ≤ highest ids :=
  (foldl_max_le_iff.mp (UInt32.le_refl _)).2 id h

theorem lt_of_nextId? {id next : Id} (h : nextId? id = some next) : id < next := by
  unfold nextId? at h
  split at h
  · next fits =>
    cases h
    have wraps := UInt32.toNat_add id 1
    have one : (1 : Id).toNat = 1 := rfl
    rw [UInt32.lt_iff_toNat_lt, wraps, one]
    have size : UInt32.size = 2 ^ 32 := rfl
    omega
  · cases h

/-- The id behind the highest one is not among them. -/
theorem notMem_of_nextId? {ids : List Id} {bound id : Id} (above : highest ids ≤ bound)
    (h : nextId? bound = some id) : id ∉ ids := by
  intro mem
  have le := UInt32.le_trans (le_highest mem) above
  have lt := lt_of_nextId? h
  rw [UInt32.le_iff_toNat_le] at le
  rw [UInt32.lt_iff_toNat_lt] at lt
  omega

theorem Dimension.notMem_of_nextValue? {d : Dimension} {id : Id} (h : d.nextValue? = some id) :
    id ∉ d.values.map (·.id) :=
  notMem_of_nextId? (UInt32.le_refl _) h

theorem Dimension.nodup_of_repeated? {seen ids : List Id}
    (h : repeatedValue?.repeated? seen ids = none) :
    ids.Nodup ∧ ∀ id ∈ ids, id ∉ seen := by
  induction ids generalizing seen with
  | nil => simp
  | cons id rest ih =>
    rw [repeatedValue?.repeated?] at h
    split at h
    · cases h
    · next unseen =>
      obtain ⟨nodup, unseen'⟩ := ih h
      simp only [List.contains_eq_mem, decide_eq_true_eq] at unseen
      refine ⟨List.nodup_cons.mpr ⟨fun mem => unseen' id mem (List.mem_cons_self ..), nodup⟩, ?_⟩
      intro other mem
      rcases List.mem_cons.mp mem with rfl | mem
      · exact unseen
      · exact fun there => unseen' other mem (List.mem_cons_of_mem _ there)

namespace Paradigm

/-! ### Ways to change -/

/-- Only a change that `rebuilds` the grid takes a dimension away. -/
inductive Reshape (rebuilds : Prop) : Paradigm → Paradigm → Prop where
  | keep {p} : Reshape rebuilds p p
  | addDimension {p} (d : Dimension) (fresh : d.id ∉ p.ids)
      (distinct : (d.values.map (·.id)).Nodup) :
      Reshape rebuilds p { p with dimensions := p.dimensions ++ [d] }
  | addExtra {p} (e : ExtraForm) (fresh : e.id ∉ p.ids) :
      Reshape rebuilds p { p with extras := p.extras ++ [e] }
  | revalue {p} {slot : Nat} {d : Dimension} (here : p.dimensions[slot]? = some d)
      (values : List DimensionValue)
      (distinct : (d.values.map (·.id)).Nodup → (values.map (·.id)).Nodup) :
      Reshape rebuilds p { p with dimensions := p.dimensions.set slot { d with values } }
  | dropExtra {p} (form : Id) :
      Reshape rebuilds p { p with extras := p.extras.filter (·.id != form) }
  | dropDimension {p} (slot : Nat) (rebuilt : rebuilds) :
      Reshape rebuilds p { p with dimensions := p.dimensions.eraseIdx slot }
  | clear {p} (rebuilt : rebuilds) : Reshape rebuilds p .empty

theorem distinct_empty : Distinct .empty := ⟨List.nodup_nil, nofun⟩

/-- New values for a dimension leave the ids of the dimensions as they are. -/
theorem map_id_set {dimensions : List Dimension} {slot : Nat} {d : Dimension}
    (here : dimensions[slot]? = some d) (values : List DimensionValue) :
    (dimensions.set slot { d with values }).map (·.id) = dimensions.map (·.id) := by
  obtain ⟨inside, rfl⟩ := List.getElem?_eq_some_iff.mp here
  have self := List.set_getElem_self (show slot < (dimensions.map (·.id)).length by simpa)
  rw [List.getElem_map] at self
  rw [List.map_set, self]

namespace Reshape
variable {rebuilds : Prop} {p p' : Paradigm}

theorem distinct (change : Reshape rebuilds p p') (h : p.Distinct) : p'.Distinct := by
  obtain ⟨items, values⟩ := h
  cases change with
  | keep => exact ⟨items, values⟩
  | addDimension d fresh distinct =>
    constructor
    · have more := List.nodup_middle.mpr (List.nodup_cons.mpr ⟨fresh, items⟩)
      simpa [ids] using more
    · intro d' hd'
      rcases List.mem_append.mp hd' with hd' | hd'
      · exact values d' hd'
      · rwa [List.mem_singleton.mp hd']
  | addExtra e fresh =>
    refine ⟨?_, values⟩
    have more :=
      (List.perm_append_singleton e.id p.ids).nodup_iff.mpr (List.nodup_cons.mpr ⟨fresh, items⟩)
    simpa [ids] using more
  | revalue here values' distinct =>
    constructor
    · rw [ids, map_id_set here]
      exact items
    · intro d' hd'
      rcases List.mem_or_eq_of_mem_set hd' with hd' | rfl
      · exact values d' hd'
      · exact distinct (values _ (List.mem_of_getElem? here))
  | dropExtra form =>
    have fewer := (List.Sublist.refl (p.dimensions.map (·.id))).append
      ((List.filter_sublist (p := (·.id != form)) (l := p.extras)).map (·.id))
    exact ⟨items.sublist fewer, values⟩
  | dropDimension slot rebuilt =>
    have fewer := (List.eraseIdx_sublist p.dimensions slot)
    exact ⟨items.sublist ((fewer.map (·.id)).append (.refl _)), fun d hd =>
      values d (fewer.subset hd)⟩
  | clear rebuilt => exact distinct_empty

/-- A dimension keeps its slot, or the grid is rebuilt. -/
theorem slot?_eq (change : Reshape rebuilds p p') {dimension : Id} {slot : Nat}
    (placed : p.slot? dimension = some slot) : p'.slot? dimension = some slot ∨ rebuilds := by
  cases change with
  | keep | addExtra | dropExtra => exact .inl placed
  | dropDimension _ rebuilt | clear rebuilt => exact .inr rebuilt
  | addDimension d fresh distinct =>
    refine .inl ?_
    rw [slot?] at placed ⊢
    rw [List.findIdx?_append, placed]
    rfl
  | revalue here values distinct =>
    refine .inl ?_
    have byId (dimensions : List Dimension) : dimensions.findIdx? (·.id == dimension) =
        (dimensions.map (·.id)).findIdx? (· == dimension) := by
      rw [List.findIdx?_map]
      rfl
    rw [slot?, byId] at placed ⊢
    rwa [map_id_set here]

end Reshape

/-! ### What a smaller paradigm still declares -/

/-- Without a value, the choices are left that do not take it. -/
theorem isChoice_dropValue {dimensions : List Dimension} {slot : Nat} {d : Dimension} (value : Id)
    (here : dimensions[slot]? = some d) (values : List DimensionValue) :
    IsChoice values (dimensions.set slot { d with values := d.values.filter (·.id != value) }) ↔
      IsChoice values dimensions ∧ (values.map (·.id))[slot]? ≠ some value := by
  induction slot generalizing dimensions values with
  | zero =>
    cases dimensions with
    | nil => cases here
    | cons e rest =>
      cases here
      cases values <;> simp [IsChoice, and_assoc, and_comm]
  | succ slot ih =>
    cases dimensions with
    | nil => cases here
    | cons e rest =>
      cases values with
      | nil => simp [IsChoice]
      | cons v values =>
        have ih := ih (by simpa using here) values
        simp only [IsChoice] at ih
        simp [IsChoice, ih, and_assoc]

theorem declares_dropValue {p : Paradigm} {slot : Nat} {d : Dimension} (value : Id)
    (here : p.dimensions[slot]? = some d) (c : Combination) :
    let left := d.values.filter (·.id != value)
    declares { p with dimensions := p.dimensions.set slot { d with values := left } } c = true ↔
      p.declares c = true ∧ c.valueAt? slot ≠ some value := by
  intro left
  cases c with
  | cell slots =>
    rw [declares_cell rfl, declares_cell rfl, isSome_select?, isSome_select?]
    simp only [left, isChoice_dropValue value here, Combination.valueAt?]
    constructor
    · rintro ⟨values, ⟨chosen, other⟩, eq⟩
      exact ⟨⟨values, chosen, eq⟩, eq ▸ other⟩
    · rintro ⟨⟨values, chosen, eq⟩, other⟩
      exact ⟨values, ⟨chosen, eq ▸ other⟩, eq⟩
  | extra form =>
    rw [declares_extra rfl, declares_extra rfl]
    simp [Combination.valueAt?, Combination.values]

theorem declares_dropExtra (p : Paradigm) (form : Id) (c : Combination) :
    declares { p with extras := p.extras.filter (·.id != form) } c = true ↔
      p.declares c = true ∧ c.form? ≠ some form := by
  cases c with
  | cell slots =>
    rw [declares_cell rfl, declares_cell rfl]
    simp [Combination.form?]
  | extra number =>
    rw [declares_extra rfl, declares_extra rfl]
    constructor
    · rintro ⟨e, he, eq⟩
      obtain ⟨there, other⟩ := List.mem_filter.mp he
      exact ⟨⟨e, there, eq⟩, by simpa [Combination.form?, eq] using other⟩
    · rintro ⟨⟨e, there, eq⟩, other⟩
      exact ⟨e, List.mem_filter.mpr ⟨there, by simpa [Combination.form?, eq] using other⟩, eq⟩

/-- Extra forms do not ask for the grid. -/
theorem declares_of_not_isCell {p p' : Paradigm} (extras : p'.extras = p.extras) {c : Combination}
    (extra : c.isCell = false) : p'.declares c = p.declares c := by
  cases c with
  | cell slots => cases extra
  | extra number =>
    refine Bool.eq_iff_iff.mpr ?_
    rw [declares_extra rfl, declares_extra rfl, extras]

end Paradigm

end Conlang
