import Mathlib.Data.List.Forall2

/-! Where results come from.

A computation that can fail succeeds where each of its steps does, and with what they give. A row of
steps over a list is read back in the same way (`forM_eq_ok_iff`, `mapM_eq_ok_iff`,
`foldlM_eq_ok_iff`). -/
namespace Conlang

variable {α β ε : Type} {x : Except ε α}

/-! ### Single steps -/

theorem bind_eq_ok_iff {f : α → Except ε β} {b : β} :
    x >>= f = .ok b ↔ ∃ a, x = .ok a ∧ f a = .ok b := by
  cases x with
  | ok a => exact ⟨fun h => ⟨a, rfl, h⟩, fun ⟨_, same, h⟩ => Except.ok.inj same ▸ h⟩
  | error e => exact iff_of_false nofun nofun

theorem map_eq_ok_iff {f : α → β} {b : β} : f <$> x = .ok b ↔ ∃ a, x = .ok a ∧ f a = b := by
  cases x with
  | ok a =>
    exact ⟨fun h => ⟨a, rfl, Except.ok.inj h⟩, fun ⟨_, same, h⟩ => h ▸ Except.ok.inj same ▸ rfl⟩
  | error e => exact iff_of_false nofun nofun

theorem map_eq_error_iff {f : α → β} {e : ε} : f <$> x = .error e ↔ x = .error e := by
  cases x with
  | ok a => exact iff_of_false nofun nofun
  | error e' =>
    exact ⟨fun h => congrArg _ (Except.error.inj h), fun h => congrArg _ (Except.error.inj h)⟩

theorem mapError_eq_ok_iff {ε' : Type} {f : ε → ε'} {a : α} :
    x.mapError f = .ok a ↔ x = .ok a := by
  cases x with
  | ok b => exact ⟨fun same => congrArg Except.ok (Except.ok.inj same), fun same => same ▸ rfl⟩
  | error e => exact iff_of_false nofun nofun

theorem exists_of_mapError {ε' : Type} {f : ε → ε'} {e : ε'} (h : x.mapError f = .error e) :
    ∃ cause, e = f cause := by
  cases x with
  | ok a => cases h
  | error cause => exact ⟨cause, (Except.error.inj h).symm⟩

theorem toOption_eq_some_iff {a : α} : x.toOption = some a ↔ x = .ok a := by
  cases x with
  | ok b =>
    exact ⟨fun same => congrArg Except.ok (Option.some.inj same), fun same =>
      congrArg some (Except.ok.inj same)⟩
  | error e => exact iff_of_false nofun nofun

/-- A result that passes a test is there. -/
theorem exists_of_any {f : α → Bool} (any : x.toOption.any f = true) :
    ∃ a, x = .ok a ∧ f a = true := by
  cases x with
  | error fault => cases any
  | ok a => exact ⟨a, rfl, any⟩

/-- A fault that passes a test is there. -/
theorem error_of_any {f : ε → Bool}
    (any : (match x with | .error e => f e | .ok _ => false) = true) :
    ∃ e, x = .error e ∧ f e = true := by
  cases x with
  | error e => exact ⟨e, rfl, any⟩
  | ok a => cases any

/-! ### Rows of steps -/

theorem forM_eq_ok_iff {f : α → Except ε Unit} {xs : List α} {u : Unit} :
    xs.forM f = .ok u ↔ ∀ x ∈ xs, f x = .ok () := by
  induction xs with
  | nil => exact ⟨fun _ => nofun, fun _ => rfl⟩
  | cons x rest ih =>
    show (f x >>= fun _ => rest.forM f) = .ok u ↔ _
    rw [bind_eq_ok_iff, List.forall_mem_cons, ← ih]
    exact ⟨fun ⟨(), first, others⟩ => ⟨first, others⟩, fun ⟨first, others⟩ => ⟨(), first, others⟩⟩

/-- A list is gone through without a fault where each element is. -/
theorem mapM_eq_ok_iff {f : α → Except ε β} {l : List α} {results : List β} :
    l.mapM f = .ok results ↔ List.Forall₂ (fun a b => f a = .ok b) l results := by
  induction l generalizing results with
  | nil => cases results <;> simp [pure, Except.pure]
  | cons a rest ih =>
    rw [List.mapM_cons]
    cases first : f a with
    | error e => cases results <;> simp [bind, Except.bind, first]
    | ok b =>
      cases more : rest.mapM f with
      | error e => cases results <;> simp [bind, Except.bind, ← ih, more]
      | ok bs => cases results <;> simp [bind, Except.bind, pure, Except.pure, ← ih, more, first]

section
variable {σ : Type} {xs : List α} {s s' : σ}

theorem foldlM_keeps {P : σ → Prop} {f : σ → α → Except ε σ}
    (step : ∀ {s s' : σ} {x : α}, P s → f s x = .ok s' → P s') (h : P s)
    (done : xs.foldlM f s = .ok s') : P s' := by
  induction xs generalizing s with
  | nil => exact Except.ok.inj done ▸ h
  | cons x rest ih =>
    rw [List.foldlM_cons] at done
    obtain ⟨next, first, done⟩ := bind_eq_ok_iff.mp done
    exact ih (step h first) done

/-- A row of checked steps succeeds when each element is fine, and comes to the same steps without
the checks. Whether an element is fine must not depend on the state, as far as that keeps to `P`. -/
theorem foldlM_eq_ok_iff {P : σ → Prop} {fine : α → Prop} {f : σ → α → Except ε σ} {g : σ → α → σ}
    (step : ∀ {s s' : σ} {x : α}, P s → (f s x = .ok s' ↔ fine x ∧ s' = g s x))
    (keeps : ∀ {s : σ} {x : α}, P s → P (g s x)) (h : P s) :
    xs.foldlM f s = .ok s' ↔ (∀ x ∈ xs, fine x) ∧ s' = xs.foldl g s := by
  induction xs generalizing s with
  | nil =>
    rw [List.foldlM_nil, List.foldl_nil]
    exact ⟨fun done => ⟨nofun, (Except.ok.inj done).symm⟩, fun ⟨_, same⟩ => same ▸ rfl⟩
  | cons x rest ih =>
    rw [List.foldlM_cons, bind_eq_ok_iff, List.forall_mem_cons, List.foldl_cons]
    constructor
    · rintro ⟨next, first, others⟩
      obtain ⟨fine, rfl⟩ := (step h).mp first
      obtain ⟨all, done⟩ := (ih (keeps h)).mp others
      exact ⟨⟨fine, all⟩, done⟩
    · rintro ⟨⟨fine, all⟩, done⟩
      exact ⟨g s x, (step h).mpr ⟨fine, rfl⟩, (ih (keeps h)).mpr ⟨all, done⟩⟩

end

end Conlang
