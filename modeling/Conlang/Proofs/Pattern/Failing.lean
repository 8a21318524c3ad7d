import Conlang.Proofs.Pattern.Scopes
import Mathlib.Control.Monad.Basic

/-! Whether scopes fail alike.

To replace some of the matches is to search for all of them first, and to look at the replacement
text only where there are any. To replace them all is to look at the text before the search. So the
scopes that select some fail alike (`fault?_replaceScoped`), and the scope that selects all fails as
they do unless the text has no meaning and no match brings that to light
(`scopes_fail_alike_iff`). -/
namespace Conlang.Pattern

/-! ### What goes wrong -/

/-- What goes wrong, if anything does. -/
def fault? {ε α : Type} : Except ε α → Option ε
  | .ok _ => none
  | .error e => some e

theorem fault?_mapError {ε ε' α : Type} (f : ε → ε') (x : Except ε α) :
    fault? (x.mapError f) = (fault? x).map f := by
  cases x <;> rfl

/-- Nothing goes wrong behind the last step that can fail. -/
theorem fault?_bind_ok {ε α β : Type} (x : Except ε α) (f : α → β) :
    fault? (x >>= fun a => .ok (f a)) = fault? x := by
  cases x <;> rfl

/-- What goes wrong in a search for matches, and then in one for their groups, which is made only if
there are any. -/
def Engine.searches? (E : Engine) (program : E.Program) (t : Subject) : Option Failure :=
  match E.found program t with
  | .error cause => some cause
  | .ok [] => none
  | .ok (_ :: _) => fault? (E.captured program t)

/-- Whatever the scope, nothing goes wrong or the same does. -/
def FailsAlike (E : Engine) (p : Pattern) (replacement text : String) : Prop :=
  ∀ scope scope' : Scope, fault? (p.replaceScoped E replacement scope text) =
    fault? (p.replaceScoped E replacement scope' text)

section
variable {E : Engine} {p : Pattern} {program : E.Program} {replacement text : String}
  {pieces : List Piece}
variable {fault : TemplateFault} {scope scope' : Scope}

/-! ### All matches -/

theorem fault?_replaceAll (compiled : p.compile E = .ok program)
    (parsed : Template.parse (E.groups program) ((E.names program).map Prod.fst) replacement =
      .ok pieces) :
    fault? (p.replaceAll E replacement text) =
      (fault? (if Template.needsGroups pieces then E.captured program (.ofString text)
        else E.found program (.ofString text))).map (.runtime p.source) := by
  rw [replaceAll, compiled]
  show fault? (p.replaceAllWith E program replacement text) = _
  rw [replaceAllWith, parseTemplate, parsed]
  show fault? (p.substitute E program pieces (.ofString text)) = _
  rw [substitute, fault?_bind_ok, searched, fault?_mapError]

/-! ### Some of the matches -/

/-- What goes wrong where some of the matches are replaced. -/
def scopedFault? (E : Engine) (p : Pattern) (program : E.Program) (replacement text : String) :
    Option Error :=
  match E.found program (.ofString text) with
  | .error cause => some (.runtime p.source cause)
  | .ok [] => none
  | .ok (_ :: _) => match parseTemplate E program replacement with
    | .error e => some e
    | .ok _ => (fault? (E.captured program (.ofString text))).map (.runtime p.source)

/-- It does not matter which of the matches they are. -/
theorem fault?_replaceScoped (apart : p.looksAround = false) (compiled : p.compile E = .ok program)
    (some : scope ≠ .all) :
    fault? (p.replaceScoped E replacement scope text) =
      scopedFault? E p program replacement text := by
  rw [replaceScoped_some apart compiled some, scopedFault?]
  cases E.found program (.ofString text) with
  | error cause => rfl
  | ok found =>
    cases found with
    | nil => rfl
    | cons m rest =>
      cases parseTemplate E program replacement with
      | error e => rfl
      | ok pieces =>
        show fault? (p.searched (E.captured program (.ofString text)) >>= fun captured => .ok _) = _
        rw [fault?_bind_ok, searched, fault?_mapError]

theorem replaceScoped_of_illegal {e : Error} (apart : p.looksAround = false)
    (illegal : p.compile E = .error e) (scope : Scope) :
    p.replaceScoped E replacement scope text = .error e := by
  rw [replaceScoped, replaceAll, apart, illegal]
  split <;> rfl

theorem fails_alike_of_some (apart : p.looksAround = false) (some : scope ≠ .all)
    (some' : scope' ≠ .all) :
    fault? (p.replaceScoped E replacement scope text) =
      fault? (p.replaceScoped E replacement scope' text) := by
  cases compiled : p.compile E with
  | error e => rw [replaceScoped_of_illegal apart compiled, replaceScoped_of_illegal apart compiled]
  | ok program =>
    rw [fault?_replaceScoped apart compiled some, fault?_replaceScoped apart compiled some']

/-! ### All and some -/

/-- One scope that selects some of the matches stands for all that do. -/
theorem failsAlike_iff (apart : p.looksAround = false) (compiled : p.compile E = .ok program) :
    FailsAlike E p replacement text ↔
      fault? (p.replaceAll E replacement text) = scopedFault? E p program replacement text := by
  have all : p.replaceScoped E replacement .all text = p.replaceAll E replacement text := if_pos rfl
  constructor
  · intro alike
    rw [← all, ← fault?_replaceScoped apart compiled (show Scope.firstOnly ≠ .all by decide)]
    exact alike .all .firstOnly
  · intro same
    have each (scope : Scope) :
        fault? (p.replaceScoped E replacement scope text) =
        scopedFault? E p program replacement text := by
      by_cases whole : scope = .all
      · rw [whole, all, same]
      · exact fault?_replaceScoped apart compiled whole
    exact fun scope scope' => (each scope).trans (each scope').symm

/-- A text without a meaning must be brought to light by a match. -/
theorem failsAlike_of_refused (apart : p.looksAround = false) (compiled : p.compile E = .ok program)
    (refused : Template.parse (E.groups program) ((E.names program).map Prod.fst) replacement =
      .error fault) :
    FailsAlike E p replacement text ↔
      ∃ m rest, E.found program (.ofString text) = .ok (m :: rest) := by
  rw [failsAlike_iff apart compiled, replaceAll_of_error compiled refused, scopedFault?,
    parseTemplate, refused]
  cases E.found program (.ofString text) with
  | error cause => simp [fault?]
  | ok found => cases found <;> simp [fault?, Except.mapError]

/-- With a text that has a meaning only searches fail. -/
theorem failsAlike_of_parsed (apart : p.looksAround = false) (compiled : p.compile E = .ok program)
    (parsed : Template.parse (E.groups program) ((E.names program).map Prod.fst) replacement =
      .ok pieces) :
    FailsAlike E p replacement text ↔
      fault? (if Template.needsGroups pieces then E.captured program (.ofString text)
        else E.found program (.ofString text)) = E.searches? program (.ofString text) := by
  have some : scopedFault? E p program replacement text =
      (E.searches? program (.ofString text)).map (.runtime p.source) := by
    rw [scopedFault?, Engine.searches?, parseTemplate, parsed]
    cases E.found program (.ofString text) with
    | error cause => rfl
    | ok found => cases found <;> rfl
  have runtime : Function.Injective (Error.runtime p.source) := fun cause cause' same =>
    (Error.runtime.inj same).2
  rw [failsAlike_iff apart compiled, fault?_replaceAll compiled parsed, some]
  exact (Option.map_injective runtime).eq_iff

/-- The replacement text can be used with the groups of a pattern. -/
def Meaningful (E : Engine) (program : E.Program) (replacement : String) : Prop :=
  ∃ pieces,
    Template.Means (E.groups program) ((E.names program).map Prod.fst) replacement.toList pieces

/-- The replacement text has a meaning, or there is a match that brings to light that it has
none. -/
def Revealed (E : Engine) (program : E.Program) (replacement text : String) : Prop :=
  Meaningful E program replacement ∨ ∃ m rest, E.found program (.ofString text) = .ok (m :: rest)

/-- Replacing all matches takes one search, which fails as the two searches do that replacing some
of them takes. -/
def SearchesAlike (E : Engine) (program : E.Program) (replacement text : String) : Prop :=
  ∀ pieces,
    Template.Means (E.groups program) ((E.names program).map Prod.fst) replacement.toList pieces →
    fault? (if Template.needsGroups pieces then E.captured program (.ofString text)
      else E.found program (.ofString text)) = E.searches? program (.ofString text)

theorem failsAlike_iff_revealed (apart : p.looksAround = false)
    (compiled : p.compile E = .ok program) :
    FailsAlike E p replacement text ↔
      Revealed E program replacement text ∧ SearchesAlike E program replacement text := by
  cases parsed : Template.parse (E.groups program) ((E.names program).map Prod.fst) replacement with
  | error fault =>
    have none (pieces : List Piece) :
        ¬ Template.Means (E.groups program) ((E.names program).map Prod.fst) replacement.toList
          pieces := by
      intro means
      cases parsed.symm.trans (Template.parse_eq_ok_iff.mpr means)
    rw [failsAlike_of_refused apart compiled parsed]
    constructor
    · exact fun matched => ⟨.inr matched, fun pieces means => absurd means (none pieces)⟩
    · intro ⟨revealed, _⟩
      exact revealed.resolve_left fun ⟨pieces, means⟩ => none pieces means
  | ok pieces =>
    have means := Template.parse_eq_ok_iff.mp parsed
    rw [failsAlike_of_parsed apart compiled parsed]
    constructor
    · intro same
      refine ⟨.inl ⟨pieces, means⟩, fun pieces' means' => ?_⟩
      obtain rfl := Except.ok.inj (parsed.symm.trans (Template.parse_eq_ok_iff.mpr means'))
      exact same
    · exact fun ⟨_, alike⟩ => alike pieces means

/-- Where a search for groups lists what a search for matches does, neither replacement fails before
the other. -/
theorem searchesAlike_of_same
    (same : E.found program (.ofString text) = E.captured program (.ofString text)) :
    SearchesAlike E program replacement text := by
  intro pieces _
  rw [Engine.searches?, ← same, ite_self]
  cases E.found program (.ofString text) with
  | error cause => rfl
  | ok found => cases found <;> rfl

end

/-- **Whether scopes fail alike.** Those that select some of the matches always do. All scopes do if
and only if the pattern is illegal or else its searches fail alike and the replacement text has a
meaning or there is a match. The searches fail alike where the engine lists the same matches whether
or not it is asked for their groups. -/
theorem scopes_fail_alike_iff {E : Engine} {p : Pattern} (apart : p.looksAround = false)
    (replacement text : String) :
    (∀ scope scope' : Scope, scope ≠ .all → scope' ≠ .all →
      fault? (p.replaceScoped E replacement scope text) =
        fault? (p.replaceScoped E replacement scope' text)) ∧
    (FailsAlike E p replacement text ↔ ∀ program, p.compile E = .ok program →
      Revealed E program replacement text ∧ SearchesAlike E program replacement text) ∧
    ∀ program, p.compile E = .ok program →
      E.found program (.ofString text) = E.captured program (.ofString text) →
      SearchesAlike E program replacement text := by
  refine ⟨fun scope scope' => fails_alike_of_some apart, ?_, fun _ _ => searchesAlike_of_same⟩
  cases compiled : p.compile E with
  | error e =>
    refine ⟨fun _ => nofun, fun _ scope scope' => ?_⟩
    rw [replaceScoped_of_illegal apart compiled, replaceScoped_of_illegal apart compiled]
  | ok program =>
    rw [failsAlike_iff_revealed apart compiled]
    exact ⟨fun alike program' same => Except.ok.inj same ▸ alike, fun each => each program rfl⟩

/-- A match of `x` brings to light that there is no second group. -/
theorem scopes_fail_alike_axa :
    let E := Engine.standard ⟨1000000, 10485760⟩
    let p : Pattern := ⟨"x", false⟩
    p.looksAround = false ∧ FailsAlike E p "$2" "axa" := by
  intro E p
  have apart : p.looksAround = false := by decide
  obtain ⟨-, iff, alike⟩ := scopes_fail_alike_iff (E := E) apart "$2" "axa"
  refine ⟨apart, iff.mpr fun program compiled => ?_⟩
  have found : E.found program (.ofString "axa") = .ok [#[some 1, some 2]] :=
    ok_of_compile (f := (E.found · _)) compiled (by decide +kernel)
  have captured : E.captured program (.ofString "axa") = .ok [#[some 1, some 2]] :=
    ok_of_compile (f := (E.captured · _)) compiled (by decide +kernel)
  exact ⟨.inr ⟨_, _, found⟩, alike program compiled (found.trans captured.symm)⟩

/-- **Without a match a text that has no meaning is let pass**, though not where all matches are to
be replaced. -/
theorem scopes_fail_apart :
    let E := Engine.standard ⟨1000000, 10485760⟩
    let p : Pattern := ⟨"z", false⟩
    p.looksAround = false ∧
      p.replaceScoped E "$2" .all "abc" = .error (.replacement "$2" (.noGroup 2)) ∧
      p.replaceScoped E "$2" .firstOnly "abc" = .ok "abc" := by
  decide +kernel

end Conlang.Pattern
