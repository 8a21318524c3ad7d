import Conlang.Proofs.Pattern.Usable

/-! Patterns that are legal alone and not anchored.

An anchored pattern is compiled alone and then in its frame. What is refused alone is refused in its
own name, anchored or not. What compiles alone is refused, in the name of its frame, if the frame
does not compile (`legality_anchored`). The frame of a pattern that ends in a comment does not
(`compile_commented_stem`). -/
namespace Conlang.Pattern

variable {E : Engine} {s : String}

/-- An error that a pattern has alone it has anchored. -/
theorem compile_of_error {e : Error} (refused : Pattern.compile E ⟨s, false⟩ = .error e)
    (anchored : Bool) :
    (∃ fault, e = .illegal s fault) ∧ Pattern.compile E ⟨s, anchored⟩ = .error e := by
  have alone : compileText E s = .error e := by
    rw [compile] at refused
    cases text : compileText E s with
    | error e' =>
      rw [text] at refused
      exact congrArg _ (Except.error.inj refused)
    | ok program =>
      rw [text] at refused
      cases refused
  refine ⟨compileText_error alone, ?_⟩
  rw [compile, alone]
  rfl

/-- A pattern that compiles alone is compiled anchored as its frame is. -/
theorem compile_of_ok {program : E.Program} (legal : Pattern.compile E ⟨s, false⟩ = .ok program) :
    compileText E s = .ok program ∧ Pattern.compile E ⟨s, true⟩ = compileText E (framed s) := by
  rw [compile] at legal
  cases alone : compileText E s with
  | error e =>
    rw [alone] at legal
    cases legal
  | ok program' =>
    rw [alone] at legal
    refine ⟨legal, ?_⟩
    rw [compile, alone]
    rfl

/-- **Anchoring changes whether a pattern is legal where its frame does not compile.** The error
then names the frame. Any other pattern is legal anchored if it is legal alone; if not, the error
names its source, anchored or not. -/
theorem legality_anchored (E : Engine) (s : String) :
    match Pattern.compile E ⟨s, false⟩ with
    | .error e => (∃ fault, e = .illegal s fault) ∧ Pattern.compile E ⟨s, true⟩ = .error e
    | .ok _ =>
      match E.compile (framed s) with
      | .error fault => Pattern.compile E ⟨s, true⟩ = .error (.illegal (framed s) fault)
      | .ok whole => Pattern.compile E ⟨s, true⟩ = .ok whole := by
  cases alone : Pattern.compile E ⟨s, false⟩ with
  | error e => exact compile_of_error alone true
  | ok program =>
    have anchored := (compile_of_ok alone).2
    rw [compileText] at anchored
    cases whole : E.compile (framed s) with
    | error fault =>
      rw [whole] at anchored
      exact anchored
    | ok program' =>
      rw [whole] at anchored
      exact anchored

/-- A stem with a comment behind it is legal. Anchored it is refused, for the comment takes in the
end of the frame, and the error names what the user did not write. -/
theorem compile_commented_stem :
    let E := Engine.standard ⟨1000000, 10485760⟩
    let stem : Pattern := ⟨"(?x)a # stem", false⟩
    stem.isLegal E = true ∧ Pattern.isLegal E { stem with anchored := true } = false ∧
      Pattern.compile E { stem with anchored := true } =
        .error (.illegal "^(?:(?x)a # stem)$" .unclosedGroup) := by
  intro E stem
  refine ⟨by decide +kernel, by decide +kernel, ?_⟩
  obtain ⟨e, refused, names⟩ :=
    error_of_any (x := Pattern.compile E { stem with anchored := true })
      (f := (· == .illegal "^(?:(?x)a # stem)$" .unclosedGroup)) (by decide +kernel)
  rw [refused, eq_of_beq names]

end Conlang.Pattern
