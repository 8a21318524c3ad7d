import Conlang.Proofs.Results
import Conlang.Substitution

/-! Substitutions that can not be used.

Whether a pattern compiles, and whether a replacement asks only for groups of its pattern, does not
depend on a text. So a substitution that is at fault in one of these ways fails on every text, with
one error (`apply_of_not_isUsable`), and any other fails only where a search is given up
(`isRuntime_of_isUsable`). -/
namespace Conlang

namespace Pattern

/-- The error lies in what is written: a pattern that does not compile, or a replacement that does
not fit. -/
def Error.isWritten : Error → Bool
  | .illegal .. => true
  | .replacement .. => true
  | .runtime .. => false
  | .lookaroundScope _ => false

/-- A search was given up. -/
def Error.isRuntime : Error → Bool
  | .runtime .. => true
  | _ => false

theorem Error.isWritten_of_isRuntime {e : Error} (h : e.isRuntime = true) :
    e.isWritten = false := by
  cases e with
  | runtime => rfl
  | _ => cases h

variable {E : Engine} {p : Pattern} {e : Error}

theorem compileText_error {text : String} (h : compileText E text = .error e) :
    ∃ fault, e = .illegal text fault := exists_of_mapError h

theorem compile_error (h : p.compile E = .error e) : ∃ text fault, e = .illegal text fault := by
  rw [compile] at h
  cases alone : compileText E p.source with
  | error e' =>
    obtain ⟨fault, rfl⟩ := compileText_error alone
    rw [alone] at h
    exact ⟨p.source, fault, (Except.error.inj h).symm⟩
  | ok program =>
    rw [alone] at h
    cases whole : p.anchored with
    | false => simp [whole, bind, Except.bind] at h
    | true =>
      rw [whole] at h
      obtain ⟨fault, rfl⟩ := compileText_error (h : compileText E (framed p.source) = .error e)
      exact ⟨framed p.source, fault, rfl⟩

theorem parseTemplate_error {program : E.Program} {replacement : String}
    (h : parseTemplate E program replacement = .error e) :
    ∃ fault, e = .replacement replacement fault :=
  exists_of_mapError h

theorem searched_error {α : Type} {result : Except Failure α} (h : p.searched result = .error e) :
    ∃ cause, e = .runtime p.source cause := exists_of_mapError h

theorem substitute_error {program : E.Program} {pieces : List Piece} {t : Subject}
    (h : p.substitute E program pieces t = .error e) : ∃ cause, e = .runtime p.source cause := by
  rw [substitute] at h
  cases found : p.searched
      (if Template.needsGroups pieces then E.captured program t else E.found program t) with
  | ok slots => rw [found] at h; cases h
  | error e' =>
    rw [found] at h
    obtain rfl : e' = e := Except.error.inj h
    exact searched_error found

/-! ### Tests -/

theorem isLegal_iff : p.isLegal E = true ↔ ∃ program, p.compile E = .ok program := by
  rw [isLegal]
  cases p.compile E <;> simp [Except.toBool]

theorem test_of_not_isLegal (h : p.isLegal E = false) :
    ∃ e, e.isWritten = true ∧ ∀ text, p.test E text = .error e := by
  cases compiled : p.compile E with
  | ok program => simp [isLegal, compiled, Except.toBool] at h
  | error e =>
    obtain ⟨text, fault, rfl⟩ := compile_error compiled
    exact ⟨_, rfl, fun text => by rw [test, compiled]; rfl⟩

theorem isRuntime_of_isLegal {text : String} (h : p.isLegal E = true)
    (failed : p.test E text = .error e) :
    e.isRuntime = true := by
  obtain ⟨program, compiled⟩ := isLegal_iff.mp h
  rw [test, compiled] at failed
  obtain ⟨cause, rfl⟩ := searched_error (failed : p.testWith E program text = .error e)
  rfl

end Pattern

namespace Substitution
open Pattern

variable (E : Engine)

/-- The pattern is blank, or else it compiles and the replacement fits it. -/
def isUsable (t : Substitution) : Bool :=
  t.pattern.isEmpty ||
    match t.pattern.compile E with
    | .ok program => (parseTemplate E program t.replacement).toBool
    | .error _ => false

/-- Usable and not blank, so that it may change a text. -/
def isActive (t : Substitution) : Bool := !t.pattern.isEmpty && t.isUsable E

variable {E} {t : Substitution}

/-- What is neither blank nor active is not usable. -/
theorem not_isUsable (blank : t.pattern.isEmpty = false) (idle : t.isActive E = false) :
    t.isUsable E = false := by
  simpa [isActive, blank] using idle

/-! ### Application -/

theorem apply_of_not_isEmpty (h : t.pattern.isEmpty = false) (text : String) :
    t.apply E text = t.pattern.replaceAll E t.replacement text := by
  rw [apply, h]
  rfl

theorem isEmpty_of_not_isUsable (h : t.isUsable E = false) : t.pattern.isEmpty = false :=
  (Bool.or_eq_false_iff.mp h).1

theorem apply_of_not_isUsable (h : t.isUsable E = false) :
    ∃ e, e.isWritten = true ∧ ∀ text, t.apply E text = .error e := by
  have blank := isEmpty_of_not_isUsable h
  cases compiled : t.pattern.compile E with
  | error e =>
    obtain ⟨text, fault, rfl⟩ := compile_error compiled
    exact ⟨_, rfl, fun text => by rw [apply_of_not_isEmpty blank, replaceAll, compiled]; rfl⟩
  | ok program =>
    cases parsed : parseTemplate E program t.replacement with
    | ok pieces => simp [isUsable, blank, compiled, parsed, Except.toBool] at h
    | error e =>
      obtain ⟨fault, rfl⟩ := parseTemplate_error parsed
      refine ⟨.replacement t.replacement fault, rfl, fun text => ?_⟩
      rw [apply_of_not_isEmpty blank, replaceAll, compiled]
      show replaceAllWith E t.pattern program t.replacement text = _
      rw [replaceAllWith, parsed]
      rfl

theorem isRuntime_of_isUsable {text : String} {e : Error} (h : t.isUsable E = true)
    (failed : t.apply E text = .error e) : e.isRuntime = true := by
  cases blank : t.pattern.isEmpty with
  | true => rw [apply, blank] at failed; cases failed
  | false =>
    cases compiled : t.pattern.compile E with
    | error e' => simp [isUsable, blank, compiled] at h
    | ok program =>
      cases parsed : parseTemplate E program t.replacement with
      | error e' => simp [isUsable, blank, compiled, parsed, Except.toBool] at h
      | ok pieces =>
        rw [apply_of_not_isEmpty blank, replaceAll, compiled] at failed
        have searching : t.pattern.substitute E program pieces (.ofString text) = .error e := by
          have whole : replaceAllWith E t.pattern program t.replacement text = .error e := failed
          rwa [replaceAllWith, parsed] at whole
        obtain ⟨cause, rfl⟩ := substitute_error searching
        rfl

/-- Errors of an application are of the two kinds. -/
theorem isWritten_eq_of_apply {text : String} {e : Error} (failed : t.apply E text = .error e) :
    e.isWritten = !t.isUsable E := by
  cases usable : t.isUsable E with
  | true => exact Error.isWritten_of_isRuntime (isRuntime_of_isUsable usable failed)
  | false =>
    obtain ⟨e', written, fails⟩ := apply_of_not_isUsable usable
    obtain rfl : e' = e := Except.error.inj ((fails text).symm.trans failed)
    exact written

end Substitution

end Conlang
