import Conlang.Report.Explanation

/-! The forms of words, as they are printed. -/
namespace Conlang
namespace Report
open Text

/-- What keeps forms from being printed. -/
inductive Fault where
  | combination (malformed : Combination.Malformed)
  | declension (fault : Declension.Fault)
  deriving Repr, DecidableEq

def Fault.message : Fault → String
  | .combination malformed => malformed.message
  | .declension fault => fault.message

def diagnosticLines (ds : List Declension.Diagnostic) : String :=
  String.join (ds.map fun d => s!"  ! {d.message}\n")

section
variable (E : Pattern.Engine)

/-- One form, and what was skipped on the way to it. -/
def decline (l : Language) (word : Id) (combination : String) : Except Fault String := do
  let c ← (Combination.parse combination).mapError .combination
  let d ← (l.decline E word c).mapError .declension
  .ok (s!"{d.value}\n" ++ diagnosticLines d.diagnostics)

/-- The label as the table shows it. -/
def shownLabel (f : Form) : String := if f.label.isEmpty then "(base)" else f.label

/-- The text in a column of so many characters. -/
def column (columns : Nat) (s : String) : String :=
  s ++ .ofList (List.replicate (columns - s.length) ' ')

def formLine (ids labels : Nat) (f : DeclinedForm) : String :=
  let label := shownLabel f.form
  s!"{column ids f.form.combination.text}  {label}{padding label labels}  {f.value}\n"
    ++ diagnosticLines f.diagnostics

/-- All forms of a word that are not hidden, in columns. -/
def forms (l : Language) (word : Id) : Except Fault String := do
  let fs ← (l.forms E word).mapError .declension
  let ids := (fs.map fun f => f.form.combination.text.length).foldl max 0
  let labels := (fs.map fun f => width (shownLabel f.form)).foldl max 0
  .ok (String.join (fs.map (formLine ids labels)))

def explain (l : Language) (word : Id) (combination : String) (json : Bool) :
    Except Fault String := do
  let c ← (Combination.parse combination).mapError .combination
  let e ← (l.explain E word c).mapError .declension
  .ok (if json then e.json.pretty ++ "\n" else e.text)

end

end Report

end Conlang
