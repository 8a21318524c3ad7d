import Conlang.Language
import Conlang.Report.Json
import Conlang.Text.Width

/-! How a word got a form, told rule by rule.

`Explanation.text` is for reading and `Explanation.json` for programs. -/
namespace Conlang

open Declension Text

namespace Declension

/-! ### Text -/

def Outcome.sentence : Outcome → String
  | .classMismatch =>
    "    Word's class does not match filter values for rule. Rule will not be applied.\n"
  | .gateMatched value gate =>
      s!"    value: {value} matches regex: \"{gate}\". Rule will be applied.\n"
  | .gateMismatch value gate =>
    s!"    value: {value} does not match regex: \"{gate}\". Rule will not be applied.\n"
  | .gateFailed gate error =>
    s!"    regex: \"{gate}\" is illegal ({error.message}). Rule will not be applied.\n"

def Effect.sentence : Effect → String
  | .applied before after => s!"        Effect: {before} -> {after}\n"
  | .skipped error => s!"        Skipped: {error.message}\n"

def TransformTrace.text (t : TransformTrace) : String :=
  "    -------------------------\n    Transformation:\n"
    ++
    s!"        Regex: \"{t.transform.pattern.source}\"\n        Text: \"{t.transform.replacement}\"\n"
    ++ t.effect.sentence

def RuleTrace.text (t : RuleTrace) : String :=
  s!"--------------------------------------\nRule: {t.name}\n" ++ t.outcome.sentence
    ++ String.join (t.transforms.map (·.text))

def Outcome.status : Outcome → String
  | .gateMatched .. => "applied"
  | .gateMismatch .. => "skipped (regex)"
  | .classMismatch => "skipped (class)"
  | .gateFailed .. => "skipped (illegal regex)"

/-- A rule id in a column of five. -/
def idColumn (rule : Nat) : String :=
  let text := s!"#{rule}"
  text ++ .ofList (List.replicate (5 - text.length) ' ')

/-- The names of the rules stand in a column that is at least eight wide. -/
def nameColumn (traces : List RuleTrace) : Nat := (traces.map fun t => width t.name).foldl max 8

def RuleTrace.summary (columns : Nat) (t : RuleTrace) : String :=
  s!"  {t.name}{padding t.name columns} {idColumn t.rule} {t.outcome.status}\n"

/-- The diagnostic without quotes. -/
def Diagnostic.line (d : Diagnostic) : String :=
  s!"  {d.name} (#{d.rule}), {d.location.text}: {d.error.message}\n"

end Declension

namespace Explanation

/-- The rules that were applied. -/
def applied (e : Explanation) : List Nat :=
  (e.declension.trace.filter (·.outcome.applied)).map (·.rule)

def header (e : Explanation) : String :=
  let label := e.label.getD "(undeclared form)"
  let suffix := if e.suppressed then ", suppressed" else ""
  s!"=== {e.base} -> {e.declension.value}  [{e.combination.text} {label}{suffix}] ===\n"

def text (e : Explanation) : String :=
  let traces := e.declension.trace
  let skipped := e.declension.diagnostics
  if traces.isEmpty then e.header ++ "No rules for this form; base value kept.\n"
  else
    e.header ++ "APPLIED RULES BREAKDOWN:\n" ++ String.join (traces.map (·.text))
      ++ s!"\n=== Summary ({traces.length} rules) ===\n"
      ++ String.join (traces.map (·.summary (nameColumn traces)))
      ++ if skipped.isEmpty then ""
        else s!"\n=== Skipped patterns ({skipped.length}) ===\n" ++
        String.join (skipped.map (·.line))

/-! ### JSON -/

open Report

def outcomeJson : Outcome → Json
  | .classMismatch => .object [("kind", .string "class_mismatch")]
  | .gateMatched value gate =>
    .object [("kind", .string "gate_matched"), ("value", .string value), ("regex", .string gate)]
  | .gateMismatch value gate =>
    .object [("kind", .string "gate_mismatch"), ("value", .string value), ("regex", .string gate)]
  | .gateFailed gate error =>
    .object [("kind", .string "illegal_gate"), ("regex", .string gate),
      ("reason", .string error.message)]

def effectJson : Effect → Json
  | .applied before after =>
    .object [("kind", .string "applied"), ("before", .string before), ("after", .string after)]
  | .skipped error => .object [("kind", .string "skipped"), ("reason", .string error.message)]

def transformJson (t : TransformTrace) : Json :=
  .object [("regex", .string t.transform.pattern.source),
    ("replacement", .string t.transform.replacement), ("effect", effectJson t.effect)]

def ruleJson (t : RuleTrace) : Json :=
  .object [("rule_id", .number t.rule), ("name", .string t.name),
    ("outcome", outcomeJson t.outcome), ("transforms", .array (t.transforms.map transformJson))]

def locationJson : Location → Json
  | .gate => .object [("kind", .string "gate")]
  | .transform place => .object [("kind", .string "transform"), ("position", .number place)]

def diagnosticJson (d : Diagnostic) : Json :=
  .object [("rule_id", .number d.rule), ("rule_name", .string d.name),
    ("location", locationJson d.location), ("message", .string d.error.message)]

def json (e : Explanation) : Json :=
  .object [("word_id", .number e.word.toNat), ("base", .string e.base),
    ("combination", .string e.combination.text), ("label", .optional e.label),
    ("suppressed", .boolean e.suppressed), ("result", .string e.declension.value),
    ("trace", .object [("rules", .array (e.declension.trace.map ruleJson))]),
    ("diagnostics", .array (e.declension.diagnostics.map diagnosticJson))]

end Explanation

end Conlang
