import Conlang.Pattern.Engine
import Conlang.Text.Quoted
import Conlang.Toml.Decode
import Conlang.Toml.Reader

/-! Limits and texts that hold for all languages. -/
namespace Conlang
open Toml

structure Settings where
  /-- How often a pattern that is tried may come back. -/
  backtracks : Nat
  /-- How much room a compiled pattern may take. -/
  size : Nat
  /-- How often a row of sound rules may be gone through again. -/
  passes : Nat
  /-- Stands between syllables. -/
  separator : String
  deriving Repr, DecidableEq

namespace Settings

inductive Fault where
  | toml (fault : Toml.Fault)
  | notPositive (field : String)
  | isEmpty (field : String)
  deriving Repr, DecidableEq

def Fault.message : Fault → String
  | .toml fault => fault.message
  | .notPositive field => s!"invalid value for {field}: must be positive"
  | .isEmpty field => s!"invalid value for {field}: must not be empty"

def decode (f : Fields) : Except Toml.Fault Settings := do
  let patterns ← f.get "patterns" (Fields.ofRecord ["backtrack_limit", "size_limit"])
  let backtracks ← patterns.get "backtrack_limit" Decode.size
  let size ← patterns.get "size_limit" Decode.size
  let sound ← f.get "pronunciation" (Fields.ofRecord ["max_recursion_passes", "syllable_separator"])
  let passes ← sound.get "max_recursion_passes" Decode.size
  let separator ← sound.get "syllable_separator" Decode.string
  return { backtracks, size, passes, separator }

def check (s : Settings) : Except Fault Settings :=
  if s.backtracks = 0 then .error (.notPositive "patterns.backtrack_limit")
  else if s.size = 0 then .error (.notPositive "patterns.size_limit")
  else if s.passes = 0 then .error (.notPositive "pronunciation.max_recursion_passes")
  else if s.separator.isEmpty then .error (.isEmpty "pronunciation.syllable_separator")
  else .ok s

def ofToml (text : String) : Except Fault Settings := do
  let settings ← ((Toml.read text >>= fun es => Fields.ofTable (.table es)) >>= decode).mapError
    .toml
  settings.check

/-! ### The standard settings -/

def standard : Settings :=
  { backtracks := 1000000, size := 10485760, passes := 100, separator := "˙" }

/-- The standard settings as a document. -/
def standardText : String := "\n".intercalate
  ["# Engine-wide defaults. Override with settings::init_custom() before first use.",
   "",
   "[patterns]",
   "# Backtracking budget for patterns that need the backtracking matcher",
   "# (lookahead, lookbehind, backreferences).",
   "backtrack_limit = 1000000",
   "# Compiled program size limit in bytes.",
   "size_limit = 10485760",
   "",
   "[pronunciation]",
   "# Maximum full re-scans of the rule list triggered by one lookaround match.",
   "max_recursion_passes = 100",
   "# Joins syllables when syllable composition is enabled.",
   "syllable_separator = \"˙\"",
   ""]

/-- The line that confirms settings. -/
def summary (s : Settings) : String :=
  s!"OK: patterns.backtrack_limit={s.backtracks}, pronunciation.max_recursion_passes={s.passes}, "
    ++ s!"pronunciation.syllable_separator={Text.quoted s.separator}\n"

/-- The engine that works within the limits. -/
def engine (s : Settings) : Pattern.Engine := .standard ⟨s.backtracks, s.size⟩

end Settings

end Conlang
