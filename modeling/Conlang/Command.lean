import Conlang.Definition.Loading
import Conlang.Report.Forms
import Conlang.Report.Sound
import Conlang.Report.Validation
import Conlang.Settings

/-! The commands of the command line.

`Command.ofArguments` reads the arguments, and `LanguageCommand.run` answers a command that is about
a language. -/
namespace Conlang
open Text

/-- What is asked of a language. -/
inductive LanguageCommand where
  | decline (word : Id) (combination : String)
  | forms (word : Id)
  | explain (word : Id) (combination : String) (json : Bool)
  | pronounce (text : String)
  | romanize (text : String)
  | syllables (text : String)
  | validate
  deriving Repr, DecidableEq

inductive Command where
  /-- Asks the language that a file defines. -/
  | language (file : String) (command : LanguageCommand)
  | settingsExport
  | settingsValidate (file : String)
  deriving Repr, DecidableEq

namespace LanguageCommand

/-- The text that is printed. -/
def run (s : Settings) (l : Language) : LanguageCommand → Except Report.Fault String
  | .decline word combination => Report.decline s.engine l word combination
  | .forms word => Report.forms s.engine l word
  | .explain word combination json => Report.explain s.engine l word combination json
  | .pronounce text => .ok (Report.pronounce s.engine s.passes s.separator l text)
  | .romanize text => .ok (Report.romanize s.engine s.passes s.separator l text)
  | .syllables text => .ok (Report.syllables s.separator l text)
  | .validate => .ok (Report.validate s.engine l)

end LanguageCommand

namespace Command

/-- A word is given by its id. -/
def word? (argument : String) : Option Id := (readNumber argument.toList).toOption

def jsonOption : String := "--json"

def ofArguments (arguments : List String) : Option Command :=
  let json := arguments.contains jsonOption
  match arguments.filter (· != jsonOption) with
  | ["explain", file, word, combination] => do
    some (.language file (.explain (← word? word) combination json))
  | rest => if json then none else plain? rest
where
  plain? : List String → Option Command
    | ["decline", file, word,
      combination] => do some (.language file (.decline (← word? word) combination))
    | ["forms", file, word] => do some (.language file (.forms (← word? word)))
    | ["pronounce", file, text] => some (.language file (.pronounce text))
    | ["romanize", file, text] => some (.language file (.romanize text))
    | ["syllables", file, text] => some (.language file (.syllables text))
    | ["validate", file] => some (.language file .validate)
    | ["settings-export"] => some .settingsExport
    | ["settings-validate", file] => some (.settingsValidate file)
    | _ => none

def usage : String :=
  "usage: decline DEF WORD COMBINATION | forms DEF WORD | explain [--json] DEF WORD COMBINATION\n"
    ++ "     | pronounce DEF TEXT | romanize DEF TEXT | syllables DEF TEXT | validate DEF\n"
    ++ "     | settings-export | settings-validate FILE"

end Command

end Conlang
