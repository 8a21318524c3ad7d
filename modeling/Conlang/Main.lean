import Conlang.Command

/-! The command line: reads files, prints answers and turns faults into an exit code. -/
namespace Conlang.Command

/-- Prints an answer, or a fault with what it happened at. -/
def report {ε : Type} (message : ε → String) (context : String) : Except ε String → IO UInt32
  | .ok text => do
    IO.print text
    return 0
  | .error e => do
    IO.eprintln s!"{context}: {message e}"
    return 1

def execute : Command → IO UInt32
  | .settingsExport => report (fun e : Empty => nomatch e) "" (.ok Settings.standardText)
  | .settingsValidate file => do
    let text ← IO.FS.readFile file
    report Settings.Fault.message "Error" ((Settings.ofToml text).map Settings.summary)
  | .language file command => do
    match Language.ofToml (← IO.FS.readFile file) with
    | .error e => report Definition.Fault.message s!"Error loading {file}" (.error e)
    | .ok l => report Report.Fault.message "Error" (command.run .standard l)

end Conlang.Command

def main (arguments : List String) : IO UInt32 := do
  match Conlang.Command.ofArguments arguments with
  | none =>
    IO.eprintln Conlang.Command.usage
    return 2
  | some command =>
    try command.execute
    catch e =>
      IO.eprintln s!"Error: {e}"
      return 1
