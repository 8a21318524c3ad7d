/-! Values of a TOML document. -/
namespace Conlang.Toml

/-- The keys of a table are distinct. Nothing that is read from documents is a fraction or a date,
so of those only the kind is kept. -/
inductive Value where
  | string (text : String)
  | integer (n : Int)
  | float
  | boolean (b : Bool)
  | date
  | array (elements : List Value)
  | table (entries : List (String × Value))
  deriving Repr

/-- Why a document was not accepted. -/
inductive Fault where
  | malformed
  | repeatedKey (key : String)
  | wrongType
  | missingKey (key : String)
  deriving Repr, DecidableEq

namespace Fault

/-- Stands in the message for the finer reason, which is not part of its text. -/
def withheld : String := "<reason>"

def message (_ : Fault) : String := s!"TOML parse error: {withheld}"

end Fault

end Conlang.Toml
