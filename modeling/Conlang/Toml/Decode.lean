import Conlang.Lexicon
import Conlang.Toml.Value

/-! Taking the parts of a TOML value.

A record is written as a table, or as an array that gives its fields in their order. Fields that are
not known are ignored, and a date counts as a table of such. -/
namespace Conlang.Toml

abbrev Decoder (α : Type) := Value → Except Fault α

namespace Decode

def string : Decoder String
  | .string s => .ok s
  | _ => .error .wrongType

def boolean : Decoder Bool
  | .boolean b => .ok b
  | _ => .error .wrongType

/-- An integer that is not negative. -/
def size : Decoder Nat
  | .integer (.ofNat n) => .ok n
  | _ => .error .wrongType

def id : Decoder Id
  | .integer (.ofNat n) => if n < UInt32.size then .ok (.ofNat n) else .error .wrongType
  | _ => .error .wrongType

def list {α : Type} (element : Decoder α) : Decoder (List α)
  | .array vs => vs.mapM element
  | _ => .error .wrongType

/-- A table of any keys. -/
def map {α : Type} (element : Decoder α) : Decoder (List (String × α))
  | .table es => es.mapM fun (key, v) => return (key, ← element v)
  | _ => .error .wrongType

end Decode

/-- The fields that a record gives, by name. -/
structure Fields where
  value? : String → Option Value

namespace Fields

/-- The fields of a table. -/
def ofTable : Decoder Fields
  | .table es => .ok ⟨fun name => es.lookup name⟩
  | .date => .ok ⟨fun _ => none⟩
  | _ => .error .wrongType

/-- The fields of a table, or of an array in the order of the names. -/
def ofRecord (names : List String) : Decoder Fields
  | .array vs => .ok ⟨fun name => (names.zip vs).lookup name⟩
  | v => ofTable v

/-- An array must not go on behind the last field. -/
def ofClosedRecord (names : List String) : Decoder Fields
  | .array vs =>
    if vs.length ≤ names.length then .ok ⟨fun name => (names.zip vs).lookup name⟩
      else .error .wrongType
  | v => ofTable v

/-- A field that must be given. -/
def get {α : Type} (f : Fields) (name : String) (decode : Decoder α) : Except Fault α :=
  match f.value? name with
  | some v => decode v
  | none => .error (.missingKey name)

/-- A field that may be left out. -/
def getD {α : Type} (f : Fields) (name : String) (decode : Decoder α) (default : α) :
    Except Fault α :=
  match f.value? name with
  | some v => decode v
  | none => .ok default

end Fields

end Conlang.Toml
