import Conlang.Toml.Value

/-! Tables as they grow while a document is read.

A header names a table, a dotted key names a table within the one that is being filled, and both
make the tables on the way when there are none. How a table came about decides who may add to it:
one with a header of its own is closed, one that a longer header only implied may still get its
header, and one that a dotted key made takes more dotted keys. A value that was written out is never
added to. -/
namespace Conlang.Toml

inductive Origin where
  | header
  | implied
  | dotted
  deriving Repr, DecidableEq

inductive Node where
  | value (v : Value)
  | table (origin : Origin) (entries : List (String × Node))
  | tables (elements : List (List (String × Node)))
  deriving Repr

abbrev Entries := List (String × Node)

namespace Entries

/-- Puts a node in the place of the one that the key has, or behind all others. -/
def put (key : String) (n : Node) : Entries → Entries
  | [] => [(key, n)]
  | (k, m) :: rest => if k = key then (key, n) :: rest else (k, m) :: put key n rest

/-- Changes the last table of an array. -/
def onLast (change : Entries → Except Fault Entries) : List Entries → Except Fault (List Entries)
  | [] => .error .malformed
  | [es] => return [← change es]
  | es :: rest => return es :: (← onLast change rest)

/-! ### Dotted keys -/

/-- Adds a value under a dotted key. `accepts` says whether the table at hand takes keys. -/
def insert (value : Value) : (accepts : Bool) → List String → Entries → Except Fault Entries
  | _, [], _ => .error .malformed
  | accepts, [key], es =>
    if accepts && (es.lookup key).isNone then .ok (es.put key (.value value))
    else .error (.repeatedKey key)
  | _, key :: rest, es =>
    match es.lookup key with
    | none => return es.put key (.table .dotted (← insert value true rest []))
    | some (.table .dotted sub) => return es.put key (.table .dotted (← insert value true rest sub))
    | some (.table .implied sub) =>
      return es.put key (.table .implied (← insert value false rest sub))
    | some (.tables elements) =>
      return es.put key (.tables (← onLast (insert value false rest) elements))
    | some _ => .error (.repeatedKey key)

/-- A table of dotted keys and their values. -/
def ofPairs (pairs : List (List String × Value)) (start : Entries) : Except Fault Entries :=
  pairs.foldlM (fun es (path, value) => insert value true path es) start

/-! ### Headers -/

/-- Changes the table at the end of a path. -/
def within (change : Entries → Except Fault Entries) : List String → Entries → Except Fault Entries
  | [], es => change es
  | key :: rest, es =>
    match es.lookup key with
    | none => return es.put key (.table .implied (← within change rest []))
    | some (.table origin sub) => return es.put key (.table origin (← within change rest sub))
    | some (.tables elements) =>
      return es.put key (.tables (← onLast (within change rest) elements))
    | some (.value _) => .error (.repeatedKey key)

/-- Adds the table that a header names. -/
def addTable (key : String) (pairs : List (List String × Value)) (es : Entries) :
    Except Fault Entries :=
  match es.lookup key with
  | none => return es.put key (.table .header (← ofPairs pairs []))
  | some (.table .implied sub) => return es.put key (.table .header (← ofPairs pairs sub))
  | some _ => .error (.repeatedKey key)

/-- Adds a table to the array that a header names. -/
def addElement (key : String) (pairs : List (List String × Value)) (es : Entries) :
    Except Fault Entries :=
  match es.lookup key with
  | none => return es.put key (.tables [← ofPairs pairs []])
  | some (.tables elements) => return es.put key (.tables (elements ++ [← ofPairs pairs []]))
  | some _ => .error (.repeatedKey key)

end Entries

/-! ### Finished tables -/

mutual

def Node.toValue : Node → Value
  | .value v => v
  | .table _ es => .table (Entries.toValues es)
  | .tables elements => .array (Entries.toElements elements)

def Entries.toValues : List (String × Node) → List (String × Value)
  | [] => []
  | (key, n) :: rest => (key, n.toValue) :: Entries.toValues rest

def Entries.toElements : List (List (String × Node)) → List Value
  | [] => []
  | es :: rest => .table (Entries.toValues es) :: Entries.toElements rest

end

/-- A stretch of a document: its header, and the keys behind it. -/
structure Section where
  path : List String
  /-- The header adds to an array of tables. -/
  element : Bool
  pairs : List (List String × Value)

def Section.addTo (s : Section) (root : Entries) : Except Fault Entries :=
  match s.path.getLast? with
  | none => .error .malformed
  | some key =>
    root.within (fun es => if s.element then es.addElement key s.pairs else es.addTable key s.pairs)
      s.path.dropLast

/-- A document from the keys in front of the first header and the stretches behind. -/
def tableOfSections (first : List (List String × Value)) (sections : List Section) :
    Except Fault (List (String × Value)) := do
  let root ← sections.foldlM (fun root s => s.addTo root) (← Entries.ofPairs first [])
  .ok (Entries.toValues root)

end Conlang.Toml
