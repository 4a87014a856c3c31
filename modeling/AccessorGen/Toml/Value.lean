import AccessorGen.Span
import AccessorGen.Toml.Scalar

/-! Values of a document, and the rules for adding to its tables. -/

namespace AccessorGen.Toml

inductive ArrayKind where
  /-- Written in brackets, and complete from the start. -/
  | closed
  /-- Grows by one table with each header in double brackets. -/
  | ofTables
  deriving DecidableEq, Repr

/-- What a table came into being by. -/
inductive TableKind where
  /-- The document itself, or a header of its own. -/
  | header
  /-- A longer header. -/
  | supertable
  /-- A dotted key. -/
  | dotted
  /-- Braces; nothing can be added to it. -/
  | braces
  deriving DecidableEq, Repr

/-- Of a scalar other than a string only its kind is kept. -/
inductive Value where
  | string (text : Spanned String)
  | scalar (kind : ScalarKind)
  | array (kind : ArrayKind) (items : List Value)
  | table (kind : TableKind) (entries : List (String × Value))

/-- A table by itself. -/
structure Table where
  kind : TableKind
  entries : List (String × Value)

namespace Table

def toValue (t : Table) : Value := .table t.kind t.entries

def find? (t : Table) (key : String) : Option Value :=
  (t.entries.find? (·.1 = key)).map Prod.snd

/-- Gives a key its value, in its old place if it has one. -/
def set (t : Table) (key : String) (v : Value) : Table :=
  if t.entries.any (·.1 = key) then
    { t with entries := t.entries.map fun e => if e.1 = key then (key, v) else e }
  else { t with entries := t.entries ++ [(key, v)] }

/-- Adds a key that the table does not have yet. -/
def add? (t : Table) (key : String) (v : Value) : Option Table :=
  if (t.find? key).isNone then some (t.set key v) else none

/-- Changes the table at the end of a path. Tables that are missing on the way are made, of the
given kind. An array of tables is entered at its last table. A dotted key enters no table that has a
header of its own, and nothing enters one in braces. -/
def update? (making : TableKind) (change : Table → Option Table) :
    List String → Table → Option Table
  | [], t => change t
  | key :: path, t =>
    match t.find? key with
    | none => do
      let child ← update? making change path ⟨making, []⟩
      return t.set key child.toValue
    | some (.table kind entries) => do
      guard (kind ≠ .braces && !(making = .dotted && kind = .header))
      let child ← update? making change path ⟨kind, entries⟩
      return t.set key child.toValue
    | some (.array .ofTables items) =>
      match items.getLast? with
      | some (.table kind entries) => do
        let child ← update? making change path ⟨kind, entries⟩
        return t.set key (.array .ofTables (items.dropLast ++ [child.toValue]))
      | _ => none
    | some _ => none

/-- Adds a value under a dotted key. The table that takes the value must itself have been made by a
dotted key, unless it is the one that the path starts from. -/
def addDotted? (t : Table) (path : List String) (key : String) (v : Value) : Option Table :=
  update? .dotted
    (fun inner => do
      guard (path.isEmpty || inner.kind = .dotted)
      inner.add? key v)
    path t

/-- Opens a table by its header, which may be one that only longer headers have named so far. -/
def openTable? (t : Table) (path : List String) (key : String) : Option Table :=
  update? .supertable
    (fun parent =>
      match parent.find? key with
      | none => some (parent.set key (.table .header []))
      | some (.table .supertable entries) => some (parent.set key (.table .header entries))
      | some _ => none)
    path t

/-- Adds a table to an array of tables, which its first header makes. -/
def openElement? (t : Table) (path : List String) (key : String) : Option Table :=
  update? .supertable
    (fun parent =>
      match parent.find? key with
      | none => some (parent.set key (.array .ofTables [.table .header []]))
      | some (.array .ofTables items) =>
        some (parent.set key (.array .ofTables (items ++ [.table .header []])))
      | some _ => none)
    path t

end Table

end AccessorGen.Toml
