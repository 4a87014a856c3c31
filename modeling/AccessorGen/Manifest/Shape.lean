import AccessorGen.Manifest.Draft
import AccessorGen.Toml.Value

/-! The shape that a document must have to be a manifest. -/

namespace AccessorGen.Manifest

open Toml (Value)

inductive ShapeError where
  | unknownField (field : String) (expected : List String)
  | missingField (field : String)
  /-- A value of the wrong kind, or a list too short for its fields. -/
  | wrongKind
  deriving DecidableEq, Repr

/-- The names of fields as they are listed in a message. -/
def listFields (fields : List String) : String :=
  match fields.map fun field => s!"`{field}`" with
  | [a] => a
  | [a, b] => s!"{a} or {b}"
  | names => "one of " ++ ", ".intercalate names

/-- What a message tells about the fields. About kinds of values it tells nothing. -/
def ShapeError.detail? : ShapeError → Option String
  | unknownField field expected => some s!"unknown field `{field}`, expected {listFields expected}"
  | missingField field => some s!"missing field `{field}`"
  | wrongKind => none

/-- How a value can give the fields of a record. -/
inductive Fields where
  /-- By name, in the order of the names. -/
  | named (entries : List (String × Value))
  /-- By position. -/
  | listed (items : List Value)

/-- A date or time counts as a record with one field of a reserved name. -/
def fieldsOf : Value → Except ShapeError Fields
  | .table _ entries => .ok (.named (entries.mergeSort fun a b => decide (a.1 ≤ b.1)))
  | .array _ items => .ok (.listed items)
  | .scalar .dateTime => .ok (.named [("$__toml_private_datetime", .scalar .dateTime)])
  | _ => .error .wrongKind

def readString : Value → Except ShapeError (Spanned String)
  | .string text => .ok text
  | _ => .error .wrongKind

def readList {α : Type} (read : Value → Except ShapeError α) : Value → Except ShapeError (List α)
  | .array _ items => items.mapM read
  | _ => .error .wrongKind

/-- Looks at named fields in turn. The first that is unknown or has a wrong value decides. -/
def readNamed {φ : Type} (expected : List String)
    (read : φ → String → Value → Option (Except ShapeError φ)) (start : φ)
    (entries : List (String × Value)) : Except ShapeError φ :=
  entries.foldlM (fun found (field, v) =>
    (read found field v).getD (.error (.unknownField field expected))) start

/-- A field that a record given by name has to have. -/
def required {α : Type} (field : String) : Option α → Except ShapeError α
  | some a => .ok a
  | none => .error (.missingField field)

/-- The first of the fields given by position. -/
def readFirst {α : Type} (read : Value → Except ShapeError α) :
    List Value → Except ShapeError (α × List Value)
  | [] => .error .wrongKind
  | v :: rest => do return (← read v, rest)

/-- Like `readFirst`, where the list may have come to its end. -/
def readFirstOr {α : Type} (absent : α) (read : Value → Except ShapeError α) :
    List Value → Except ShapeError (α × List Value)
  | [] => .ok (absent, [])
  | v :: rest => do return (← read v, rest)

/-- The fields of an accessor that have been found by name. -/
structure AccessorFields where
  name : Option (Spanned String) := none
  returnType : Option (Spanned String) := none
  annotations : List (Spanned String) := []

def AccessorFields.read (found : AccessorFields) (field : String) (v : Value) :
    Option (Except ShapeError AccessorFields) :=
  match field with
  | "name" => some do return { found with name := ← readString v }
  | "type" => some do return { found with returnType := ← readString v }
  | "annotations" => some do return { found with annotations := ← readList readString v }
  | _ => none

def readAccessor (v : Value) : Except ShapeError AccessorDraft := do
  match ← fieldsOf v with
  | .named entries =>
    let found ← readNamed ["name", "type", "annotations"] AccessorFields.read {} entries
    return {
      name := ← required "name" found.name
      returnType := ← required "type" found.returnType
      annotations := found.annotations }
  | .listed items =>
    let (name, items) ← readFirst readString items
    let (returnType, items) ← readFirst readString items
    let (annotations, _) ← readFirstOr [] (readList readString) items
    return { name, returnType, annotations }

/-- The fields of a type that have been found by name. -/
structure TypeFields where
  name : Option (Spanned String) := none
  annotations : List (Spanned String) := []
  accessors : List AccessorDraft := []

def TypeFields.read (found : TypeFields) (field : String) (v : Value) :
    Option (Except ShapeError TypeFields) :=
  match field with
  | "name" => some do return { found with name := ← readString v }
  | "annotations" => some do return { found with annotations := ← readList readString v }
  | "accessors" => some do return { found with accessors := ← readList readAccessor v }
  | _ => none

def readType (v : Value) : Except ShapeError TypeDraft := do
  match ← fieldsOf v with
  | .named entries =>
    let found ← readNamed ["name", "annotations", "accessors"] TypeFields.read {} entries
    return {
      name := ← required "name" found.name
      annotations := found.annotations
      accessors := found.accessors }
  | .listed items =>
    let (name, items) ← readFirst readString items
    let (annotations, items) ← readFirstOr [] (readList readString) items
    let (accessors, _) ← readFirstOr [] (readList readAccessor) items
    return { name, annotations, accessors }

/-- The source version of an environment. -/
def readEnvironment (v : Value) : Except ShapeError (Spanned String) := do
  match ← fieldsOf v with
  | .named entries =>
    let found ← readNamed ["source"]
      (fun _ field v => if field = "source" then some ((readString v).map some) else none)
      none entries
    required "source" found
  | .listed items => return (← readFirst readString items).1

def Draft.readField (found : Draft) (field : String) (v : Value) :
    Option (Except ShapeError Draft) :=
  match field with
  | "environment" => some do return { found with source := some (← readEnvironment v) }
  | "types" => some do return { found with types := ← readList readType v }
  | _ => none

/-- The manifest that a document holds. -/
def Draft.ofTable (document : Toml.Table) : Except ShapeError Draft := do
  match ← fieldsOf document.toValue with
  | .named entries => readNamed ["environment", "types"] Draft.readField {} entries
  | .listed _ => throw .wrongKind

end AccessorGen.Manifest
