import AccessorGen.Manifest.Draft
import AccessorGen.Manifest.Fault
import AccessorGen.ValueType

/-! From the draft of a manifest to its declarations. The first fault met ends the check. -/

namespace AccessorGen

/-- A manifest in which every name is well formed and none is declared twice. -/
structure Manifest where
  sourceVersion : Option SourceVersion
  types : List ValueType
  deriving DecidableEq

namespace Manifest

/-- Ends a check with a fault, if there is one. -/
def refuse : Option Fault → Except Fault Unit
  | some fault => .error fault
  | none => .ok ()

/-- Where something was declared before, if it was. -/
def earlier? {α : Type} [DecidableEq α] (seen : List (α × Span)) (a : α) : Option Span :=
  (seen.find? (·.1 = a)).map Prod.snd

/-- The first item that repeats an earlier one, with the places of both. -/
def repeated? {α : Type} [DecidableEq α] (seen : List (α × Span)) :
    List (α × Span) → Option (α × Span × Span)
  | [] => none
  | (a, span) :: rest =>
    match earlier? seen a with
    | some first => some (a, first, span)
    | none => repeated? ((a, span) :: seen) rest

def checkAnnotationUse (text : Spanned String) : Except Fault AnnotationUse :=
  (AnnotationUse.parse text.value).mapError (.annotationUse text.span)

def isBlank (s : String) : Bool :=
  s.toList.all Unicode.isBlank

/-- Checks an accessor of a type against those `seen` before it. -/
def checkAccessor (type : QualifiedName) (seen : List (String × Span)) (d : AccessorDraft) :
    Except Fault Accessor := do
  refuse <| (Identifier.fault? d.name.value).map (.accessorName d.name)
  refuse <| (earlier? seen d.name.value).map (.duplicateAccessor type d.name.value · d.name.span)
  refuse <| if isBlank d.returnType.value then some (.blankReturnType d.returnType.span) else none
  let annotations ← d.annotations.mapM checkAnnotationUse
  return ⟨d.name.value, d.returnType.value, annotations⟩

def checkAccessors (type : QualifiedName) (seen : List (String × Span)) :
    List AccessorDraft → Except Fault (List Accessor)
  | [] => return []
  | d :: ds => do
    let a ← checkAccessor type seen d
    let as ← checkAccessors type ((d.name.value, d.name.span) :: seen) ds
    return a :: as

/-- No two accessors may have the same property. The places are those of the accessors. -/
def checkProperties (t : ValueType) (places : List Span) : Except Fault Unit :=
  refuse <| (repeated? [] (t.propertyNames.zip places)).map fun (property, first, second) =>
    .duplicateProperty t.name property first second

/-- Checks a type's name against those `seen` before it. -/
def checkTypeName (seen : List (QualifiedName × Span)) (name : Spanned String) :
    Except Fault QualifiedName := do
  let parsed ← (QualifiedName.parse name.value).mapError (.typeName name)
  refuse <| (earlier? seen parsed).map (.duplicateType parsed · name.span)
  return parsed

def checkType (seen : List (QualifiedName × Span)) (d : TypeDraft) : Except Fault ValueType := do
  let name ← checkTypeName seen d.name
  let annotations ← d.annotations.mapM checkAnnotationUse
  let accessors ← checkAccessors name [] d.accessors
  let t : ValueType := ⟨name, annotations, accessors⟩
  checkProperties t (d.accessors.map (·.name.span))
  return t

def checkTypes (seen : List (QualifiedName × Span)) :
    List TypeDraft → Except Fault (List ValueType)
  | [] => return []
  | d :: ds => do
    let t ← checkType seen d
    let ts ← checkTypes ((t.name, d.name.span) :: seen) ds
    return t :: ts

def checkSource (text : Spanned String) : Except Fault SourceVersion :=
  (SourceVersion.parse text.value).mapError (.sourceVersion text.span)

/-- Checks a whole manifest: its source version, and then one type after the other. -/
def ofDraft (d : Draft) : Except Fault Manifest := do
  let sourceVersion ← d.source.mapM checkSource
  let types ← checkTypes [] d.types
  return ⟨sourceVersion, types⟩

/-- The first type with the given name, qualified or simple. -/
def find? (m : Manifest) (name : String) : Option ValueType :=
  m.types.find? fun t => toString t.name == name || t.name.simpleName == name

end Manifest

end AccessorGen
