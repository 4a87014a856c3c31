import AccessorGen.Identifier
import AccessorGen.Text

/-! Names of declared types: a package and a simple name. -/

namespace AccessorGen

/-- A type's name. The package of a type in the default package is empty. -/
structure QualifiedName where
  package : String
  simpleName : String
  deriving DecidableEq, Repr

namespace QualifiedName

protected def toString (n : QualifiedName) : String :=
  if n.package.isEmpty then n.simpleName else n.package ++ "." ++ n.simpleName

instance : ToString QualifiedName := ⟨QualifiedName.toString⟩

/-- Names are ordered by package, and within one by simple name. -/
instance : Ord QualifiedName where
  compare m n := (compare m.package n.package).then (compare m.simpleName n.simpleName)

inductive ParseError where
  | empty
  | emptySegment (name : String)
  | invalidSegment (name segment : String)
  deriving DecidableEq, Repr

def ParseError.message : ParseError → String
  | empty => "qualified name is empty"
  | emptySegment name => s!"'{name}' has an empty segment"
  | invalidSegment name segment => s!"'{segment}' in '{name}' is not a valid identifier"

/-- A segment is an identifier; reserved words are not told apart here. -/
def isSegment : List Char → Bool
  | [] => false
  | c :: rest => Identifier.isStart c && rest.all Identifier.isPart

def segmentFault? (name : String) (segment : List Char) : Option ParseError :=
  if segment.isEmpty then some (.emptySegment name)
  else if isSegment segment then none
  else some (.invalidSegment name (String.ofList segment))

/-- The last segment is the simple name, and those before it are the package. -/
def ofSegments (segments : List (List Char)) : QualifiedName where
  package := String.ofList (['.'].intercalate segments.dropLast)
  simpleName := String.ofList (segments.getLastD [])

/-- Reads a dotted name. Of several bad segments the leftmost is reported. -/
def parse (name : String) : Except ParseError QualifiedName :=
  if name.isEmpty then .error .empty
  else
    let segments := Text.segments '.' name.toList
    match segments.findSome? (segmentFault? name) with
    | some fault => .error fault
    | none => .ok (ofSegments segments)

end QualifiedName

end AccessorGen
