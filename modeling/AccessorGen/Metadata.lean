import AccessorGen.AnnotationLine
import AccessorGen.Json

/-! What is known about a value type when its members are generated. -/

namespace AccessorGen

/-- A property, the accessor it is read by, and the annotations of the generated override. -/
structure Property where
  name : String
  getterName : String
  typeName : String
  accessorAnnotations : List AnnotationLine := []
  deriving DecidableEq, Repr

structure Metadata where
  typeName : QualifiedName
  properties : List Property
  deriving DecidableEq, Repr

namespace Property

/-- Adds an annotation behind those that are there. -/
def annotate (p : Property) (a : AnnotationLine) : Property :=
  { p with accessorAnnotations := p.accessorAnnotations ++ [a] }

def toJson (p : Property) : Json :=
  .object [
    ("name", .string p.name),
    ("getter_name", .string p.getterName),
    ("type_name", .string p.typeName),
    ("accessor_annotations", .array (p.accessorAnnotations.map (.string ∘ toString)))]

end Property

def Metadata.toJson (m : Metadata) : Json :=
  .object [
    ("type_name", .string (toString m.typeName)),
    ("properties", .array (m.properties.map Property.toJson))]

end AccessorGen
