import AccessorGen.AnnotationUse
import AccessorGen.Code.Writer
import AccessorGen.StringLiteral

/-! Annotations that have been decided on and are ready to be written. -/

namespace AccessorGen

/-- The annotation that names a property in JSON. -/
def jsonPropertyType : QualifiedName := ⟨"com.fasterxml.jackson.annotation", "JsonProperty"⟩

inductive AnnotationLine where
  /-- An annotation copied with its text. -/
  | copied (literal : String)
  /-- A new annotation that gives a property its name in JSON. -/
  | jsonProperty (propertyName : String)
  deriving DecidableEq, Repr

namespace AnnotationLine

def copyOf (a : AnnotationUse) : AnnotationLine := copied a.literal

protected def toString : AnnotationLine → String
  | copied literal => literal
  | jsonProperty propertyName =>
    s!"@{jsonPropertyType}(" ++ String.ofList (StringLiteral.encode propertyName.toList) ++ ")"

instance : ToString AnnotationLine := ⟨AnnotationLine.toString⟩

instance : Code.ToFragments AnnotationLine := ⟨fun a => [.line (toString a)]⟩

/-- Writes the annotation on a line of its own. -/
def addTo (a : AnnotationLine) (w : Code.Writer) : Code.Writer := w.line (toString a)

end AnnotationLine

end AccessorGen
