import AccessorGen.Metadata
import AccessorGen.ValueType

/-! Which JSON annotation the override of an accessor carries. Types that are read from JSON through
a builder name each property, unless the user has said otherwise on its accessor. -/

namespace AccessorGen.JsonBinding

/-- A type that carries this annotation takes part. -/
def trigger : QualifiedName :=
  ⟨"com.fasterxml.jackson.databind.annotation", "JsonDeserialize"⟩

/-- An accessor that carries one of these keeps its property from being named. -/
def suppressing : List QualifiedName := [
  ⟨"com.fasterxml.jackson.annotation", "JsonAnyGetter"⟩,
  ⟨"com.fasterxml.jackson.annotation", "JsonIgnore"⟩,
  ⟨"com.fasterxml.jackson.annotation", "JsonUnwrapped"⟩,
  ⟨"com.fasterxml.jackson.annotation", "JsonValue"⟩]

def isActive (t : ValueType) : Bool :=
  (AnnotationUse.find? t.annotations trigger).isSome

inductive Outcome where
  /-- The user's own annotation was copied. -/
  | copied
  /-- Nothing was added. -/
  | suppressed
  /-- An annotation with the property's name was added. -/
  | synthesized
  deriving DecidableEq, Repr

def Outcome.name : Outcome → String
  | copied => "Copied"
  | suppressed => "Suppressed"
  | synthesized => "Synthesized"

/-- What an accessor with the given annotations is due. The user's own annotation goes before any
suppressing one. -/
def decideFor (propertyName : String) (annotations : List AnnotationUse) :
    Outcome × Option AnnotationLine :=
  match AnnotationUse.find? annotations jsonPropertyType with
  | some a => (.copied, some (.copyOf a))
  | none =>
    if annotations.any (·.type ∈ suppressing) then (.suppressed, none)
    else (.synthesized, some (.jsonProperty propertyName))

/-- Adds to a property what an accessor with the given annotations is due. -/
def annotate (p : Property) (annotations : List AnnotationUse) : Outcome × Property :=
  match decideFor p.name annotations with
  | (outcome, some e) => (outcome, p.annotate e)
  | (outcome, none) => (outcome, p)

end AccessorGen.JsonBinding
