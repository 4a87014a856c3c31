import AccessorGen.AnnotationUse
import AccessorGen.PropertyName

/-! The declarations that members are generated for: value types and their accessors. -/

namespace AccessorGen

/-- An abstract method without parameters, such as `int getAge()`. -/
structure Accessor where
  name : String
  returnType : String
  annotations : List AnnotationUse
  deriving DecidableEq, Repr

structure ValueType where
  name : QualifiedName
  annotations : List AnnotationUse
  accessors : List Accessor
  deriving DecidableEq, Repr

namespace Accessor

def isBoolean (a : Accessor) : Bool :=
  a.returnType == "boolean"

def stem? (a : Accessor) : Option String :=
  PropertyName.stem? a.name a.isBoolean

end Accessor

/-- The name of each accessor's property. The verbs are dropped only if every accessor has one. -/
def ValueType.propertyNames (t : ValueType) : List String :=
  match t.accessors.mapM Accessor.stem? with
  | some stems => stems.map PropertyName.decapitalize
  | none => t.accessors.map Accessor.name

end AccessorGen
