import AccessorGen.JsonBinding

/-! From the declaration of a value type to its metadata. -/

namespace AccessorGen

namespace Accessor

/-- The property read by an accessor, given its name and whether its type takes part in JSON
binding. -/
def property (active : Bool) (a : Accessor) (name : String) : Property :=
  let p : Property := { name, getterName := a.name, typeName := a.returnType }
  if active then (JsonBinding.annotate p a.annotations).2 else p

end Accessor

/-- One property for each accessor, in the order of declaration. -/
def ValueType.metadata (t : ValueType) : Metadata where
  typeName := t.name
  properties := t.accessors.zipWith (Accessor.property (JsonBinding.isActive t)) t.propertyNames

end AccessorGen
