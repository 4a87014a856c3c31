import AccessorGen.Metadata.Derivation
import AccessorGen.Proofs.PropertyNames

/-! The properties of a type, one accessor at a time. -/
namespace AccessorGen

theorem JsonBinding.annotate_eq (p : Property) (annotations : List AnnotationUse) :
    (annotate p annotations).2 = { p with
      accessorAnnotations :=
        p.accessorAnnotations ++ (decideFor p.name annotations).2.toList } := by
  rw [annotate]
  cases hdue : decideFor p.name annotations with
  | mk outcome due =>
    cases due with
    | none => simp
    | some line => rfl

namespace Accessor

variable (active : Bool) (a : Accessor) (name : String)

/-- The annotation of an accessor's property, if there is one. -/
def due : Option AnnotationLine :=
  if active then (JsonBinding.decideFor name a.annotations).2 else none

variable {active a name} in
theorem decideFor_of_due {e : AnnotationLine} (h : a.due active name = some e) :
    (JsonBinding.decideFor name a.annotations).2 = some e := by
  rw [due] at h
  split at h
  · exact h
  · cases h

theorem property_eq : a.property active name =
    ⟨name, a.name, a.returnType, (a.due active name).toList⟩ := by
  cases active with
  | false => rfl
  | true => simp [property, due, JsonBinding.annotate_eq]

@[simp] theorem property_name : (a.property active name).name = name := by
  rw [property_eq]

@[simp] theorem property_getterName : (a.property active name).getterName = a.name := by
  rw [property_eq]

@[simp] theorem property_typeName : (a.property active name).typeName = a.returnType := by
  rw [property_eq]

@[simp] theorem property_accessorAnnotations :
    (a.property active name).accessorAnnotations = (a.due active name).toList := by
  rw [property_eq]

end Accessor

theorem ValueType.properties_eq_map (t : ValueType) : t.metadata.properties =
    t.accessors.map fun a => a.property (JsonBinding.isActive t) (t.propertyName a) := by
  rw [metadata, propertyNames_eq_map, List.zipWith_map_right, List.zipWith_self]

theorem ValueType.mem_properties_iff {t : ValueType} {p : Property} :
    p ∈ t.metadata.properties ↔
      ∃ a ∈ t.accessors, p = a.property (JsonBinding.isActive t) (t.propertyName a) := by
  simp [properties_eq_map, eq_comm]

end AccessorGen
