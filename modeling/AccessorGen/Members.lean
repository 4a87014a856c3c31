import AccessorGen.Feature.Registry
import AccessorGen.Metadata

/-! The members generated for a value type: an override of each accessor, and a hash code of all
properties. -/

namespace AccessorGen

open Code

/-- The override of an accessor, under its annotations. -/
def Property.override (p : Property) : Fragment :=
  .sequence [
    .line "@Override",
    .sequence (p.accessorAnnotations.flatMap toFragments),
    .block s!"public {p.typeName} {p.getterName}() \x7b" [.line s!"return {p.name};"]
      (some "\x7d")]

namespace Metadata

variable (m : Metadata)

def hashArguments : String :=
  ", ".intercalate (m.properties.map Property.name)

/-- Where there is no class with helpers for objects, arrays are hashed. -/
def hashStatement (l : SourceLevel) : String :=
  match l.objectsClass? with
  | some objects => s!"return {objects}.hash({m.hashArguments});"
  | none => s!"return java.util.Arrays.hashCode(new Object[] \x7b{m.hashArguments}\x7d);"

def hashCode (l : SourceLevel) : Fragment :=
  .sequence [
    .line "@Override",
    .block "public int hashCode() \x7b" [.line (m.hashStatement l)] (some "\x7d")]

def fragments (l : SourceLevel) : List Fragment :=
  .javadoc s!"Accessors of \x7b@link {m.typeName}\x7d." ::
    m.properties.flatMap (fun p => [.blank, p.override]) ++ [.blank, m.hashCode l]

variable {ε σ : Type} [FeatureFamily ε σ] [DecidableEq ε]

/-- The fragments at the source level of a registry. -/
def fragmentsFor (r : Registry ε) : Except Unregistered (List Fragment) :=
  (r.get .sourceLevel).map fun (l : SourceLevel) => m.fragments l

/-- The text of the members. -/
def render (r : Registry ε) : Except Unregistered String :=
  (m.fragmentsFor r).map fun fs => (({} : Writer).emit fs).text

end Metadata

end AccessorGen
