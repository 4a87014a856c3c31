import AccessorGen.Feature.Registry
import AccessorGen.Metadata.Derivation

/-! What the steps of a run tell a log. No step reads it. -/

namespace AccessorGen.CommandLine

inductive Event where
  | parsedManifest (path : String) (types : Nat) (source : Option SourceVersion)
  | analyzing (type : QualifiedName) (binding : Bool) (accessors : Nat)
  | decided (property : String) (outcome : JsonBinding.Outcome)
  | resolvingFor (version : SourceVersion)
  | resolvingDefaults
  | resolved (feature value : String)
  deriving DecidableEq

namespace Event

def message : Event → String
  | parsedManifest .. => "parsed manifest"
  | analyzing .. => "analyzing value type"
  | decided .. => "jackson annotations"
  | resolvingFor _ => "resolving features against source version"
  | resolvingDefaults => "no source version configured, using test defaults"
  | resolved .. => "resolved feature"

/-- What an event tells besides its message. Texts stand in quotes, names and values of other kinds do not. -/
def fields : Event → List (String × String)
  | parsedManifest path types source =>
    let version := match source with
      | some v => s!"Some(SourceVersion \x7b release: {v} \x7d)"
      | none => "None"
    [("filename", s!"\"{path}\""), ("types", toString types), ("source", version)]
  | analyzing type binding accessors =>
    [("value_type", toString type), ("jackson", toString binding),
      ("accessors", toString accessors)]
  | decided property outcome => [("property", s!"\"{property}\""), ("outcome", outcome.name)]
  | resolvingFor version => [("version", toString version)]
  | resolvingDefaults => []
  | resolved feature value => [("feature", s!"\"{feature}\""), ("value", value)]

/-- An event as one line, without its time. -/
def line (e : Event) : String :=
  " ".intercalate (e.message :: e.fields.map fun (field, value) => s!"{field}={value}")

end Event

/-- What is told of a type while its metadata is derived. Only where it takes part in JSON binding
is anything decided for its accessors. -/
def analysisEvents (t : ValueType) : List Event :=
  let active := JsonBinding.isActive t
  let decision (a : Accessor) (name : String) : Event :=
    .decided name (JsonBinding.decideFor name a.annotations).1
  .analyzing t.name active t.accessors.length ::
    if active then t.accessors.zipWith decision t.propertyNames else []

/-- What is told while the features of a run are resolved. -/
def resolutionEvents (version : Option SourceVersion) : List Event :=
  let start : Event := match version with
    | some v => .resolvingFor v
    | none => .resolvingDefaults
  start :: (Registry.standard version).toList.map fun (feature, value) => .resolved feature value

end AccessorGen.CommandLine
