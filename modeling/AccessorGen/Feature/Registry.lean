import AccessorGen.Feature

/-! The values of the features of one run, in the order in which they were registered. -/

namespace AccessorGen

/-- Where values come from. -/
inductive FeatureSource where
  | environment (env : Environment)
  | testDefaults

/-- A registered feature and the value it was given. -/
structure FeatureEntry (ε : Type) {σ : Type} [FeatureFamily ε σ] where
  feature : Feature ε
  value : feature.Value

structure Registry (ε : Type) {σ : Type} [FeatureFamily ε σ] where
  source : FeatureSource
  entries : List (FeatureEntry ε)

/-- A feature was asked for that nobody registered. -/
structure Unregistered where
  name : String
  deriving DecidableEq, Repr

def Unregistered.message (e : Unregistered) : String :=
  s!"feature '{e.name}' was not registered before generation started"

def FeatureSource.originName : FeatureSource → String
  | environment _ => "Environment"
  | testDefaults => "TestDefaults"

def FeatureEntry.display {ε σ : Type} [FeatureFamily ε σ] (e : FeatureEntry ε) : String :=
  e.feature.display e.value

namespace Registry

variable {ε σ : Type} [FeatureFamily ε σ]

def empty (source : FeatureSource) : Registry ε := ⟨source, []⟩

def toList (r : Registry ε) : List (String × String) :=
  r.entries.map fun e => (e.feature.name, e.display)

/-- The value that a source has for a feature. -/
def valueFrom (source : FeatureSource) (f : Feature ε) : StateM σ f.Value :=
  match source with
  | .environment env => f.resolve env
  | .testDefaults => pure f.testDefault

/-- A list of registered features with its source, as text for people to read. -/
def describe (r : Registry ε) : String :=
  let entries := r.toList.map fun (name, value) => s!"(\"{name}\", \"{value}\")"
  s!"FeatureRegistry \x7b origin: {r.source.originName}, features: [" ++ ", ".intercalate entries ++
    "] \x7d"

variable [DecidableEq ε]

def lookup (f : Feature ε) : List (FeatureEntry ε) → Option f.Value
  | [] => none
  | e :: es => if h : e.feature = f then some (h ▸ e.value) else lookup f es

def get? (r : Registry ε) (f : Feature ε) : Option f.Value :=
  lookup f r.entries

def get (r : Registry ε) (f : Feature ε) : Except Unregistered f.Value :=
  match r.get? f with
  | some v => .ok v
  | none => .error ⟨f.name⟩

/-- Gives a feature its value, unless it has one already. -/
def register (r : Registry ε) (f : Feature ε) : StateM σ (Registry ε) :=
  if r.entries.any (·.feature = f) then pure r
  else do
    let v ← valueFrom r.source f
    return { r with entries := r.entries ++ [⟨f, v⟩] }

def registerAll (r : Registry ε) (fs : List (Feature ε)) : StateM σ (Registry ε) :=
  fs.foldlM register r

end Registry

/-- The registry of a run: the source level, from the given version if there is one. -/
def Registry.standard (version : Option SourceVersion) : Registry Empty :=
  let source := match version with
    | some v => .environment ⟨v⟩
    | none => .testDefaults
  (((Registry.empty source).register .sourceLevel).run ()).1

end AccessorGen
