import AccessorGen.SourceLevel

/-! Features of a run: facts about its target that are settled before anything is generated. -/

namespace AccessorGen

/-- What features are resolved against. -/
structure Environment where
  sourceVersion : SourceVersion := .minimum

/-- A family of features beyond the source level, each with a type of values of its own. Resolving
one may read and change a state of type `σ`. -/
class FeatureFamily (ε : Type) (σ : outParam Type) where
  Value : ε → Type
  name : ε → String
  resolve : (f : ε) → Environment → StateM σ (Value f)
  testDefault : (f : ε) → Value f
  display : (f : ε) → Value f → String

instance : FeatureFamily Empty Unit where
  Value := nofun
  name := nofun
  resolve := nofun
  testDefault := nofun
  display := nofun

inductive Feature (ε : Type) where
  | sourceLevel
  | other (f : ε)
  deriving DecidableEq

namespace Feature

variable {ε σ : Type} [FeatureFamily ε σ]

def Value : Feature ε → Type
  | sourceLevel => SourceLevel
  | other f => FeatureFamily.Value f

def name : Feature ε → String
  | sourceLevel => "source level"
  | other f => FeatureFamily.name f

def resolve : (f : Feature ε) → Environment → StateM σ f.Value
  | sourceLevel, env => pure (SourceLevel.forVersion env.sourceVersion)
  | other f, env => FeatureFamily.resolve f env

/-- The value without an environment; the lowest level is the one that any compiler accepts. -/
def testDefault : (f : Feature ε) → f.Value
  | sourceLevel => SourceLevel.java6
  | other f => FeatureFamily.testDefault f

def display : (f : Feature ε) → f.Value → String
  | sourceLevel, l => SourceLevel.toString l
  | other f, v => FeatureFamily.display f v

end Feature

end AccessorGen
