import AccessorGen.QualifiedName
import AccessorGen.SourceVersion

/-! The levels of the Java language that generated source can make use of. -/

namespace AccessorGen

inductive SourceLevel where
  | java6
  | java7
  | java8
  deriving DecidableEq, Repr

/-- Something that source may use from some level on. -/
inductive Capability where
  | diamondOperator
  | objectsClass
  | lambdas
  deriving DecidableEq, Repr

namespace SourceLevel

def all : List SourceLevel := [java6, java7, java8]

def release : SourceLevel → Nat
  | java6 => 6
  | java7 => 7
  | java8 => 8

protected def toString (l : SourceLevel) : String := s!"Java {l.release}"

instance : ToString SourceLevel := ⟨SourceLevel.toString⟩

/-- The highest level that a version reaches. -/
def forVersion (v : SourceVersion) : SourceLevel :=
  if v.release ≤ 6 then java6 else if v.release = 7 then java7 else java8

end SourceLevel

namespace Capability

def all : List Capability := [diamondOperator, objectsClass, lambdas]

def name : Capability → String
  | diamondOperator => "diamond operator"
  | objectsClass => "java.util.Objects"
  | lambdas => "lambdas"

def introducedIn : Capability → SourceLevel
  | diamondOperator => .java7
  | objectsClass => .java7
  | lambdas => .java8

end Capability

namespace SourceLevel

variable (l : SourceLevel)

def supports (c : Capability) : Bool :=
  c.introducedIn.release ≤ l.release

/-- The class with the null-safe helpers for objects, where there is one. -/
def objectsClass? : Option QualifiedName :=
  if l.supports .objectsClass then some ⟨"java.util", "Objects"⟩ else none

end SourceLevel

end AccessorGen
