import AccessorGen.Json
import AccessorGen.QualifiedName
import AccessorGen.SourceVersion

/-! Names and versions in JSON, where they stand as their text. -/

namespace AccessorGen

namespace Json

/-- Why a value cannot be read as what it should stand for. -/
inductive ReadError (ε : Type) where
  /-- Not a string. -/
  | wrongKind
  | refused (cause : ε)
  deriving DecidableEq, Repr

/-- Reads what stands as its text. -/
def readText {ε α : Type} (parse : String → Except ε α) : Json → Except (ReadError ε) α
  | string s => (parse s).mapError .refused
  | _ => .error .wrongKind

end Json

namespace QualifiedName

def toJson (n : QualifiedName) : Json := .string (toString n)

def ofJson : Json → Except (Json.ReadError ParseError) QualifiedName := Json.readText parse

end QualifiedName

namespace SourceVersion

def toJson (v : SourceVersion) : Json := .string (toString v)

def ofJson : Json → Except (Json.ReadError ParseError) SourceVersion := Json.readText parse

end SourceVersion

end AccessorGen
