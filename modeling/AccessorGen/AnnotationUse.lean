import AccessorGen.AnnotationUse.Arguments
import AccessorGen.QualifiedName

/-! Annotations as they are written on declarations. -/

namespace AccessorGen

/-- An annotation's type and its text. The text is kept as it was written. -/
structure AnnotationUse where
  type : QualifiedName
  literal : String
  deriving DecidableEq, Repr

namespace AnnotationUse

instance : ToString AnnotationUse := ⟨AnnotationUse.literal⟩

/-- An annotation without arguments. -/
def marker (type : QualifiedName) : AnnotationUse := ⟨type, "@" ++ toString type⟩

inductive ParseError where
  | missingAt
  | invalidType (cause : QualifiedName.ParseError)
  | unqualified (simpleName : String)
  | unbalancedParens
  | trailingText (text : String)
  deriving DecidableEq, Repr

def ParseError.message : ParseError → String
  | missingAt => "annotation must start with '@'"
  | invalidType cause => "invalid annotation type: " ++ cause.message
  | unqualified simpleName => s!"annotation type '{simpleName}' must be fully qualified"
  | unbalancedParens => "unbalanced parentheses in annotation arguments"
  | trailingText text => s!"unexpected text after annotation arguments: '{text}'"

/-- The type's name and, from the first parenthesis on, the arguments. -/
def splitArguments (body : List Char) : List Char × Option (List Char) :=
  match (Text.offsetOf? '(' body).bind (Text.splitAtByte? · body) with
  | some (name, arguments) => (name, some arguments)
  | none => (body, none)

/-- The type of an annotation has to name its package. -/
def parseType (name : List Char) : Except ParseError QualifiedName :=
  match QualifiedName.parse (String.ofList (Text.trimEnd name)) with
  | .error cause => .error (.invalidType cause)
  | .ok type => if type.package.isEmpty then .error (.unqualified type.simpleName) else .ok type

/-- Nothing but blanks may follow the arguments. -/
def checkArguments (arguments : List Char) : Except ParseError Unit :=
  match afterClosing? arguments with
  | none => .error .unbalancedParens
  | some rest =>
    let trailing := Text.trim rest
    if trailing.isEmpty then .ok () else .error (.trailingText (String.ofList trailing))

/-- Reads an annotation from text that may have blanks around it. -/
def parse (text : String) : Except ParseError AnnotationUse :=
  match Text.trim text.toList with
  | '@' :: body => do
    let (name, arguments) := splitArguments body
    let type ← parseType name
    arguments.forM checkArguments
    return ⟨type, String.ofList ('@' :: body)⟩
  | _ => .error .missingAt

/-- The first annotation of the given type. -/
def find? (annotations : List AnnotationUse) (type : QualifiedName) : Option AnnotationUse :=
  annotations.find? (·.type = type)

end AnnotationUse

end AccessorGen
