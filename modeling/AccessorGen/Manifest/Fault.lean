import AccessorGen.AnnotationUse
import AccessorGen.SourceVersion
import AccessorGen.Span

/-! What can be wrong with a manifest that has the right shape. -/

namespace AccessorGen.Manifest

inductive Fault where
  | sourceVersion (span : Span) (cause : SourceVersion.ParseError)
  | typeName (name : Spanned String) (cause : QualifiedName.ParseError)
  | annotationUse (span : Span) (cause : AnnotationUse.ParseError)
  | accessorName (name : Spanned String) (cause : Identifier.Fault)
  | blankReturnType (span : Span)
  | duplicateType (name : QualifiedName) (first second : Span)
  | duplicateAccessor (type : QualifiedName) (name : String) (first second : Span)
  | duplicateProperty (type : QualifiedName) (property : String) (first second : Span)
  deriving DecidableEq, Repr

/-- A remark on a place in the manifest. -/
structure Label where
  text : String
  span : Span
  deriving DecidableEq, Repr

namespace Fault

def message : Fault → String
  | sourceVersion _ _ => "invalid source version"
  | typeName name _ => s!"invalid type name '{name.value}'"
  | annotationUse _ _ => "invalid annotation"
  | accessorName name _ => s!"invalid accessor name '{name.value}'"
  | blankReturnType _ => "accessor type must not be empty"
  | duplicateType name _ _ => s!"type '{name}' is declared more than once"
  | duplicateAccessor type name _ _ => s!"accessor '{name}' is declared more than once on '{type}'"
  | duplicateProperty type property _ _ =>
    s!"accessors on '{type}' both map to property '{property}'"

/-- A stable name for the kind of fault. -/
def code : Fault → String
  | sourceVersion .. => "buildr::invalid_source_version"
  | typeName .. => "buildr::invalid_type_name"
  | annotationUse .. => "buildr::invalid_annotation"
  | accessorName .. => "buildr::invalid_identifier"
  | blankReturnType _ => "buildr::validation_error"
  | duplicateType .. => "buildr::duplicate_type"
  | duplicateAccessor .. => "buildr::duplicate_accessor"
  | duplicateProperty .. => "buildr::duplicate_property"

/-- Advice on how to mend the manifest. -/
def help? : Fault → Option String
  | sourceVersion _ _ => some "use a javac -source value such as '1.6', '1.7' or '8'"
  | typeName _ cause =>
    some s!"{cause.message}. Write the fully qualified name, e.g. 'com.example.Person'"
  | annotationUse _ _ =>
    some "write annotations fully qualified, e.g. '@com.fasterxml.jackson.annotation.JsonIgnore'"
  | accessorName _ cause =>
    some s!"{cause.message}. Use only letters, digits, '_' and '$', not starting with a digit."
  | blankReturnType _ => none
  | duplicateType .. => none
  | duplicateAccessor .. => some "each accessor of a value type must have a distinct name"
  | duplicateProperty .. => some "rename one accessor so every property name is distinct"

def labels : Fault → List Label
  | sourceVersion span cause => [⟨cause.message, span⟩]
  | typeName name _ => [⟨"invalid type name", name.span⟩]
  | annotationUse span cause => [⟨cause.message, span⟩]
  | accessorName name _ => [⟨"invalid identifier", name.span⟩]
  | blankReturnType span => [⟨"accessor type must not be empty", span⟩]
  | duplicateType _ first second =>
    [⟨"first declared here", first⟩, ⟨"declared again here", second⟩]
  | duplicateAccessor _ _ first second =>
    [⟨"first declared here", first⟩, ⟨"declared again here", second⟩]
  | duplicateProperty _ property first second =>
    [⟨s!"property '{property}' derived here", first⟩, ⟨"and again here", second⟩]

end Fault

end AccessorGen.Manifest
