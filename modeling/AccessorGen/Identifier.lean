import AccessorGen.Unicode

/-! Java identifiers and reserved words. -/

namespace AccessorGen.Identifier

def isStart (c : Char) : Bool :=
  Unicode.isAlphabetic c || c == '_' || c == '$'

def isPart (c : Char) : Bool :=
  Unicode.isAlphanumeric c || c == '_' || c == '$'

/-- The words of the language, with the three literals and the two words it keeps unused. -/
def reserved : List String := [
  "abstract", "assert", "boolean", "break", "byte", "case", "catch", "char", "class", "const",
  "continue", "default", "do", "double", "else", "enum", "extends", "false", "final", "finally",
  "float", "for", "goto", "if", "implements", "import", "instanceof", "int", "interface", "long",
  "native", "new", "null", "package", "private", "protected", "public", "return", "short", "static",
  "strictfp", "super", "switch", "synchronized", "this", "throw", "throws", "transient", "true",
  "try", "void", "volatile", "while"]

/-- Why a name cannot be the name of a method. -/
inductive Fault where
  | empty
  | leadingDigit
  | badStart
  | badPart
  | reserved
  deriving DecidableEq, Repr

def Fault.message : Fault → String
  | empty => "name is empty"
  | leadingDigit => "name starts with a digit"
  | badStart => "name starts with an invalid character"
  | badPart => "name contains an invalid character"
  | reserved => "name is a Java reserved word"

/-- The first fault of a name, if it has one. Digits of other scripts are merely bad starts. -/
def fault? (name : String) : Option Fault :=
  match name.toList with
  | [] => some .empty
  | c :: rest =>
    if c.isDigit then some .leadingDigit
    else if !isStart c then some .badStart
    else if !rest.all isPart then some .badPart
    else if name ∈ reserved then some .reserved
    else none

end AccessorGen.Identifier
