import AccessorGen.Text

/-! How the name of a property comes from the name of its accessor. -/

namespace AccessorGen.PropertyName

def startsUppercase (s : List Char) : Bool :=
  s.head?.any Unicode.isUppercase

/-- The text behind its first character, from the byte on where that character ends. -/
def behindFirst? (s : List Char) : Option (List Char) :=
  s.head?.bind fun c => (Text.splitAtByte? c.utf8Size s).map Prod.snd

/-- Puts the first character in lower case, unless the first two are both capitals. -/
def decapitalizeChars : List Char → List Char
  | [] => []
  | c :: rest =>
    if Unicode.isUppercase c && startsUppercase rest then c :: rest
    else Unicode.lowercase c ++ (behindFirst? (c :: rest)).getD []

def decapitalize (name : String) : String :=
  String.ofList (decapitalizeChars name.toList)

/-- What follows the verb of an accessor's name. The verb `is` counts only where the accessor
answers a boolean. -/
def afterVerb? (boolean : Bool) : List Char → Option (List Char)
  | 'g' :: 'e' :: 't' :: rest => some rest
  | 'i' :: 's' :: rest => if boolean then some rest else none
  | _ => none

/-- The part of an accessor's name after its verb, if that part starts with a capital. -/
def stem? (name : String) (boolean : Bool) : Option String :=
  ((afterVerb? boolean name.toList).filter startsUppercase).map String.ofList

end AccessorGen.PropertyName
