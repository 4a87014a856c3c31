import AccessorGen.Text

/-! The values that are written without quotes: booleans, numbers, dates and times. -/

namespace AccessorGen.Toml

inductive ScalarKind where
  | boolean
  | integer
  | float
  | dateTime
  deriving DecidableEq, Repr

namespace Scalar

def isHexDigit (c : Char) : Bool :=
  c.isDigit || ('a' ≤ c && c ≤ 'f') || ('A' ≤ c && c ≤ 'F')

/-- Digits, with single underscores allowed between them. -/
def isDigits (p : Char → Bool) (s : List Char) : Bool :=
  (Text.segments '_' s).all fun group => !group.isEmpty && group.all p

def dropSign : List Char → List Char
  | '+' :: s => s
  | '-' :: s => s
  | s => s

/-- Whether each underscore stands between two digits. -/
def underscoresFit (isDigit : Char → Bool) (s : List Char) : Bool :=
  let groups := Text.segments '_' s
  (groups.zip groups.tail).all fun (before, after) =>
    before.getLast?.any isDigit && after.head?.any isDigit

/-- Whether a zero stands in front of another digit or an underscore. -/
def hasLeadingZero : List Char → Bool
  | '0' :: c :: _ => c.isDigit || c == '_'
  | _ => false

/-- An integer that names its radix by a letter. Its digits may be left out. -/
def isRadixInteger : List Char → Bool
  | '0' :: 'x' :: digits => digits.isEmpty || isDigits isHexDigit digits
  | '0' :: 'o' :: digits => digits.isEmpty || isDigits (fun c => '0' ≤ c && c ≤ '7') digits
  | '0' :: 'b' :: digits => digits.isEmpty || isDigits (fun c => c == '0' || c == '1') digits
  | _ => false

/-- A decimal integer. A text with an underscore after its first digits is one, whatever follows, if
its underscores fit among digits of any radix and no point, exponent or space comes after them. -/
def isDecimalInteger (s : List Char) : Bool :=
  let unsigned := dropSign s
  !hasLeadingZero unsigned &&
    match unsigned.span Char.isDigit with
    | (digits, []) => !digits.isEmpty
    | (_, '_' :: rest) =>
      !rest.any (fun c => c == '.' || c == 'e' || c == 'E' || c == ' ') &&
        underscoresFit isHexDigit s
    | _ => false

/-- What follows digits and underscores, of which at least one is a digit. -/
def afterDigits? (s : List Char) : Option (List Char) := do
  let (digits, s) := s.span fun c => c.isDigit || c == '_'
  guard (digits.any Char.isDigit)
  return s

/-- What follows a float without a sign. Its fraction and its exponent may be left out. -/
def afterFloat? (s : List Char) : Option (List Char) := do
  let s ← afterDigits? s
  let s ← match s with
    | '.' :: s => afterDigits? s
    | _ => pure s
  match s with
  | 'e' :: s => afterDigits? (dropSign s)
  | 'E' :: s => afterDigits? (dropSign s)
  | _ => return s

def isFloat (s : List Char) : Bool :=
  let unsigned := dropSign s
  unsigned = ['i', 'n', 'f'] || unsigned = ['n', 'a', 'n'] ||
    (!hasLeadingZero unsigned && underscoresFit Char.isDigit s && afterFloat? unsigned == some [])

/-- The value of the two digits that come first, and what follows them. -/
def twoDigits? : List Char → Option (Nat × List Char)
  | a :: b :: rest =>
    if a.isDigit && b.isDigit then
      some (10 * (a.toNat - '0'.toNat) + (b.toNat - '0'.toNat), rest)
    else none
  | _ => none

def isLeapYear (year : Nat) : Bool :=
  year % 4 == 0 && (year % 100 != 0 || year % 400 == 0)

def daysInMonth (year month : Nat) : Nat :=
  if month = 2 then (if isLeapYear year then 29 else 28)
  else if month ∈ [4, 6, 9, 11] then 30
  else 31

def dropChar? (c : Char) : List Char → Option (List Char)
  | [] => none
  | d :: rest => if d = c then some rest else none

/-- What follows a date that exists in the calendar. -/
def afterDate? (s : List Char) : Option (List Char) := do
  let (century, s) ← twoDigits? s
  let (year, s) ← twoDigits? s
  let s ← dropChar? '-' s
  let (month, s) ← twoDigits? s
  let s ← dropChar? '-' s
  let (day, s) ← twoDigits? s
  guard (1 ≤ month && month ≤ 12 && 1 ≤ day && day ≤ daysInMonth (100 * century + year) month)
  return s

/-- What follows an hour and a minute. -/
def afterHourMinute? (s : List Char) : Option (List Char) := do
  let (hour, s) ← twoDigits? s
  let s ← dropChar? ':' s
  let (minute, s) ← twoDigits? s
  guard (hour ≤ 23 && minute ≤ 59)
  return s

/-- What follows a time of day. Seconds may be left out, and a leap second counts. -/
def afterTime? (s : List Char) : Option (List Char) := do
  let s ← afterHourMinute? s
  match s with
  | ':' :: s => do
    let (second, s) ← twoDigits? s
    guard (second ≤ 60)
    match s with
    | '.' :: s => do
      let (fraction, s) := s.span Char.isDigit
      guard (!fraction.isEmpty)
      return s
    | _ => return s
  | _ => return s

/-- What follows the offset of a time zone, if the text starts with one. -/
def afterZone? : List Char → Option (List Char)
  | 'Z' :: s => some s
  | 'z' :: s => some s
  | '+' :: s => afterHourMinute? s
  | '-' :: s => afterHourMinute? s
  | s => some s

/-- A date, a time, or both with or without the offset of a time zone. -/
def isDateTime (s : List Char) : Bool :=
  match afterDate? s with
  | some [] => true
  | some (delimiter :: rest) =>
    (delimiter == 'T' || delimiter == 't' || delimiter == ' ') &&
      (afterTime? rest).bind afterZone? == some []
  | none => afterTime? s == some []

end Scalar

/-- What kind of value a text without quotes stands for, if it stands for one. -/
def ScalarKind.ofText? (s : List Char) : Option ScalarKind :=
  if s = "true".toList || s = "false".toList then some .boolean
  else if Scalar.isRadixInteger s || Scalar.isDecimalInteger s then some .integer
  else if Scalar.isFloat s then some .float
  else if Scalar.isDateTime s then some .dateTime
  else none

end AccessorGen.Toml
