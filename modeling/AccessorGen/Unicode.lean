import AccessorGen.Unicode.Alphabetic
import AccessorGen.Unicode.Numeric
import AccessorGen.Unicode.Uppercase
import AccessorGen.Unicode.Lowercase

/-! Character classes of the Unicode standard. Core's own classes know ASCII only, and on ASCII
these agree with them. -/

namespace AccessorGen.Unicode

variable (c : Char)

def isAlphabetic : Bool :=
  if c.toNat < 128 then c.isAlpha else alphabeticRuns.any (·.contains c.toNat)

def isNumeric : Bool :=
  if c.toNat < 128 then c.isDigit else numericRuns.any (·.contains c.toNat)

def isAlphanumeric : Bool :=
  isAlphabetic c || isNumeric c

def isUppercase : Bool :=
  if c.toNat < 128 then c.isUpper else uppercaseRuns.any (·.contains c.toNat)

/-- The property `White_Space`. It also holds of the vertical tab, of the next-line control and of
the two separators, and not of the zero-width characters. -/
def isBlank : Bool :=
  let n := c.toNat
  (9 ≤ n && n ≤ 13) || n == 0x20 || n == 0x85 || n == 0xA0 || n == 0x1680 ||
    (0x2000 ≤ n && n ≤ 0x200A) || n == 0x2028 || n == 0x2029 || n == 0x202F || n == 0x205F ||
    n == 0x3000

/-- The full lower case of a character outside any context. The dotted capital I alone has one of
two characters. -/
def lowercase : List Char :=
  if c.toNat < 128 then [c.toLower]
  else if c == '\u0130' then ['i', '\u0307']
  else
    match lowercaseShifts.find? (·.run.contains c.toNat) with
    | some s => [Char.ofNat (s.apply c.toNat)]
    | none => [c]

end AccessorGen.Unicode
