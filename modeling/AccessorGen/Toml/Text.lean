import AccessorGen.Toml.Trivia

/-! Strings in their four forms: basic or literal, on one line or on several. -/

namespace AccessorGen.Toml.Reader

/-- The value of a hexadecimal digit of either case. -/
def hexValue? (c : Char) : Option Nat :=
  if c.isDigit then some (c.toNat - '0'.toNat)
  else if 'a' ≤ c && c ≤ 'f' then some (c.toNat - 'a'.toNat + 10)
  else if 'A' ≤ c && c ≤ 'F' then some (c.toNat - 'A'.toNat + 10)
  else none

/-- Reads a number of hexadecimal digits, continuing from `acc`. -/
def hexNumber (acc : Nat) : Nat → Reader Nat
  | 0 => return acc
  | n + 1 => do
    let digit ← StateT.lift (hexValue? (← next))
    hexNumber (16 * acc + digit) n

/-- The character whose code point is written with `digits` digits. -/
def codePoint (digits : Nat) : Reader Char := do
  let n ← hexNumber 0 digits
  guard (decide n.isValidChar)
  return Char.ofNat n

/-- What an escape stands for, after its backslash. -/
def escaped : Reader Char := do
  match ← next with
  | 'b' => return '\x08'
  | 't' => return '\t'
  | 'n' => return '\n'
  | 'f' => return '\x0c'
  | 'r' => return '\r'
  | 'e' => return '\x1b'
  | '"' => return '"'
  | '\\' => return '\\'
  | 'x' => codePoint 2
  | 'u' => codePoint 4
  | 'U' => codePoint 8
  | _ => failure

/-- A character of a string on one line, or its closing quote. -/
def linePiece (quote : Char) : Reader (Option Char) := do
  let c ← next
  if c = quote then return none
  if quote = '"' && c = '\\' then return some (← escaped)
  guard (!isControl c)
  return some c

/-- A backslash at the end of a line joins it to the next text, passing over all blanks and line
ends between. -/
def skipJoin : Reader Unit := do
  skipBlanks
  guard (← newline?).isSome
  discard <| many do
    skipBlanks
    newline?

/-- A piece of a string on several lines, or its closing quotes. Of up to five quotes in a row the
last three close. -/
def linesPiece (quote : Char) : Reader (Option (List Char)) := do
  if let some ending ← newline? then return some ending
  let quotes := (← lookWhile (· = quote)).length
  if quotes = 3 then
    expect [quote, quote, quote]
    return none
  guard (quotes ≤ 5)
  let c ← next
  if quote = '"' && c = '\\' then
    match ← peek with
    | some d =>
      if isBlank d || d = '\n' || d = '\r' then
        skipJoin
        return some []
      else return some [← escaped]
    | none => failure
  guard (!isControl c)
  return some [c]

/-- A string on one line. -/
def lineText (quote : Char) : Reader String := do
  expect [quote]
  return String.ofList (← many (linePiece quote))

/-- A string on several lines. A line end right after the opening quotes does not count. -/
def linesText (quote : Char) : Reader String := do
  expect [quote, quote, quote]
  discard newline?
  return String.ofList (← many (linesPiece quote)).flatten

/-- A string in whichever form the given quote opens. -/
def text (quote : Char) : Reader String := do
  if 3 ≤ (← lookWhile (· = quote)).length then linesText quote else lineText quote

end AccessorGen.Toml.Reader
