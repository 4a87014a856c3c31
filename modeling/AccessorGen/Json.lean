/-! JSON values built of strings, and their text. -/

namespace AccessorGen

inductive Json where
  | string (s : String)
  | array (items : List Json)
  | object (members : List (String × Json))

namespace Json

/-- A digit of a number below sixteen. -/
def hexDigit (n : Nat) : Char :=
  if n < 10 then Char.ofNat ('0'.toNat + n) else Char.ofNat ('a'.toNat + (n - 10))

/-- How a character is written inside a string. All but quotes, backslashes and control characters
are written as they are. -/
def escape (c : Char) : List Char :=
  match c with
  | '"' => ['\\', '"']
  | '\\' => ['\\', '\\']
  | '\x08' => ['\\', 'b']
  | '\x0c' => ['\\', 'f']
  | '\n' => ['\\', 'n']
  | '\r' => ['\\', 'r']
  | '\t' => ['\\', 't']
  | _ =>
    if c.toNat < 32 then
      ['\\', 'u', '0', '0', hexDigit (c.toNat / 16), hexDigit (c.toNat % 16)]
    else [c]

def quote (s : String) : List Char :=
  '"' :: s.toList.flatMap escape ++ ['"']

/-- A new line indented by `depth` levels of two spaces. -/
def newline (depth : Nat) : List Char :=
  '\n' :: List.replicate (2 * depth) ' '

mutual

/-- The text with each item and member on a line of its own, for a value at `depth`. -/
def prettyChars (depth : Nat) : Json → List Char
  | string s => quote s
  | array [] => ['[', ']']
  | array (j :: js) => '[' :: prettyItems (depth + 1) (j :: js) ++ newline depth ++ [']']
  | object [] => ['\x7b', '\x7d']
  | object (m :: ms) => '\x7b' :: prettyMembers (depth + 1) (m :: ms) ++ newline depth ++ ['\x7d']

def prettyItems (depth : Nat) : List Json → List Char
  | [] => []
  | [j] => newline depth ++ prettyChars depth j
  | j :: js => newline depth ++ prettyChars depth j ++ ',' :: prettyItems depth js

def prettyMembers (depth : Nat) : List (String × Json) → List Char
  | [] => []
  | [(k, j)] => newline depth ++ quote k ++ ':' :: ' ' :: prettyChars depth j
  | (k, j) :: ms =>
    newline depth ++ quote k ++ ':' :: ' ' :: prettyChars depth j ++ ',' :: prettyMembers depth ms

end

def pretty (j : Json) : String := String.ofList (j.prettyChars 0)

end Json

end AccessorGen
