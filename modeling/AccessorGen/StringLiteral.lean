/-! String literals of Java source. -/

namespace AccessorGen.StringLiteral

/-- How a character is written inside a literal. -/
def escape : Char → List Char
  | '"' => ['\\', '"']
  | '\\' => ['\\', '\\']
  | '\n' => ['\\', 'n']
  | '\r' => ['\\', 'r']
  | '\t' => ['\\', 't']
  | c => [c]

def encode (s : List Char) : List Char :=
  '"' :: s.flatMap escape ++ ['"']

end AccessorGen.StringLiteral
