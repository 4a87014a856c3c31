import AccessorGen.Toml.Cursor

/-! What separates the parts of a document: blanks, comments and line ends. -/

namespace AccessorGen.Toml

/-- A control character that no comment and no line of a string may hold. -/
def isControl (c : Char) : Bool :=
  (c.toNat < 32 && c != '\t') || c.toNat == 127

def isBlank (c : Char) : Bool :=
  c == ' ' || c == '\t'

namespace Reader

def skipBlanks : Reader Unit := do
  discard (takeWhile isBlank)

/-- Passes over a line end if one comes next, and answers its characters. -/
def newline? : Reader (Option (List Char)) := do
  if ← accept ['\n'] then return some ['\n']
  if ← accept ['\r', '\n'] then return some ['\r', '\n']
  return none

/-- Passes over a comment if one comes next. -/
def skipComment : Reader Unit := do
  if (← peek) = some '#' then
    let text ← takeWhile fun c => c != '\n' && c != '\r'
    guard (!text.any isControl)

/-- Passes over blanks and a comment, up to the end of the line. -/
def skipToLineEnd : Reader Unit := do
  skipBlanks
  skipComment

/-- Passes over any number of blanks, comments and line ends. -/
def skipLines : Reader Unit := do
  discard <| many do
    skipToLineEnd
    newline?

/-- Ends a line, or the document. -/
def endLine : Reader Unit := do
  skipToLineEnd
  if (← newline?).isNone then guard (← atEnd)

end Reader

end AccessorGen.Toml
