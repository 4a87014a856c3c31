import AccessorGen.Span
import AccessorGen.Text

/-! Reading a text from left to right. -/

namespace AccessorGen.Toml

/-- What is left of a text, and how many bytes came before it. -/
structure Cursor where
  rest : List Char
  offset : Nat := 0

/-- A step of reading. It fails, or answers and moves on. -/
abbrev Reader := StateT Cursor Option

namespace Reader

def peek : Reader (Option Char) := fun c => some (c.rest.head?, c)

def next : Reader Char := fun c =>
  match c.rest with
  | [] => none
  | ch :: rest => some (ch, ⟨rest, c.offset + ch.utf8Size⟩)

/-- Whether the given characters come next; they are passed over if they do. -/
def accept : List Char → Reader Bool
  | [] => pure true
  | ch :: chs => fun c =>
    match c.rest with
    | [] => some (false, c)
    | first :: rest =>
      if first = ch then
        match accept chs ⟨rest, c.offset + ch.utf8Size⟩ with
        | some (true, c') => some (true, c')
        | _ => some (false, c)
      else some (false, c)

def expect (chs : List Char) : Reader Unit := do
  guard (← accept chs)

def takeWhile (p : Char → Bool) : Reader (List Char) := fun c =>
  let taken := c.rest.takeWhile p
  some (taken, ⟨c.rest.dropWhile p, c.offset + Text.byteLength taken⟩)

/-- The characters that come next as far as they satisfy `p`, without passing over them. -/
def lookWhile (p : Char → Bool) : Reader (List Char) := fun c => some (c.rest.takeWhile p, c)

def atEnd : Reader Bool := return (← peek).isNone

/-- What `r` answers, and the stretch that it passed over. -/
def spanned {α : Type} (r : Reader α) : Reader (Spanned α) := do
  let start := (← get).offset
  let value ← r
  return ⟨value, start, (← get).offset - start⟩

/-- Repeats a step that answers `none` at the end, once at most for each character of `bound` and
once more. -/
def repeatAlong {α : Type} (step : Reader (Option α)) : List Char → Reader (List α)
  | [] => do
    guard (← step).isNone
    return []
  | _ :: bound => do
    match ← step with
    | none => return []
    | some a => return a :: (← repeatAlong step bound)

/-- Repeats a step that answers `none` at the end and before that passes over something each
time. -/
def many {α : Type} (step : Reader (Option α)) : Reader (List α) := do
  repeatAlong step (← get).rest

end Reader

end AccessorGen.Toml
