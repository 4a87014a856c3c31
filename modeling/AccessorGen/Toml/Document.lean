import AccessorGen.Toml.Text
import AccessorGen.Toml.Value

/-! Documents: keys, values, and the statements that build up one table. -/

namespace AccessorGen.Toml

/-- How deep arrays and tables in braces may be nested, and how long a dotted key may be. -/
def depthLimit : Nat := 80

/-- A dotted key, cut before its last part. -/
structure DottedKey where
  path : List String
  key : String

namespace Reader

def isBareKeyChar (c : Char) : Bool :=
  c.isAlphanum || c == '_' || c == '-'

/-- One part of a dotted key. -/
def simpleKey : Reader String := do
  match ← peek with
  | some '"' => quoted '"'
  | some '\'' => quoted '\''
  | _ =>
    let name ← takeWhile isBareKeyChar
    guard (!name.isEmpty)
    return String.ofList name
where
  /-- A string on several lines is no key. -/
  quoted (quote : Char) : Reader String := do
    guard ((← lookWhile (· = quote)).length < 3)
    lineText quote

def dottedKey : Reader DottedKey := do
  let first ← simpleKey
  let more ← many do
    skipBlanks
    if ← accept ['.'] then
      skipBlanks
      return some (← simpleKey)
    return none
  let parts := first :: more
  guard (parts.length ≤ depthLimit)
  return ⟨parts.dropLast, parts.getLastD first⟩

/-- A character of a value without quotes. All but those that part a document belong to it. -/
def isScalarChar (c : Char) : Bool :=
  !(isBlank c || c ∈ ['=', ',', '[', ']', '\x7b', '\x7d', '#', '\r', '\n'])

/-- Whether a value without quotes goes on after blanks if this character follows them. -/
def startsWord (c : Char) : Bool :=
  isScalarChar c && c ∉ ['.', '"', '\'']

/-- The next characters of a value without quotes, or the blanks before another word of it. -/
def scalarPiece : Reader (Option (List Char)) := do
  let word ← takeWhile isScalarChar
  if !word.isEmpty then return some word
  if ((← get).rest.dropWhile isBlank).head?.any startsWord then
    return some (← takeWhile isBlank)
  return none

/-- A value without quotes, up to the blanks that no word follows. -/
def scalar : Reader Value := do
  let text := (← many scalarPiece).flatten
  return .scalar (← StateT.lift (ScalarKind.ofText? text))

/-- The items of a bracketed list after its opening bracket. They may stand on several lines, and a
comma may follow the last. There are no more items than characters in `bound`. -/
def itemsAlong {α : Type} (close : Char) (item : Reader α) : List Char → Reader (List α)
  | [] => failure
  | _ :: bound => do
    skipLines
    if ← accept [close] then return []
    let a ← item
    skipLines
    if ← accept [','] then return a :: (← itemsAlong close item bound)
    expect [close]
    return [a]

def items {α : Type} (close : Char) (item : Reader α) : Reader (List α) := do
  itemsAlong close item (← get).rest

/-- A key, an equals sign and a value, with a gap on both sides of the sign. -/
def keyValue (gap : Reader Unit) (value : Reader Value) : Reader (DottedKey × Value) := do
  let key ← dottedKey
  gap
  expect ['=']
  gap
  return (key, ← value)

/-- A value whose parts are read by `inner`. Without it the value can have no parts. -/
def valueOver (inner : Option (Reader Value)) : Reader Value := do
  match ← peek, inner with
  | some '"', _ => return .string (← spanned (text '"'))
  | some '\'', _ => return .string (← spanned (text '\''))
  | some '[', some value =>
    expect ['[']
    return .array .closed (← items ']' value)
  | some '\x7b', some value =>
    expect ['\x7b']
    let entries ← items '\x7d' (keyValue skipLines value)
    let table ← StateT.lift <| entries.foldlM (fun t (key, v) => t.addDotted? key.path key.key v)
      (⟨.braces, []⟩ : Table)
    return table.toValue
  | _, _ => scalar

/-- A value that nests at most `depth` arrays and tables. -/
def value : Nat → Reader Value
  | 0 => valueOver none
  | depth + 1 => valueOver (some (value depth))

end Reader

inductive Statement where
  | keyValue (key : DottedKey) (value : Value)
  | table (key : DottedKey)
  | element (key : DottedKey)

namespace Reader

/-- A header with `width` brackets on each side. -/
def header (width : Nat) : Reader DottedKey := do
  expect (List.replicate width '[')
  skipBlanks
  let key ← dottedKey
  skipBlanks
  expect (List.replicate width ']')
  return key

def statement : Reader Statement := do
  match (← lookWhile (· = '[')).length with
  | 0 =>
    let (key, v) ← keyValue skipBlanks (value depthLimit)
    return .keyValue key v
  | 1 => return .table (← header 1)
  | _ => return .element (← header 2)

/-- All statements. Each has a line of its own, though its value may go on over several. -/
def statements : Reader (List Statement) := do
  discard (accept ['\ufeff'])
  many do
    skipLines
    if ← atEnd then return none
    let s ← statement
    endLine
    return some s

end Reader

/-- A document while it is read: what it holds so far, and where its key-value lines belong. -/
structure DocumentState where
  root : Table := ⟨.header, []⟩
  current : List String := []

/-- The document after one more statement. -/
def DocumentState.add? (d : DocumentState) : Statement → Option DocumentState
  | .keyValue key v => do
    let root ← d.root.update? .supertable (·.addDotted? key.path key.key v) d.current
    return { d with root }
  | .table key => do
    return { root := ← d.root.openTable? key.path key.key, current := key.path ++ [key.key] }
  | .element key => do
    return { root := ← d.root.openElement? key.path key.key, current := key.path ++ [key.key] }

/-- Reads a document, if the text is one. -/
def parse? (text : String) : Option Table := do
  let (statements, _) ← Reader.statements.run { rest := text.toList }
  let state ← statements.foldlM DocumentState.add? {}
  return state.root

end AccessorGen.Toml
