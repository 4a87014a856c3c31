import AccessorGen.Text

/-! The arguments of an annotation: finding the parenthesis that closes the first one. -/

namespace AccessorGen.AnnotationUse

/-- Where in the arguments a scan stands: between literals, or inside one. -/
inductive ScanMode where
  | plain
  | literal (quote : Char)
  /-- The next character belongs to the literal whatever it is. -/
  | escaped (quote : Char)
  deriving DecidableEq, Repr

/-- The mode after one more character. -/
def ScanMode.next : ScanMode → Char → ScanMode
  | plain, c => if c = '"' ∨ c = '\'' then literal c else plain
  | literal quote, c =>
    if c = '\\' then escaped quote else if c = quote then plain else literal quote
  | escaped quote, _ => literal quote

/-- The number of open parentheses after one more character; none if there is nothing to close.
Inside a literal nothing opens or closes. -/
def depthAfter? (mode : ScanMode) (depth : Nat) (c : Char) : Option Nat :=
  if mode = .plain then
    if c = '(' then some (depth + 1)
    else if c = ')' then (if depth = 0 then none else some (depth - 1))
    else some depth
  else some depth

/-- The byte offset of the parenthesis that closes the last open one of `depth`, counted from
`offset`. -/
def closingFrom? (mode : ScanMode) (depth offset : Nat) : List Char → Option Nat
  | [] => none
  | c :: rest =>
    match depthAfter? mode depth c with
    | none => none
    | some depth' =>
      if mode = .plain ∧ c = ')' ∧ depth' = 0 then some offset
      else closingFrom? (mode.next c) depth' (offset + c.utf8Size) rest

/-- The byte offset of the parenthesis that closes the first one of the arguments. -/
def closing? (arguments : List Char) : Option Nat :=
  closingFrom? .plain 0 0 arguments

/-- What follows the closing parenthesis. -/
def afterClosing? (arguments : List Char) : Option (List Char) :=
  (closing? arguments).bind fun i => (Text.splitAtByte? (i + 1) arguments).map Prod.snd

end AccessorGen.AnnotationUse
