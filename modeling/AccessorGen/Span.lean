/-! Places in a text. -/

namespace AccessorGen

/-- A stretch of a text, counted in bytes. -/
structure Span where
  offset : Nat
  length : Nat
  deriving DecidableEq, Repr

/-- A value and the place it was read from. -/
structure Spanned (α : Type) where
  value : α
  span : Span
  deriving DecidableEq, Repr

end AccessorGen
