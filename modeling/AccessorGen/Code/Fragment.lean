/-! Source text before it is laid out. -/

namespace AccessorGen.Code

inductive Fragment where
  | line (text : String)
  | blank
  /-- A header, a body one level deeper, and a closing line if the block has one. -/
  | block (header : String) (body : List Fragment) (close : Option String)
  | sequence (parts : List Fragment)
  | javadoc (text : String)

/-- What can be written as fragments. -/
class ToFragments (α : Type) where
  toFragments : α → List Fragment

export ToFragments (toFragments)

instance : ToFragments (List Fragment) := ⟨id⟩

end AccessorGen.Code
