import AccessorGen.Span

/-! Manifests as they are written, before any of their names is checked. -/

namespace AccessorGen.Manifest

structure AccessorDraft where
  name : Spanned String
  returnType : Spanned String
  annotations : List (Spanned String) := []
  deriving DecidableEq, Repr

structure TypeDraft where
  name : Spanned String
  annotations : List (Spanned String) := []
  accessors : List AccessorDraft := []
  deriving DecidableEq, Repr

structure Draft where
  source : Option (Spanned String) := none
  types : List TypeDraft := []
  deriving DecidableEq, Repr

end AccessorGen.Manifest
