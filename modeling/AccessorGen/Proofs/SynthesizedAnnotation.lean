import AccessorGen.AnnotationLine
import AccessorGen.Proofs.AnnotationParsing

/-! New annotations are read back as they were written, whatever name they give a property. -/
namespace AccessorGen.AnnotationLine

open AnnotationUse (LiteralTail Item Group parse)

variable {c : Char} {s : List Char}

/-- An escaped character never ends the literal it stands in. -/
theorem literalTail_escape (hs : LiteralTail '"' s) :
    LiteralTail '"' (StringLiteral.escape c ++ s) := by
  unfold StringLiteral.escape
  split
  · exact .escape _ hs
  · exact .escape _ hs
  · exact .escape _ hs
  · exact .escape _ hs
  · exact .escape _ hs
  · next hquote hslash _ _ _ => exact .plain hslash hquote hs

theorem literalTail_encode (s : List Char) :
    LiteralTail '"' (s.flatMap StringLiteral.escape ++ ['"']) := by
  induction s with
  | nil => exact .close
  | cons c s ih =>
    rw [List.flatMap_cons, List.append_assoc]
    exact literalTail_escape ih

theorem item_encode (s : List Char) : Item (StringLiteral.encode s) :=
  .literal (Or.inl rfl) (literalTail_encode s)

theorem group_encode (s : List Char) : Group ('(' :: StringLiteral.encode s ++ [')']) := by
  refine ⟨[StringLiteral.encode s], ?_, by simp⟩
  intro i hi
  rw [List.mem_singleton.mp hi]
  exact item_encode s

theorem toString_jsonProperty (name : String) :
    toString (jsonProperty name) = String.ofList ('@' :: ((toString jsonPropertyType).toList ++
      ('(' :: StringLiteral.encode name.toList ++ [')']))) := by
  apply String.toList_injective
  change (AnnotationLine.toString _).toList = _
  simp [AnnotationLine.toString, toString]

/-- The scan of arguments and the escapes of literals are written apart and agree: no name closes
its literal or its parenthesis too early. -/
theorem parse_jsonProperty (name : String) :
    parse (toString (jsonProperty name)) =
      .ok ⟨jsonPropertyType, toString (jsonProperty name)⟩ := by
  have hopen : '(' ∉ (toString jsonPropertyType).toList := by decide
  have htype : QualifiedName.parse
      (String.ofList (Text.trimEnd (toString jsonPropertyType).toList)) =
        .ok jsonPropertyType := by decide
  rw [toString_jsonProperty]
  exact AnnotationUse.parse_name_append_group hopen htype (by decide) (group_encode name.toList)

end AccessorGen.AnnotationLine
