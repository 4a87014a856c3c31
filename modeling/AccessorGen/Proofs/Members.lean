import AccessorGen.Members
import AccessorGen.Proofs.Layout

/-! The members of a type, line by line. -/
namespace AccessorGen

open Code

namespace Property

variable (p : Property)

/-- The line that opens the override of an accessor. -/
def header : String :=
  s!"public {p.typeName} {p.getterName}() \x7b"

theorem header_eq :
    p.header = "public " ++ p.typeName ++ " " ++ p.getterName ++ "() \x7b" := rfl

def body : String := "  " ++ s!"return {p.name};"

theorem body_eq : p.body = "  return " ++ p.name ++ ";" := by
  have hbody : p.body = "  " ++ ("return " ++ p.name ++ ";") := rfl
  have hstart : "  " ++ "return " = "  return " := rfl
  rw [hbody, ← String.append_assoc, ← String.append_assoc, hstart]

def overrideLines : List String :=
  "@Override" :: p.accessorAnnotations.map toString ++ [p.header, p.body, "\x7d"]

theorem entriesOf_annotations (es : List AnnotationLine) :
    entriesOf (es.flatMap toFragments) = es.map fun e => .line 0 (toString e) := by
  rw [entriesOf_flatMap]
  exact List.flatMap_pure_eq_map _ _

theorem toText_override : p.override.entries.map (Entry.toText "  " 0) = p.overrideLines := by
  rw [override, Fragment.entries, entriesOf, entriesOf, Fragment.entries, Fragment.entries,
    entriesOf_annotations]
  simp [entriesOf, Fragment.entries, Entry.deeper, Entry.toText, Function.comp_def,
    overrideLines, header, body]

end Property

namespace Metadata

variable (m : Metadata) (l : SourceLevel)

def title : String :=
  "/** " ++ s!"Accessors of \x7b@link {m.typeName}\x7d." ++ " */"

theorem title_eq : m.title =
    "/** Accessors of \x7b@link " ++ toString m.typeName ++ "\x7d. */" := by
  have htitle : m.title = "/** " ++
      ("Accessors of \x7b@link " ++ toString m.typeName ++ "\x7d.") ++ " */" := rfl
  have hstart : "/** " ++ "Accessors of \x7b@link " = "/** Accessors of \x7b@link " := rfl
  have hend : "\x7d." ++ " */" = "\x7d. */" := rfl
  rw [htitle, ← String.append_assoc, ← String.append_assoc, hstart, String.append_assoc, hend]

def hashLines : List String :=
  ["@Override", "public int hashCode() \x7b", "  " ++ m.hashStatement l, "\x7d"]

/-- The title, then one paragraph for each property, then the hash code. -/
def paragraphs : List (List String) :=
  [m.title] :: (m.properties.map Property.overrideLines ++ [m.hashLines l])

theorem toText_hashCode : (m.hashCode l).entries.map (Entry.toText "  " 0) = m.hashLines l := by
  simp [hashCode, entriesOf, Fragment.entries, Entry.deeper, Entry.toText, hashLines]

theorem toText_overrides (ps : List Property) :
    (entriesOf (ps.flatMap fun p => [.blank, p.override])).map (Entry.toText "  " 0) =
      (ps.map Property.overrideLines).flatMap ("" :: ·) := by
  have hoverride (p : Property) :
      (entriesOf [.blank, p.override]).map (Entry.toText "  " 0) = "" :: p.overrideLines := by
    rw [← p.toText_override]
    simp [entriesOf, Fragment.entries, Entry.toText]
  rw [entriesOf_flatMap, List.map_flatMap, List.flatMap_map]
  simp only [hoverride]

theorem toText_fragments : (entriesOf (m.fragments l)).map (Entry.toText "  " 0) =
    ofParagraphs (m.paragraphs l) := by
  rw [fragments, paragraphs, ofParagraphs_cons, entriesOf_append, entriesOf, List.map_append,
    List.map_append, toText_overrides, List.flatMap_append, ← toText_hashCode]
  simp [entriesOf, Fragment.entries, Entry.toText, title]

/-- The text of the members is its paragraphs, line by line. -/
theorem text_emit : (({} : Writer).emit (m.fragments l)).text =
    ofLines (ofParagraphs (m.paragraphs l)) := by
  rw [Writer.emit_eq_write, ← toText_fragments, Writer.write]
  exact String.empty_append

end Metadata

end AccessorGen
