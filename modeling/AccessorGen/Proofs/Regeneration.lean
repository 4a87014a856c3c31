import AccessorGen.Proofs.BindingPolicy
import AccessorGen.Proofs.SynthesizedAnnotation
import AccessorGen.Proofs.WrittenManifest
import AccessorGen.Proofs.WrittenMetadata

/-! Generated annotations may be put on the accessors they were generated for. What is generated
from then on stays as it was. -/
namespace AccessorGen

open JsonBinding (decideFor isActive)

section Adoption

/-- The accessor with generated lines behind its own annotations, each as its text is read. -/
def Accessor.adopt (a : Accessor) (lines : List AnnotationLine) :
    Except AnnotationUse.ParseError Accessor := do
  let added ← lines.mapM fun e => AnnotationUse.parse (toString e)
  return { a with annotations := a.annotations ++ added }

/-- Each accessor takes over the annotations of its own property. -/
def ValueType.adopt (t : ValueType) : Except AnnotationUse.ParseError ValueType := do
  let accessors ← (t.accessors.zip t.metadata.properties).mapM fun (a, p) =>
    a.adopt p.accessorAnnotations
  return { t with accessors }

end Adoption

namespace JsonBinding

variable {name : String} {us : List AnnotationUse} {e : AnnotationLine}

/-- What a generated line is in a declaration: a user's own annotation with the same text. -/
def useOf (e : AnnotationLine) : AnnotationUse := ⟨jsonPropertyType, toString e⟩

theorem parse_due (h : (decideFor name us).2 = some e)
    (hus : ∀ u ∈ us, AnnotationUse.parse (toString u) = .ok u) :
    AnnotationUse.parse (toString e) = .ok (useOf e) := by
  rcases decideFor_cases h with ⟨u, hfind, rfl⟩ | ⟨_, rfl⟩
  · obtain ⟨hmem, htype⟩ := AnnotationUse.type_of_find? hfind
    have huse : useOf (.copyOf u) = u := by
      rw [useOf, ← htype]
      rfl
    rw [huse]
    exact hus u hmem
  · rw [useOf, AnnotationLine.toString_jsonProperty]
    exact AnnotationUse.parse_name_append_group (by decide) (by decide) (by decide)
      (AnnotationLine.group_encode name.toList)

/-- The line is due again once it has been added: behind an annotation that is copied it is not
looked at, and otherwise it is copied itself. -/
theorem decideFor_append_useOf (h : (decideFor name us).2 = some e) :
    ∃ e', (decideFor name (us ++ [useOf e])).2 = some e' ∧ toString e' = toString e := by
  rcases decideFor_cases h with ⟨u, hfind, rfl⟩ | ⟨hfind, rfl⟩
  · have hagain : AnnotationUse.find? (us ++ [useOf (.copyOf u)]) jsonPropertyType = some u := by
      rw [AnnotationUse.find?] at hfind ⊢
      rw [List.find?_append, hfind, Option.some_or]
    exact ⟨.copyOf u, by rw [decideFor, hagain], rfl⟩
  · have hagain : AnnotationUse.find? (us ++ [useOf (.jsonProperty name)]) jsonPropertyType =
        some (useOf (.jsonProperty name)) := by
      rw [AnnotationUse.find?] at hfind ⊢
      rw [List.find?_append, hfind, Option.none_or]
      rfl
    exact ⟨.copyOf (useOf (.jsonProperty name)), by rw [decideFor, hagain], rfl⟩

end JsonBinding

namespace Accessor

variable (active : Bool) (a : Accessor) (name : String)

/-- The accessor with the annotation that its property has. -/
def adopted : Accessor :=
  { a with annotations := a.annotations ++ (a.due active name).toList.map JsonBinding.useOf }

variable {a}

theorem adopt_due (ha : ∀ u ∈ a.annotations, AnnotationUse.parse (toString u) = .ok u) :
    a.adopt (a.due active name).toList = .ok (a.adopted active name) := by
  rw [adopt, adopted]
  cases hdue : a.due active name with
  | none => rfl
  | some e =>
    simp [JsonBinding.parse_due (decideFor_of_due hdue) ha]

theorem due_adopted : ((a.adopted active name).due active name).map toString =
    (a.due active name).map toString := by
  cases active with
  | false => rfl
  | true =>
    have hactive (b : Accessor) : b.due true name = (decideFor name b.annotations).2 := if_pos rfl
    rw [hactive, hactive, adopted, hactive]
    cases hdue : (decideFor name a.annotations).2 with
    | none => simp [hdue]
    | some e =>
      obtain ⟨e', hagain, htext⟩ := JsonBinding.decideFor_append_useOf hdue
      simp [hagain, htext]

theorem texts_adopted :
    ((a.adopted active name).property active name).texts = (a.property active name).texts := by
  have hlines := congrArg Option.toList (due_adopted (a := a) active name)
  rw [Option.toList_map, Option.toList_map] at hlines
  rw [property_eq, property_eq, Property.texts, Property.texts, hlines]
  rfl

end Accessor

namespace ValueType

variable {t : ValueType}

def adopted (t : ValueType) : ValueType :=
  { t with accessors := t.accessors.map fun a => a.adopted (isActive t) (t.propertyName a) }

theorem adopt_eq_ok (ht : t.Readable) : t.adopt = .ok t.adopted := by
  have hzip : t.accessors.zip t.metadata.properties = t.accessors.map fun a =>
      (a, a.property (isActive t) (t.propertyName a)) := by
    rw [properties_eq_map, ← List.zip_map', List.map_id']
  have hall : ∀ a ∈ t.accessors,
      a.adopt (a.property (isActive t) (t.propertyName a)).accessorAnnotations =
        .ok (a.adopted (isActive t) (t.propertyName a)) := by
    intro a ha
    rw [Accessor.property_eq]
    exact Accessor.adopt_due _ _ (ht.accessors a ha)
  rw [adopt, hzip, List.mapM_map, Manifest.bind_eq_ok_iff]
  exact ⟨_, Manifest.mapM_eq_ok_map hall, rfl⟩

theorem propertyNames_adopted (t : ValueType) : t.adopted.propertyNames = t.propertyNames := by
  apply propertyNames_congr
  simp [adopted, Accessor.adopted]

theorem adopted_writtenAlike (t : ValueType) : t.adopted.metadata.WrittenAlike t.metadata where
  typeName := rfl
  properties := by
    have hactive : isActive t.adopted = isActive t := rfl
    rw [metadata, metadata, propertyNames_adopted, propertyNames_eq_map, hactive]
    simp only [adopted, List.zipWith_map_left, List.zipWith_map_right, List.zipWith_self,
      List.map_map]
    refine List.map_congr_left fun a _ => ?_
    exact Accessor.texts_adopted _ _

end ValueType

namespace Manifest

variable {d : Draft} {m : Manifest} {t : ValueType}

/-- The types of an accepted manifest may take over what was generated for them: all of it can be
read, and the metadata and the code that are generated from then on are written as before. -/
theorem regeneration_unchanged (h : ofDraft d = .ok m) (ht : t ∈ m.types) :
    ∃ t', t.adopt = .ok t' ∧ t'.metadata.WrittenAlike t.metadata ∧
      t'.metadata.toJson = t.metadata.toJson ∧
      ∀ {ε σ : Type} [FeatureFamily ε σ] [DecidableEq ε] (r : Registry ε),
        t'.metadata.render r = t.metadata.render r ∧
          ((r.get? .sourceLevel).isSome → ∃ code, t.metadata.render r = .ok code) := by
  have halike := t.adopted_writtenAlike
  refine ⟨t.adopted, ValueType.adopt_eq_ok (readable_of_accepted h ht), halike, halike.toJson_eq, ?_⟩
  intro ε σ _ _ r
  exact ⟨halike.render_eq r, fun hlevel => t.metadata.exists_render hlevel⟩

/-- One accessor is due a new annotation, one its own and one nothing. -/
def boundDraft : Draft :=
  let text (s : String) : Spanned String := ⟨s, ⟨0, s.utf8ByteSize⟩⟩
  ⟨none, [⟨text "a.B", [text "@com.fasterxml.jackson.databind.annotation.JsonDeserialize"],
    [⟨text "getAge", text "int", []⟩,
      ⟨text "getName", text "String",
        [text "@com.fasterxml.jackson.annotation.JsonProperty(\"n\")"]⟩,
      ⟨text "getKey", text "long", [text "@com.fasterxml.jackson.annotation.JsonIgnore"]⟩]⟩]⟩

def boundType : ValueType :=
  ⟨⟨"a", "B"⟩, [.marker JsonBinding.trigger],
    [⟨"getAge", "int", []⟩,
      ⟨"getName", "String",
        [⟨jsonPropertyType, "@com.fasterxml.jackson.annotation.JsonProperty(\"n\")"⟩]⟩,
      ⟨"getKey", "long", [.marker ⟨"com.fasterxml.jackson.annotation", "JsonIgnore"⟩]⟩]⟩

theorem boundType_regenerated : ofDraft boundDraft = .ok ⟨none, [boundType]⟩ ∧
    ∃ t', boundType.adopt = .ok t' ∧ t'.metadata.WrittenAlike boundType.metadata := by
  have h : ofDraft boundDraft = .ok ⟨none, [boundType]⟩ := by decide +kernel
  obtain ⟨t', hadopt, halike, _⟩ := regeneration_unchanged h List.mem_cons_self
  exact ⟨h, t', hadopt, halike⟩

end Manifest

end AccessorGen
