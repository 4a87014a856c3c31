import AccessorGen.Members
import AccessorGen.Proofs.Acceptance

/-! What is printed of metadata depends on the texts of annotations, and not on their origin. -/
namespace AccessorGen

/-- A property as it is written. It does not matter where its annotations come from. -/
def Property.texts (p : Property) : String × String × String × List String :=
  (p.name, p.getterName, p.typeName, p.accessorAnnotations.map toString)

/-- Metadata as it is written. It does not matter how the name of the type is split. -/
def Metadata.texts (m : Metadata) : String × List (String × String × String × List String) :=
  (toString m.typeName, m.properties.map Property.texts)

structure Metadata.WrittenAlike (m m' : Metadata) : Prop where
  typeName : m.typeName = m'.typeName
  properties : m.properties.map Property.texts = m'.properties.map Property.texts

variable {p p' : Property} {m m' : Metadata}

theorem Property.texts_eq_iff : p.texts = p'.texts ↔ p.name = p'.name ∧
    p.getterName = p'.getterName ∧ p.typeName = p'.typeName ∧
      p.accessorAnnotations.map toString = p'.accessorAnnotations.map toString := by
  simp [texts]

theorem Metadata.texts_eq_iff : m.texts = m'.texts ↔ toString m.typeName = toString m'.typeName ∧
    m.properties.map Property.texts = m'.properties.map Property.texts := by
  simp [texts]

theorem Property.toJson_congr (h : p.texts = p'.texts) : p.toJson = p'.toJson := by
  obtain ⟨hname, hgetter, htype, htexts⟩ := texts_eq_iff.mp h
  rw [toJson, toJson, ← List.map_map, ← List.map_map, hname, hgetter, htype, htexts]

theorem Property.override_congr (h : p.texts = p'.texts) : p.override = p'.override := by
  obtain ⟨hname, hgetter, htype, htexts⟩ := texts_eq_iff.mp h
  have hlines (q : Property) : q.accessorAnnotations.flatMap Code.toFragments =
      (q.accessorAnnotations.map toString).map Code.Fragment.line := by
    rw [List.map_map]
    exact List.flatMap_pure_eq_map _ _
  rw [override, override, hlines, hlines, hname, hgetter, htype, htexts]

namespace Metadata

theorem map_congr (h : m.texts = m'.texts) {γ : Type} {f : Property → γ}
    (hf : ∀ p p', p.texts = p'.texts → f p = f p') :
    m.properties.map f = m'.properties.map f :=
  Manifest.map_eq_map_of_map_eq_map (texts_eq_iff.mp h).2 fun p _ p' _ => hf p p'

theorem toJson_congr (h : m.texts = m'.texts) : m.toJson = m'.toJson := by
  rw [toJson, toJson, (texts_eq_iff.mp h).1, map_congr h fun _ _ => Property.toJson_congr]

theorem fragments_congr (h : m.texts = m'.texts) (l : SourceLevel) :
    m.fragments l = m'.fragments l := by
  have hnames : m.properties.map Property.name = m'.properties.map Property.name :=
    map_congr h fun _ _ hp => (Property.texts_eq_iff.mp hp).1
  have hhash : m.hashCode l = m'.hashCode l := by
    rw [hashCode, hashCode, hashStatement, hashStatement, hashArguments, hashArguments, hnames]
  have hoverrides : m.properties.flatMap (fun p => [.blank, p.override]) =
      m'.properties.flatMap (fun p => [.blank, p.override]) := by
    rw [List.flatMap_def, List.flatMap_def,
      map_congr h fun _ _ hp => by rw [Property.override_congr hp]]
  rw [fragments, fragments, (texts_eq_iff.mp h).1, hoverrides, hhash]

section Render

variable {ε σ : Type} [FeatureFamily ε σ] [DecidableEq ε] {r : Registry ε} {l : SourceLevel}

theorem render_congr (h : m.texts = m'.texts) (r : Registry ε) : m.render r = m'.render r := by
  rw [render, render, fragmentsFor, fragmentsFor]
  simp only [fragments_congr h]

theorem fragmentsFor_eq_ok (h : r.get? .sourceLevel = some l) (m : Metadata) :
    m.fragmentsFor r = .ok (m.fragments l) := by
  rw [fragmentsFor, Registry.get, h]
  rfl

/-- The source level is all that rendering asks of a registry. -/
theorem render_eq_ok (h : r.get? .sourceLevel = some l) (m : Metadata) :
    m.render r = .ok (({} : Code.Writer).emit (m.fragments l)).text := by
  rw [render, fragmentsFor_eq_ok h]
  rfl

theorem exists_render (h : (r.get? .sourceLevel).isSome) (m : Metadata) :
    ∃ code, m.render r = .ok code := by
  obtain ⟨l, hl⟩ := Option.isSome_iff_exists.mp h
  exact ⟨_, render_eq_ok hl m⟩

end Render

namespace WrittenAlike

theorem texts_eq (h : m.WrittenAlike m') : m.texts = m'.texts :=
  texts_eq_iff.mpr ⟨congrArg toString h.typeName, h.properties⟩

theorem toJson_eq (h : m.WrittenAlike m') : m.toJson = m'.toJson :=
  toJson_congr h.texts_eq

theorem render_eq {ε σ : Type} [FeatureFamily ε σ] [DecidableEq ε] (h : m.WrittenAlike m')
    (r : Registry ε) : m.render r = m'.render r :=
  render_congr h.texts_eq r

end WrittenAlike

end Metadata

end AccessorGen
