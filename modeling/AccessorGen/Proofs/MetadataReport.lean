import AccessorGen.Proofs.JsonText
import AccessorGen.Proofs.Printing

/-! The report of metadata in JSON holds all that the generated source is made of. -/
namespace AccessorGen

variable {p p' : Property} {m m' : Metadata} {ms ms' : List Metadata}

theorem Property.texts_eq_of_toJson_eq (h : p.toJson = p'.toJson) : p.texts = p'.texts := by
  simp only [toJson, Json.object.injEq, List.cons.injEq, Prod.mk.injEq, Json.string.injEq,
    Json.array.injEq, true_and, and_true] at h
  obtain ⟨hname, hgetter, htype, hlines⟩ := h
  rw [← List.map_map, ← List.map_map] at hlines
  have htexts := (List.map_inj_right fun _ _ => Json.string.inj).mp hlines
  exact texts_eq_iff.mpr ⟨hname, hgetter, htype, htexts⟩

theorem Metadata.texts_eq_of_toJson_eq (h : m.toJson = m'.toJson) : m.texts = m'.texts := by
  simp only [toJson, Json.object.injEq, List.cons.injEq, Prod.mk.injEq, Json.string.injEq,
    Json.array.injEq, true_and, and_true] at h
  obtain ⟨hname, hproperties⟩ := h
  have htexts := Manifest.map_eq_map_of_map_eq_map hproperties
    fun _ _ _ _ => Property.texts_eq_of_toJson_eq
  exact texts_eq_iff.mpr ⟨hname, htexts⟩

namespace CommandLine

variable {ε σ : Type} [FeatureFamily ε σ] [DecidableEq ε] {r : Registry ε}

theorem map_texts_eq_of_metadataReport_eq (h : metadataReport ms = metadataReport ms') :
    ms.map Metadata.texts = ms'.map Metadata.texts := by
  have hitems := Json.array.inj (Json.pretty_injective h)
  exact Manifest.map_eq_map_of_map_eq_map hitems fun _ _ _ _ => Metadata.texts_eq_of_toJson_eq

theorem generatedBlock_congr (h : m.texts = m'.texts) (r : Registry ε) :
    generatedBlock r m = generatedBlock r m' := by
  rw [generatedBlock, generatedBlock, (Metadata.texts_eq_iff.mp h).1, Metadata.render_congr h]

theorem generatedSource_congr (h : ms.map Metadata.texts = ms'.map Metadata.texts)
    (r : Registry ε) : generatedSource r ms = generatedSource r ms' := by
  have hblocks : ms.map (generatedBlock r) = ms'.map (generatedBlock r) :=
    Manifest.map_eq_map_of_map_eq_map h fun _ _ _ _ hm => generatedBlock_congr hm r
  have hmapM (ms : List Metadata) :
      ms.mapM (generatedBlock r) = (ms.map (generatedBlock r)).mapM id := by
    rw [List.mapM_map]
    rfl
  rw [generatedSource, generatedSource, hmapM, hmapM, hblocks]

theorem exists_generatedSource (h : (r.get? .sourceLevel).isSome) (ms : List Metadata) :
    ∃ source, generatedSource r ms = .ok source := by
  have hblock : ∀ m ∈ ms, ∃ block, generatedBlock r m = .ok block := by
    intro m _
    obtain ⟨code, hcode⟩ := m.exists_render h
    rw [generatedBlock, hcode]
    exact ⟨_, rfl⟩
  obtain ⟨blocks, hblocks⟩ := Manifest.exists_forall₂_iff.mpr hblock
  rw [generatedSource, Manifest.mapM_eq_ok_iff.mpr hblocks]
  exact ⟨_, rfl⟩

/-- Where the same report is printed, the same source is generated, for one type and for all the
types of a run. It is the source that is printed in place of a report. -/
theorem report_determines_source (h : (r.get? .sourceLevel).isSome) :
    (∀ m m' : Metadata, m.toJson.pretty = m'.toJson.pretty →
      ∃ code, m.render r = .ok code ∧ m'.render r = .ok code) ∧
    ∀ ms ms' : List Metadata, metadataReport ms = metadataReport ms' →
      ∃ source, generatedSource r ms = .ok source ∧ generatedSource r ms' = .ok source ∧
        printSource r ms = .print source ∧ printSource r ms' = .print source := by
  refine ⟨fun m m' hreport => ?_, fun ms ms' hreport => ?_⟩
  · obtain ⟨code, hcode⟩ := m.exists_render h
    have htexts := Metadata.texts_eq_of_toJson_eq (Json.pretty_injective hreport)
    exact ⟨code, hcode, Metadata.render_congr htexts r ▸ hcode⟩
  · obtain ⟨source, hsource⟩ := exists_generatedSource h ms
    have htexts := map_texts_eq_of_metadataReport_eq hreport
    have hsource' : generatedSource r ms' = .ok source :=
      generatedSource_congr htexts r ▸ hsource
    exact ⟨source, hsource, hsource', printSource_of_generatedSource hsource,
      printSource_of_generatedSource hsource'⟩

/-- A type in a package, with a new annotation. -/
def splitMetadata : Metadata :=
  ⟨⟨"a", "B"⟩, [⟨"x", "getX", "int", [.jsonProperty "x"]⟩]⟩

/-- The same texts from a name that is not split and an annotation that is copied. -/
def unsplitMetadata : Metadata :=
  ⟨⟨"", "a.B"⟩, [⟨"x", "getX", "int",
    [.copied "@com.fasterxml.jackson.annotation.JsonProperty(\"x\")"]⟩]⟩

theorem splitMetadata_source :
    splitMetadata ≠ unsplitMetadata ∧
      splitMetadata.toJson.pretty = unsplitMetadata.toJson.pretty ∧
      ∃ code, splitMetadata.render (Registry.standard none) = .ok code ∧
        unsplitMetadata.render (Registry.standard none) = .ok code := by
  have hreport : splitMetadata.toJson.pretty = unsplitMetadata.toJson.pretty := rfl
  have hlevel : ((Registry.standard none).get? .sourceLevel).isSome := rfl
  exact ⟨by decide, hreport, (report_determines_source hlevel).1 _ _ hreport⟩

end CommandLine

end AccessorGen
