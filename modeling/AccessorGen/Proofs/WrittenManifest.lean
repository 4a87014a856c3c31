import AccessorGen.Proofs.Acceptance
import AccessorGen.Proofs.AnnotationParsing
import AccessorGen.Proofs.SourceVersion

/-! An accepted manifest is written back as a draft, and from the draft the same manifest is
read. -/
namespace AccessorGen

open List (Forall₂)

/-- What a type is made of is read from its own text. -/
structure ValueType.Readable (t : ValueType) : Prop where
  name : QualifiedName.parse (toString t.name) = .ok t.name
  annotations : ∀ u ∈ t.annotations, AnnotationUse.parse (toString u) = .ok u
  accessors : ∀ a ∈ t.accessors, ∀ u ∈ a.annotations, AnnotationUse.parse (toString u) = .ok u

namespace Manifest

variable {d : Draft} {m : Manifest} {t : ValueType}

section Erasure

/-- A text at no particular place. -/
def unplaced (text : String) : Spanned String := ⟨text, ⟨0, 0⟩⟩

def AccessorDraft.erase (d : AccessorDraft) : AccessorDraft where
  name := unplaced d.name.value
  returnType := unplaced d.returnType.value
  annotations := d.annotations.map (unplaced ·.value)

def TypeDraft.erase (d : TypeDraft) : TypeDraft where
  name := unplaced d.name.value
  annotations := d.annotations.map (unplaced ·.value)
  accessors := d.accessors.map AccessorDraft.erase

/-- The draft without its places. -/
def Draft.erase (d : Draft) : Draft where
  source := d.source.map (unplaced ·.value)
  types := d.types.map TypeDraft.erase

end Erasure

section Places

variable {e : Draft}

theorem rel_map_left_iff {α β γ : Type} {R : β → γ → Prop} {f : α → β} {o : Option α}
    {p : Option γ} : Option.Rel R (o.map f) p ↔ Option.Rel (fun a => R (f a)) o p := by
  constructor
  · intro h
    cases o with
    | none =>
      cases h
      exact .none
    | some a =>
      cases h with
      | some hab => exact .some hab
  · intro h
    cases h with
    | none => exact .none
    | some hab => exact .some hab

theorem forall₂_reads_unplaced_iff {texts : List (Spanned String)} {us : List AnnotationUse} :
    Forall₂ Reads (texts.map (unplaced ·.value)) us ↔ Forall₂ Reads texts us :=
  List.forall₂_map_left_iff

theorem AccessorDraft.declares_erase_iff {b : AccessorDraft} {a : Accessor} :
    b.erase.Declares a ↔ b.Declares a := by
  constructor
  · intro h
    exact ⟨h.name, h.returnType, forall₂_reads_unplaced_iff.mp h.annotations⟩
  · intro h
    exact ⟨h.name, h.returnType, forall₂_reads_unplaced_iff.mpr h.annotations⟩

theorem TypeDraft.declares_erase_iff {b : TypeDraft} : b.erase.Declares t ↔ b.Declares t := by
  have haccessors : Forall₂ AccessorDraft.Declares b.erase.accessors t.accessors ↔
      Forall₂ AccessorDraft.Declares b.accessors t.accessors := by
    rw [TypeDraft.erase, List.forall₂_map_left_iff]
    simp only [AccessorDraft.declares_erase_iff]
  constructor
  · intro h
    exact ⟨h.name, forall₂_reads_unplaced_iff.mp h.annotations, haccessors.mp h.accessors⟩
  · intro h
    exact ⟨h.name, forall₂_reads_unplaced_iff.mpr h.annotations, haccessors.mpr h.accessors⟩

theorem Draft.declares_erase_iff : d.erase.Declares m ↔ d.Declares m := by
  have htypes : Forall₂ TypeDraft.Declares d.erase.types m.types ↔
      Forall₂ TypeDraft.Declares d.types m.types := by
    rw [Draft.erase, List.forall₂_map_left_iff]
    simp only [TypeDraft.declares_erase_iff]
  constructor
  · intro h
    exact ⟨rel_map_left_iff.mp h.source, htypes.mp h.types⟩
  · intro h
    exact ⟨rel_map_left_iff.mpr h.source, htypes.mpr h.types⟩

/-- It does not matter where the texts of a draft stand. -/
theorem ofDraft_eq_ok_congr (h : d.erase = e.erase) : ofDraft d = .ok m ↔ ofDraft e = .ok m := by
  rw [ofDraft_eq_ok_iff, ofDraft_eq_ok_iff, ← Draft.declares_erase_iff, h,
    Draft.declares_erase_iff]

end Places

section Writing

def writtenAccessor (a : Accessor) : AccessorDraft where
  name := unplaced a.name
  returnType := unplaced a.returnType
  annotations := a.annotations.map (unplaced ∘ toString)

def writtenType (t : ValueType) : TypeDraft where
  name := unplaced (toString t.name)
  annotations := t.annotations.map (unplaced ∘ toString)
  accessors := t.accessors.map writtenAccessor

/-- The values of a manifest as texts, all in their order. -/
def written (m : Manifest) : Draft where
  source := m.sourceVersion.map (unplaced ∘ toString)
  types := m.types.map writtenType

end Writing

theorem parse_toString_of_reads {texts : List (Spanned String)} {us : List AnnotationUse}
    (h : Forall₂ Reads texts us) : ∀ u ∈ us, AnnotationUse.parse (toString u) = .ok u := by
  intro u hu
  obtain ⟨text, hread⟩ := exists_forall₂_iff.mp ⟨texts, h.flip⟩ u hu
  exact AnnotationUse.parse_literal hread

theorem TypeDraft.Declares.readable {e : TypeDraft} (h : e.Declares t) : t.Readable := by
  refine ⟨?_, parse_toString_of_reads h.annotations, ?_⟩
  · rw [QualifiedName.toString_of_parse h.name]
    exact h.name
  · intro a ha
    obtain ⟨b, hba⟩ := exists_forall₂_iff.mp ⟨e.accessors, h.accessors.flip⟩ a ha
    exact parse_toString_of_reads hba.annotations

theorem readable_of_accepted (h : ofDraft d = .ok m) (ht : t ∈ m.types) : t.Readable := by
  have hdecl := (ofDraft_eq_ok_iff.mp h).1.types
  obtain ⟨e, he⟩ := exists_forall₂_iff.mp ⟨d.types, hdecl.flip⟩ t ht
  exact he.readable

theorem reads_of_written {texts : List (Spanned String)} {us : List AnnotationUse}
    (h : texts.map (unplaced ·.value) = us.map (unplaced ∘ toString))
    (hus : ∀ u ∈ us, AnnotationUse.parse (toString u) = .ok u) : Forall₂ Reads texts us := by
  refine forall₂_of_map_eq_map h fun text u hu htext => ?_
  have hvalue : text.value = toString u := congrArg Spanned.value htext
  rw [Reads, hvalue]
  exact hus u hu

theorem AccessorDraft.declares_of_written {e : AccessorDraft} {a : Accessor}
    (h : e.erase = writtenAccessor a)
    (ha : ∀ u ∈ a.annotations, AnnotationUse.parse (toString u) = .ok u) : e.Declares a where
  name := (congrArg (·.name.value) h).symm
  returnType := (congrArg (·.returnType.value) h).symm
  annotations := reads_of_written (congrArg AccessorDraft.annotations h) ha

theorem TypeDraft.declares_of_written {e : TypeDraft} (h : e.erase = writtenType t)
    (ht : t.Readable) : e.Declares t where
  name := by
    have hname : e.name.value = toString t.name := congrArg (·.name.value) h
    rw [hname]
    exact ht.name
  annotations := reads_of_written (congrArg TypeDraft.annotations h) ht.annotations
  accessors := forall₂_of_map_eq_map (congrArg TypeDraft.accessors h) fun _ a ha he =>
    AccessorDraft.declares_of_written he (ht.accessors a ha)

theorem Draft.declares_of_written (h : d.erase = m.written) (hm : ∀ t ∈ m.types, t.Readable) :
    d.Declares m where
  source := by
    have hsource : d.source.map (unplaced ·.value) = m.sourceVersion.map (unplaced ∘ toString) :=
      congrArg Draft.source h
    cases hv : m.sourceVersion with
    | none =>
      rw [hv, Option.map_none, Option.map_eq_none_iff] at hsource
      rw [hsource]
      exact .none
    | some v =>
      rw [hv, Option.map_some, Option.map_eq_some_iff] at hsource
      obtain ⟨text, htext, hvalue⟩ := hsource
      have hvalue : text.value = toString v := congrArg Spanned.value hvalue
      rw [htext]
      refine .some ?_
      rw [hvalue, SourceVersion.parse_toString]
  types := forall₂_of_map_eq_map (congrArg Draft.types h) fun _ t ht he =>
    TypeDraft.declares_of_written he (hm t ht)

theorem written_erase (m : Manifest) : m.written.erase = m.written := by
  have haccessor (a : Accessor) : (writtenAccessor a).erase = writtenAccessor a := by
    simp [writtenAccessor, AccessorDraft.erase, unplaced]
  have htype (t : ValueType) : (writtenType t).erase = writtenType t := by
    simp [writtenType, TypeDraft.erase, unplaced, haccessor]
  simp [written, Draft.erase, unplaced, htype, Function.comp_def]

/-- The texts of an accepted manifest are accepted again and give the same manifest, wherever they
are written. -/
theorem written_accepted (h : ofDraft d = .ok m) :
    ofDraft m.written = .ok m ∧ ∀ e : Draft, e.erase = m.written → ofDraft e = .ok m := by
  have hsound := (ofDraft_eq_ok_iff.mp h).2
  have hread (e : Draft) (he : e.erase = m.written) : ofDraft e = .ok m := by
    have hdecl := Draft.declares_of_written he fun t ht => readable_of_accepted h ht
    exact ofDraft_eq_ok_iff.mpr ⟨hdecl, hsound⟩
  exact ⟨hread m.written m.written_erase, hread⟩

/-- A draft with an old spelling of its source version and blanks around an annotation. -/
def looseDraft : Draft :=
  ⟨some ⟨"1.07", ⟨23, 6⟩⟩, [⟨⟨"a.b.C", ⟨47, 7⟩⟩, [⟨" @a.D ( ')' ) ", ⟨70, 16⟩⟩],
    [⟨⟨"isX", ⟨110, 5⟩⟩, ⟨"boolean", ⟨123, 9⟩⟩, []⟩]⟩]⟩

def tightManifest : Manifest :=
  ⟨some ⟨7, by decide, by decide⟩, [⟨⟨"a.b", "C"⟩, [⟨⟨"a", "D"⟩, "@a.D ( ')' )"⟩],
    [⟨"isX", "boolean", []⟩]⟩]⟩

/-- The texts are not those of the draft: the version and the annotation are written shorter. -/
theorem looseDraft_written : ofDraft looseDraft = .ok tightManifest ∧
    tightManifest.written ≠ looseDraft.erase ∧ ofDraft tightManifest.written = .ok tightManifest := by
  have h : ofDraft looseDraft = .ok tightManifest := rfl
  exact ⟨h, by decide, (written_accepted h).1⟩

end Manifest

end AccessorGen
