import AccessorGen.Manifest
import AccessorGen.Proofs.ManifestChecking
import Mathlib.Data.List.Nodup

/-! Which manifests are accepted, said of what is written in them. -/
namespace AccessorGen.Manifest

open List (Forall₂)

structure AccessorDraft.Valid (d : AccessorDraft) : Prop where
  name : Identifier.fault? d.name.value = none
  returnType : ∃ c ∈ d.returnType.value.toList, Unicode.isBlank c = false
  annotations : ∀ text ∈ d.annotations, ∃ u, AnnotationUse.parse text.value = .ok u

/-- An accessor as it stands in a draft, without its annotations. -/
def AccessorDraft.bare (d : AccessorDraft) : Accessor :=
  ⟨d.name.value, d.returnType.value, []⟩

/-- The names that the accessors of a draft give to properties. The name of the type does not
matter for them. -/
def TypeDraft.propertyNames (d : TypeDraft) : List String :=
  (ValueType.mk ⟨"", ""⟩ [] (d.accessors.map AccessorDraft.bare)).propertyNames

structure TypeDraft.Valid (d : TypeDraft) : Prop where
  name : ∃ n, QualifiedName.parse d.name.value = .ok n
  annotations : ∀ text ∈ d.annotations, ∃ u, AnnotationUse.parse text.value = .ok u
  accessors : ∀ a ∈ d.accessors, a.Valid
  accessorNames : (d.accessors.map (·.name.value)).Nodup
  propertyNames : d.propertyNames.Nodup

/-- Two types have the same name if their texts are read as the same qualified name. -/
structure Draft.Valid (d : Draft) : Prop where
  source : ∀ text ∈ d.source, ∃ v, SourceVersion.parse text.value = .ok v
  types : ∀ t ∈ d.types, t.Valid
  typeNames : d.types.Pairwise fun s t =>
    QualifiedName.parse s.name.value ≠ QualifiedName.parse t.name.value

section Forall₂

variable {α β γ : Type} {R : α → β → Prop} {P : β → Prop} {l : List α} {r : List β}

theorem exists_forall₂_iff : (∃ r, Forall₂ R l r) ↔ ∀ a ∈ l, ∃ b, R a b := by
  induction l with
  | nil => simp
  | cons a l ih =>
    simp only [List.forall₂_cons_left_iff, List.forall_mem_cons, ← ih]
    constructor
    · rintro ⟨_, b, r, hab, hr, rfl⟩
      exact ⟨⟨b, hab⟩, r, hr⟩
    · rintro ⟨⟨b, hab⟩, r, hr⟩
      exact ⟨_, b, r, hab, hr, rfl⟩

theorem forall₂_and_right_iff :
    Forall₂ (fun a b => R a b ∧ P b) l r ↔ Forall₂ R l r ∧ ∀ b ∈ r, P b := by
  have hflip (S : α → β → Prop) : Forall₂ S l r ↔ Forall₂ (flip S) r l :=
    ⟨fun h => h.flip, fun h => h.flip⟩
  have hswap : flip (fun a b => R a b ∧ P b) = fun b a => P b ∧ flip R b a := by
    funext b a
    exact propext and_comm
  rw [hflip, hswap, List.forall₂_and_left, ← hflip, and_comm]

theorem map_eq_map_of_forall₂ {f : α → γ} {g : β → γ} (h : Forall₂ R l r)
    (hfg : ∀ a b, R a b → f a = g b) : l.map f = r.map g := by
  have hmap : Forall₂ (· = ·) (l.map f) (r.map g) := List.rel_map (fun a b => hfg a b) h
  rwa [List.forall₂_eq_eq_eq] at hmap

/-- Items with the same image are paired off in order. -/
theorem forall₂_of_map_eq_map {f : α → γ} {g : β → γ} (h : l.map f = r.map g)
    (hR : ∀ a, ∀ b ∈ r, f a = g b → R a b) : Forall₂ R l r := by
  induction r generalizing l with
  | nil =>
    rw [List.map_nil, List.map_eq_nil_iff] at h
    subst l
    exact .nil
  | cons b r ih =>
    obtain ⟨a, l, rfl, hab, hl⟩ := List.map_eq_cons_iff.mp h
    obtain ⟨hb, hr⟩ := List.forall_mem_cons.mp (fun b hb a => hR a b hb)
    exact .cons (hb a hab) (ih hl fun a c hc => hr c hc a)

/-- Lists that look alike under one view do so under every view that it settles. -/
theorem map_eq_map_of_map_eq_map {δ : Type} {l l' : List α} {f : α → γ} {g : α → δ}
    (h : l.map f = l'.map f) (hfg : ∀ a ∈ l, ∀ b ∈ l', f a = f b → g a = g b) :
    l.map g = l'.map g := by
  induction l generalizing l' with
  | nil =>
    rw [List.map_nil, eq_comm, List.map_eq_nil_iff] at h
    rw [h]
  | cons a l ih =>
    obtain ⟨b, l', rfl, hab, hl⟩ := List.map_eq_cons_iff.mp h.symm
    obtain ⟨hhead, hrest⟩ := List.forall_mem_cons.mp hfg
    have htail : l.map g = l'.map g :=
      ih hl.symm fun a ha b hb => hrest a ha b (List.mem_cons_of_mem _ hb)
    rw [List.map_cons, List.map_cons, hhead b List.mem_cons_self hab.symm, htail]

theorem exists_rel_iff {o : Option α} :
    (∃ p, Option.Rel R o p) ↔ ∀ a ∈ o, ∃ b, R a b := by
  cases o with
  | none =>
    simp only [Option.not_mem_none, false_implies, implies_true, iff_true]
    exact ⟨none, .none⟩
  | some a =>
    simp only [Option.mem_some_iff, forall_eq']
    constructor
    · rintro ⟨p, h⟩
      cases h with
      | some hab => exact ⟨_, hab⟩
    · rintro ⟨b, hab⟩
      exact ⟨some b, .some hab⟩

end Forall₂

theorem AccessorDraft.valid_iff {d : AccessorDraft} :
    d.Valid ↔ ∃ a, d.Declares a ∧ a.Sound := by
  constructor
  · rintro ⟨hname, htype, hann⟩
    obtain ⟨us, hus⟩ := exists_forall₂_iff.mpr hann
    exact ⟨⟨d.name.value, d.returnType.value, us⟩, ⟨rfl, rfl, hus⟩, ⟨hname, htype⟩⟩
  · rintro ⟨a, ⟨hn, ht, hus⟩, ⟨hname, htype⟩⟩
    exact ⟨hn ▸ hname, ht ▸ htype, exists_forall₂_iff.mp ⟨a.annotations, hus⟩⟩

section Declared

variable {d : TypeDraft} {t : ValueType} {ds : List TypeDraft} {ts : List ValueType}

theorem TypeDraft.Declares.accessorNames_eq (h : d.Declares t) :
    t.accessors.map Accessor.name = d.accessors.map (·.name.value) := by
  refine (map_eq_map_of_forall₂ h.accessors fun a b hab => ?_).symm
  exact hab.name.symm

/-- The type name and the annotations, which a bare accessor lacks, are not looked at. -/
theorem TypeDraft.Declares.propertyNames_eq (h : d.Declares t) :
    t.propertyNames = d.propertyNames := by
  apply ValueType.propertyNames_congr
  rw [List.map_map]
  refine (map_eq_map_of_forall₂ h.accessors fun a b hab => ?_).symm
  rw [hab.name, hab.returnType]
  rfl

theorem TypeDraft.valid_iff : d.Valid ↔ ∃ t, d.Declares t ∧ t.Sound := by
  constructor
  · rintro ⟨⟨n, hparse⟩, hann, hacc, hnames, hprops⟩
    obtain ⟨us, hus⟩ := exists_forall₂_iff.mpr hann
    have hsound : ∀ a ∈ d.accessors, ∃ b, a.Declares b ∧ b.Sound :=
      fun a ha => AccessorDraft.valid_iff.mp (hacc a ha)
    obtain ⟨as, has⟩ := exists_forall₂_iff.mpr hsound
    obtain ⟨hdecl, hsound⟩ := forall₂_and_right_iff.mp has
    have h : d.Declares ⟨n, us, as⟩ := ⟨hparse, hus, hdecl⟩
    exact ⟨_, h, ⟨hsound, h.accessorNames_eq ▸ hnames, h.propertyNames_eq ▸ hprops⟩⟩
  · rintro ⟨t, h, ⟨hsound, hnames, hprops⟩⟩
    have hacc := exists_forall₂_iff.mp ⟨_, forall₂_and_right_iff.mpr ⟨h.accessors, hsound⟩⟩
    exact ⟨⟨_, h.name⟩, exists_forall₂_iff.mp ⟨_, h.annotations⟩,
      fun a ha => AccessorDraft.valid_iff.mpr (hacc a ha),
      h.accessorNames_eq ▸ hnames, h.propertyNames_eq ▸ hprops⟩

theorem nodup_typeNames_iff (h : Forall₂ TypeDraft.Declares ds ts) :
    (ts.map ValueType.name).Nodup ↔ ds.Pairwise fun s t =>
      QualifiedName.parse s.name.value ≠ QualifiedName.parse t.name.value := by
  have hmap : ds.map (fun d => QualifiedName.parse d.name.value) =
      (ts.map ValueType.name).map Except.ok := by
    rw [List.map_map]
    exact map_eq_map_of_forall₂ h fun d t hdt => hdt.name
  rw [← List.nodup_map_iff (fun m n => Except.ok.inj), ← hmap, List.Nodup, List.pairwise_map]

end Declared

theorem Draft.valid_iff {d : Draft} : d.Valid ↔ ∃ m, d.Declares m ∧ m.Sound := by
  constructor
  · rintro ⟨hsource, htypes, hnames⟩
    obtain ⟨source, hsource⟩ := exists_rel_iff.mpr hsource
    have hsound : ∀ t ∈ d.types, ∃ u, t.Declares u ∧ u.Sound :=
      fun t ht => TypeDraft.valid_iff.mp (htypes t ht)
    obtain ⟨ts, hts⟩ := exists_forall₂_iff.mpr hsound
    obtain ⟨hdecl, hsound⟩ := forall₂_and_right_iff.mp hts
    exact ⟨⟨source, ts⟩, ⟨hsource, hdecl⟩, ⟨hsound, (nodup_typeNames_iff hdecl).mpr hnames⟩⟩
  · rintro ⟨m, ⟨hsource, hdecl⟩, ⟨hsound, hnames⟩⟩
    have htypes := exists_forall₂_iff.mp ⟨_, forall₂_and_right_iff.mpr ⟨hdecl, hsound⟩⟩
    exact ⟨exists_rel_iff.mp ⟨_, hsource⟩, fun t ht => TypeDraft.valid_iff.mpr (htypes t ht),
      (nodup_typeNames_iff hdecl).mp hnames⟩

/-- A manifest is accepted exactly if what is written in it is valid. It then declares what is
written, and reading the text of the manifest comes to nothing else. -/
theorem accepted_iff_valid (d : Draft) :
    ((∃ m, ofDraft d = .ok m) ↔ d.Valid) ∧ (∀ m, ofDraft d = .ok m → d.Declares m) ∧
      ∀ text file document, Toml.parse? text = some document →
        Draft.ofTable document = .ok d → ∀ m, parse text file = .ok m ↔ ofDraft d = .ok m := by
  refine ⟨?_, ?_, ?_⟩
  · rw [Draft.valid_iff]
    simp only [ofDraft_eq_ok_iff]
  · intro m hm
    exact (ofDraft_eq_ok_iff.mp hm).1
  · intro text file document hdocument hdraft m
    simp only [parse, hdocument, hdraft, mapError_eq_ok_iff]

end AccessorGen.Manifest
