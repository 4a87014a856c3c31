import AccessorGen.Manifest.Checking
import AccessorGen.Proofs.PropertyNames
import Mathlib.Data.List.Forall2

/-! What passes the checks of a manifest. Each check lets pass just what its draft declares, when
that is sound and repeats nothing seen before. -/
namespace AccessorGen

open List (Forall₂)

structure Accessor.Sound (a : Accessor) : Prop where
  name : Identifier.fault? a.name = none
  returnType : ∃ c ∈ a.returnType.toList, Unicode.isBlank c = false

/-- What holds of every type of a checked manifest, whatever draft it was read from. -/
structure ValueType.Sound (t : ValueType) : Prop where
  accessors : ∀ a ∈ t.accessors, a.Sound
  accessorNames : (t.accessors.map Accessor.name).Nodup
  propertyNames : t.propertyNames.Nodup

namespace Manifest

structure Sound (m : Manifest) : Prop where
  types : ∀ t ∈ m.types, t.Sound
  typeNames : (m.types.map ValueType.name).Nodup

def Reads (text : Spanned String) (u : AnnotationUse) : Prop :=
  AnnotationUse.parse text.value = .ok u

/-- Names and return types are taken as they are written, and all annotations in their order. -/
structure AccessorDraft.Declares (d : AccessorDraft) (a : Accessor) : Prop where
  name : a.name = d.name.value
  returnType : a.returnType = d.returnType.value
  annotations : Forall₂ Reads d.annotations a.annotations

structure TypeDraft.Declares (d : TypeDraft) (t : ValueType) : Prop where
  name : QualifiedName.parse d.name.value = .ok t.name
  annotations : Forall₂ Reads d.annotations t.annotations
  accessors : Forall₂ AccessorDraft.Declares d.accessors t.accessors

structure Draft.Declares (d : Draft) (m : Manifest) : Prop where
  source : Option.Rel (fun text v => SourceVersion.parse text.value = .ok v)
    d.source m.sourceVersion
  types : Forall₂ TypeDraft.Declares d.types m.types

section Except

variable {ε ε' α β : Type} {x : Except ε α} {a : α} {b : β}

theorem bind_eq_ok_iff {f : α → Except ε β} :
    x >>= f = .ok b ↔ ∃ a, x = .ok a ∧ f a = .ok b := by
  cases x with
  | error e => simp [bind, Except.bind]
  | ok a => simp [bind, Except.bind]

theorem mapError_eq_ok_iff {f : ε → ε'} : x.mapError f = .ok a ↔ x = .ok a := by
  cases x with
  | error e => simp [Except.mapError]
  | ok a => simp [Except.mapError]

theorem mapM_eq_ok_iff {f : α → Except ε β} {l : List α} {r : List β} :
    l.mapM f = .ok r ↔ Forall₂ (fun a b => f a = .ok b) l r := by
  induction l generalizing r with
  | nil => simp [pure, Except.pure, eq_comm]
  | cons a l ih =>
    rw [List.mapM_cons, bind_eq_ok_iff, List.forall₂_cons_left_iff]
    simp only [bind_eq_ok_iff, ih]
    constructor
    · rintro ⟨b, hb, bs, hbs, hr⟩
      cases hr
      exact ⟨b, bs, hb, hbs, rfl⟩
    · rintro ⟨b, bs, hb, hbs, rfl⟩
      exact ⟨b, hb, bs, hbs, rfl⟩

theorem mapM_eq_ok_map {f : α → Except ε β} {g : α → β} {l : List α}
    (h : ∀ a ∈ l, f a = .ok (g a)) : l.mapM f = .ok (l.map g) :=
  mapM_eq_ok_iff.mpr (List.forall₂_map_right_iff.mpr (List.forall₂_same.mpr h))

theorem optionMapM_eq_ok_iff {f : α → Except ε β} {o : Option α} {r : Option β} :
    o.mapM f = .ok r ↔ Option.Rel (fun a b => f a = .ok b) o r := by
  cases o with
  | none =>
    constructor
    · intro h
      cases h
      exact .none
    · rintro ⟨⟩
      rfl
  | some a =>
    rw [Option.mapM_some]
    constructor
    · intro h
      cases ha : f a with
      | error e =>
        rw [ha] at h
        cases h
      | ok b =>
        rw [ha] at h
        cases h
        exact .some ha
    · intro h
      cases h with
      | some hab =>
        rw [hab]
        rfl

end Except

theorem refuse_eq_ok_iff {fault : Option Fault} : refuse fault = .ok () ↔ fault = none := by
  cases fault with
  | none => simp [refuse]
  | some fault => simp [refuse]

theorem refuse_bind_eq_ok_iff {β : Type} {fault : Option Fault} {k : Unit → Except Fault β}
    {b : β} : refuse fault >>= k = .ok b ↔ fault = none ∧ k () = .ok b := by
  cases fault with
  | none => simp [refuse, bind, Except.bind]
  | some fault => simp [refuse, bind, Except.bind]

section Repetition

variable {α : Type} [DecidableEq α] {seen l : List (α × Span)} {a : α}

theorem earlier?_eq_none_iff : earlier? seen a = none ↔ a ∉ seen.map Prod.fst := by
  rw [earlier?, Option.map_eq_none_iff, List.find?_eq_none]
  simp only [decide_eq_true_eq, List.mem_map, not_exists, not_and]

/-- Nothing is repeated exactly if all are distinct, from each other and from those seen. -/
theorem repeated?_eq_none_iff : repeated? seen l = none ↔
    (l.map Prod.fst).Nodup ∧ ∀ a ∈ l.map Prod.fst, a ∉ seen.map Prod.fst := by
  induction l generalizing seen with
  | nil => simp [repeated?]
  | cons p l ih =>
    obtain ⟨a, span⟩ := p
    rw [repeated?]
    cases hfirst : earlier? seen a with
    | some first =>
      have hmem : a ∈ seen.map Prod.fst := by
        by_contra hnot
        rw [earlier?_eq_none_iff.mpr hnot] at hfirst
        cases hfirst
      simp only [reduceCtorEq, false_iff, not_and]
      intro _ hnew
      exact hnew a (by simp) hmem
    | none =>
      have hnot := earlier?_eq_none_iff.mp hfirst
      rw [ih, List.map_cons, List.map_cons, List.nodup_cons, List.forall_mem_cons]
      simp only [List.mem_cons, not_or]
      constructor
      · rintro ⟨hl, hnew⟩
        exact ⟨⟨fun ha => (hnew a ha).1 rfl, hl⟩, hnot, fun b hb => (hnew b hb).2⟩
      · rintro ⟨⟨ha, hl⟩, _, hnew⟩
        refine ⟨hl, fun b hb => ⟨?_, hnew b hb⟩⟩
        rintro rfl
        exact ha hb

end Repetition

/-- An item that joins those seen keeps the items behind it from repeating it. -/
theorem nodup_cons_and_new_iff {α β : Type} {key : β → α} {b : β} {bs : List β} {ks : List α} :
    ((b :: bs).map key).Nodup ∧ (∀ c ∈ b :: bs, key c ∉ ks) ↔
      key b ∉ ks ∧ (bs.map key).Nodup ∧ ∀ c ∈ bs, key c ∉ key b :: ks := by
  rw [List.map_cons, List.nodup_cons, List.forall_mem_cons]
  constructor
  · rintro ⟨⟨hb, hbs⟩, hnew, hrest⟩
    refine ⟨hnew, hbs, fun c hc => ?_⟩
    rw [List.mem_cons, not_or]
    refine ⟨?_, hrest c hc⟩
    intro hkey
    exact hb (hkey ▸ List.mem_map_of_mem hc)
  · rintro ⟨hnew, hbs, hrest⟩
    refine ⟨⟨?_, hbs⟩, hnew, fun c hc => List.not_mem_of_not_mem_cons (hrest c hc)⟩
    intro hmem
    obtain ⟨c, hc, hkey⟩ := List.mem_map.mp hmem
    exact List.ne_of_not_mem_cons (hrest c hc) hkey

theorem isBlank_eq_false_iff {s : String} :
    isBlank s = false ↔ ∃ c ∈ s.toList, Unicode.isBlank c = false := by
  simp [isBlank]

theorem checkAnnotationUses_eq_ok_iff {texts : List (Spanned String)} {us : List AnnotationUse} :
    texts.mapM checkAnnotationUse = .ok us ↔ Forall₂ Reads texts us := by
  rw [mapM_eq_ok_iff]
  simp only [checkAnnotationUse, mapError_eq_ok_iff]
  rfl

section Accessors

variable {type : QualifiedName} {seen : List (String × Span)} {d : AccessorDraft} {a : Accessor}

theorem checkAccessor_eq_ok_iff : checkAccessor type seen d = .ok a ↔
    d.Declares a ∧ a.Sound ∧ a.name ∉ seen.map Prod.fst := by
  rw [checkAccessor, refuse_bind_eq_ok_iff, refuse_bind_eq_ok_iff, refuse_bind_eq_ok_iff,
    bind_eq_ok_iff, Option.map_eq_none_iff, Option.map_eq_none_iff, earlier?_eq_none_iff]
  simp only [checkAnnotationUses_eq_ok_iff]
  constructor
  · rintro ⟨hname, hnew, htype, us, hus, ha⟩
    cases ha
    refine ⟨⟨rfl, rfl, hus⟩, ⟨hname, ?_⟩, hnew⟩
    apply isBlank_eq_false_iff.mp
    simpa using htype
  · rintro ⟨⟨hn, ht, hus⟩, ⟨hname, htype⟩, hnew⟩
    rw [hn] at hname hnew
    rw [ht, ← isBlank_eq_false_iff] at htype
    refine ⟨hname, hnew, by simp [htype], a.annotations, hus, ?_⟩
    rw [← hn, ← ht]
    rfl

/-- The names seen before take part in the induction: each accessor joins them for the next. -/
theorem checkAccessors_eq_ok_iff {ds : List AccessorDraft} {as : List Accessor} :
    checkAccessors type seen ds = .ok as ↔
      Forall₂ AccessorDraft.Declares ds as ∧ (∀ a ∈ as, a.Sound) ∧
        (as.map Accessor.name).Nodup ∧ ∀ a ∈ as, a.name ∉ seen.map Prod.fst := by
  induction ds generalizing seen as with
  | nil =>
    rw [checkAccessors, List.forall₂_nil_left_iff]
    constructor
    · intro h
      cases h
      simp
    · rintro ⟨rfl, _⟩
      rfl
  | cons d ds ih =>
    rw [checkAccessors, bind_eq_ok_iff, List.forall₂_cons_left_iff]
    simp only [checkAccessor_eq_ok_iff, bind_eq_ok_iff, ih]
    constructor
    · rintro ⟨a, ⟨hd, ha, hnew⟩, as, ⟨hds, has, hnodup, hseen⟩, heq⟩
      cases heq
      rw [List.map_cons, ← hd.name] at hseen
      exact ⟨⟨a, as, hd, hds, rfl⟩, List.forall_mem_cons.mpr ⟨ha, has⟩,
        nodup_cons_and_new_iff.mpr ⟨hnew, hnodup, hseen⟩⟩
    · rintro ⟨⟨a, as, hd, hds, rfl⟩, hsound, hdistinct⟩
      obtain ⟨hnew, hnodup, hseen⟩ := nodup_cons_and_new_iff.mp hdistinct
      obtain ⟨ha, has⟩ := List.forall_mem_cons.mp hsound
      rw [List.map_cons, ← hd.name]
      exact ⟨a, ⟨hd, ha, hnew⟩, as, ⟨hds, has, hnodup, hseen⟩, rfl⟩

end Accessors

section Types

variable {seen : List (QualifiedName × Span)} {d : TypeDraft} {t : ValueType}

theorem checkProperties_eq_ok_iff {places : List Span}
    (hlen : t.accessors.length = places.length) :
    checkProperties t places = .ok () ↔ t.propertyNames.Nodup := by
  have hzip := Nat.le_of_eq (t.length_propertyNames.trans hlen)
  rw [checkProperties, refuse_eq_ok_iff, Option.map_eq_none_iff, repeated?_eq_none_iff,
    List.map_fst_zip hzip]
  simp

theorem checkTypeName_eq_ok_iff {name : Spanned String} {n : QualifiedName} :
    checkTypeName seen name = .ok n ↔
      QualifiedName.parse name.value = .ok n ∧ n ∉ seen.map Prod.fst := by
  rw [checkTypeName, bind_eq_ok_iff]
  simp only [mapError_eq_ok_iff, refuse_bind_eq_ok_iff, Option.map_eq_none_iff,
    earlier?_eq_none_iff]
  constructor
  · rintro ⟨n, hparse, hnew, heq⟩
    cases heq
    exact ⟨hparse, hnew⟩
  · rintro ⟨hparse, hnew⟩
    exact ⟨n, hparse, hnew, rfl⟩

theorem checkType_eq_ok_iff : checkType seen d = .ok t ↔
    d.Declares t ∧ t.Sound ∧ t.name ∉ seen.map Prod.fst := by
  rw [checkType, bind_eq_ok_iff]
  simp only [bind_eq_ok_iff, checkTypeName_eq_ok_iff, checkAnnotationUses_eq_ok_iff,
    checkAccessors_eq_ok_iff]
  constructor
  · rintro ⟨n, ⟨hparse, hnew⟩, us, hus, as, ⟨has, hsound, hnodup, _⟩, _, hprops, heq⟩
    cases heq
    have hlen : as.length = (d.accessors.map (·.name.span)).length := by
      rw [List.length_map, has.length_eq]
    rw [checkProperties_eq_ok_iff hlen] at hprops
    exact ⟨⟨hparse, hus, has⟩, ⟨hsound, hnodup, hprops⟩, hnew⟩
  · rintro ⟨⟨hparse, hus, has⟩, ⟨hsound, hnodup, hprops⟩, hnew⟩
    have hlen : t.accessors.length = (d.accessors.map (·.name.span)).length := by
      rw [List.length_map, has.length_eq]
    refine ⟨t.name, ⟨hparse, hnew⟩, t.annotations, hus, t.accessors,
      ⟨has, hsound, hnodup, by simp⟩, (), ?_, rfl⟩
    exact (checkProperties_eq_ok_iff hlen).mpr hprops

theorem checkTypes_eq_ok_iff {ds : List TypeDraft} {ts : List ValueType} :
    checkTypes seen ds = .ok ts ↔
      Forall₂ TypeDraft.Declares ds ts ∧ (∀ t ∈ ts, t.Sound) ∧
        (ts.map ValueType.name).Nodup ∧ ∀ t ∈ ts, t.name ∉ seen.map Prod.fst := by
  induction ds generalizing seen ts with
  | nil =>
    rw [checkTypes, List.forall₂_nil_left_iff]
    constructor
    · intro h
      cases h
      simp
    · rintro ⟨rfl, _⟩
      rfl
  | cons d ds ih =>
    rw [checkTypes, bind_eq_ok_iff, List.forall₂_cons_left_iff]
    simp only [checkType_eq_ok_iff, bind_eq_ok_iff, ih, List.map_cons]
    constructor
    · rintro ⟨t, ⟨hd, ht, hnew⟩, ts, ⟨hds, hts, hnodup, hseen⟩, heq⟩
      cases heq
      exact ⟨⟨t, ts, hd, hds, rfl⟩, List.forall_mem_cons.mpr ⟨ht, hts⟩,
        nodup_cons_and_new_iff.mpr ⟨hnew, hnodup, hseen⟩⟩
    · rintro ⟨⟨t, ts, hd, hds, rfl⟩, hsound, hdistinct⟩
      obtain ⟨hnew, hnodup, hseen⟩ := nodup_cons_and_new_iff.mp hdistinct
      obtain ⟨ht, hts⟩ := List.forall_mem_cons.mp hsound
      exact ⟨t, ⟨hd, ht, hnew⟩, ts, ⟨hds, hts, hnodup, hseen⟩, rfl⟩

end Types

theorem checkSource_eq_ok_iff {text : Spanned String} {v : SourceVersion} :
    checkSource text = .ok v ↔ SourceVersion.parse text.value = .ok v := by
  rw [checkSource, mapError_eq_ok_iff]

/-- The checks let a manifest pass exactly if the draft declares it and it is sound. -/
theorem ofDraft_eq_ok_iff {d : Draft} {m : Manifest} :
    ofDraft d = .ok m ↔ d.Declares m ∧ m.Sound := by
  rw [ofDraft, bind_eq_ok_iff]
  simp only [bind_eq_ok_iff, checkTypes_eq_ok_iff, optionMapM_eq_ok_iff, checkSource_eq_ok_iff]
  constructor
  · rintro ⟨source, hsource, ts, ⟨hts, hsound, hnodup, _⟩, heq⟩
    cases heq
    exact ⟨⟨hsource, hts⟩, ⟨hsound, hnodup⟩⟩
  · rintro ⟨⟨hsource, hts⟩, ⟨hsound, hnodup⟩⟩
    exact ⟨m.sourceVersion, hsource, m.types, ⟨hts, hsound, hnodup, by simp⟩, rfl⟩

end Manifest

end AccessorGen
