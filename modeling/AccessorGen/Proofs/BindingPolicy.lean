import AccessorGen.Proofs.Acceptance
import AccessorGen.Proofs.Escapes
import AccessorGen.Proofs.Metadata
import AccessorGen.Proofs.SynthesizedAnnotation

/-! Which annotation the override of an accessor carries, said of the annotations of the type and of
the accessor. -/
namespace AccessorGen

namespace AnnotationUse

variable {us : List AnnotationUse} {u : AnnotationUse} {type : QualifiedName}

theorem find?_eq_none_iff : find? us type = none ↔ ∀ u ∈ us, u.type ≠ type := by
  simp [find?]

/-- It is the first of its type that is found. -/
theorem find?_eq_some_iff : find? us type = some u ↔
    ∃ before after, us = before ++ u :: after ∧ u.type = type ∧ ∀ v ∈ before, v.type ≠ type := by
  rw [find?, List.find?_eq_some_iff_append]
  simp only [decide_eq_true_eq, Bool.not_eq_true', decide_eq_false_iff_not]
  constructor
  · rintro ⟨hu, before, after, hus, hbefore⟩
    exact ⟨before, after, hus, hu, hbefore⟩
  · rintro ⟨before, after, hus, hu, hbefore⟩
    exact ⟨hu, before, after, hus, hbefore⟩

theorem type_of_find? (h : find? us type = some u) : u ∈ us ∧ u.type = type := by
  obtain ⟨before, after, rfl, hu, _⟩ := find?_eq_some_iff.mp h
  exact ⟨by simp, hu⟩

end AnnotationUse

namespace JsonBinding

variable {t t' : ValueType} {a a' : Accessor} {name : String} {us us' : List AnnotationUse}
  {u : AnnotationUse} {e : AnnotationLine} {lines : List AnnotationLine}

theorem isActive_iff : isActive t = true ↔ ∃ u ∈ t.annotations, u.type = trigger := by
  simp [isActive, AnnotationUse.find?]

theorem decideFor_own (h : AnnotationUse.find? us jsonPropertyType = some u) :
    decideFor name us = (.copied, some (.copyOf u)) := by
  rw [decideFor, h]

theorem decideFor_suppressed (h : AnnotationUse.find? us jsonPropertyType = none)
    (hs : ∃ u ∈ us, u.type ∈ suppressing) : decideFor name us = (.suppressed, none) := by
  have hany : us.any (·.type ∈ suppressing) = true := by simpa using hs
  rw [decideFor, h]
  exact if_pos hany

theorem decideFor_new (h : AnnotationUse.find? us jsonPropertyType = none)
    (hs : ∀ u ∈ us, u.type ∉ suppressing) :
    decideFor name us = (.synthesized, some (.jsonProperty name)) := by
  have hany : ¬ us.any (·.type ∈ suppressing) = true := by simpa using hs
  rw [decideFor, h]
  exact if_neg hany

/-- What an accessor is due is an annotation it has or a new one. -/
theorem decideFor_cases (h : (decideFor name us).2 = some e) :
    (∃ u, AnnotationUse.find? us jsonPropertyType = some u ∧ e = .copyOf u) ∨
      (AnnotationUse.find? us jsonPropertyType = none ∧ e = .jsonProperty name) := by
  cases hfind : AnnotationUse.find? us jsonPropertyType with
  | some u =>
    rw [decideFor_own hfind] at h
    exact .inl ⟨u, rfl, (Option.some.inj h).symm⟩
  | none =>
    by_cases hs : ∃ u ∈ us, u.type ∈ suppressing
    · rw [decideFor_suppressed hfind hs] at h
      cases h
    · rw [decideFor_new hfind (by simpa using hs)] at h
      exact .inr ⟨rfl, (Option.some.inj h).symm⟩

/-- The annotations that the override of an accessor carries. -/
inductive Carries (t : ValueType) (a : Accessor) (name : String) : List AnnotationLine → Prop where
  | inactive (ht : ∀ u ∈ t.annotations, u.type ≠ trigger) : Carries t a name []
  /-- Annotations that keep a property from being named do not matter here. -/
  | own {before after : List AnnotationUse} {u : AnnotationUse}
      (ht : ∃ u ∈ t.annotations, u.type = trigger) (ha : a.annotations = before ++ u :: after)
      (hu : u.type = jsonPropertyType) (hfirst : ∀ v ∈ before, v.type ≠ jsonPropertyType) :
      Carries t a name [.copied u.literal]
  | suppressed (ht : ∃ u ∈ t.annotations, u.type = trigger)
      (hown : ∀ u ∈ a.annotations, u.type ≠ jsonPropertyType)
      (hs : ∃ u ∈ a.annotations, u.type ∈ suppressing) : Carries t a name []
  | new (ht : ∃ u ∈ t.annotations, u.type = trigger)
      (hown : ∀ u ∈ a.annotations, u.type ≠ jsonPropertyType)
      (hs : ∀ u ∈ a.annotations, u.type ∉ suppressing) :
      Carries t a name [.jsonProperty name]

theorem due_of_active (ht : ∃ u ∈ t.annotations, u.type = trigger) :
    a.due (isActive t) name = (decideFor name a.annotations).2 := by
  rw [Accessor.due, isActive_iff.mpr ht, if_pos rfl]

theorem due_of_inactive (ht : ∀ u ∈ t.annotations, u.type ≠ trigger) :
    a.due (isActive t) name = none := by
  have hinactive : ¬ isActive t = true := by simpa [isActive_iff] using ht
  rw [Accessor.due, if_neg hinactive]

/-- An accessor is due what its own annotation, a suppressing one or neither brings about. -/
theorem decideFor_by_annotations (name : String) (us : List AnnotationUse) :
    (∃ before u after, us = before ++ u :: after ∧ u.type = jsonPropertyType ∧
      (∀ v ∈ before, v.type ≠ jsonPropertyType) ∧
      decideFor name us = (.copied, some (.copied u.literal))) ∨
    ((∀ u ∈ us, u.type ≠ jsonPropertyType) ∧ (∃ u ∈ us, u.type ∈ suppressing) ∧
      decideFor name us = (.suppressed, none)) ∨
    ((∀ u ∈ us, u.type ≠ jsonPropertyType) ∧ (∀ u ∈ us, u.type ∉ suppressing) ∧
      decideFor name us = (.synthesized, some (.jsonProperty name))) := by
  cases hfind : AnnotationUse.find? us jsonPropertyType with
  | some u =>
    obtain ⟨before, after, hus, hu, hfirst⟩ := AnnotationUse.find?_eq_some_iff.mp hfind
    exact .inl ⟨before, u, after, hus, hu, hfirst, decideFor_own hfind⟩
  | none =>
    have hown := AnnotationUse.find?_eq_none_iff.mp hfind
    by_cases hs : ∃ u ∈ us, u.type ∈ suppressing
    · exact .inr (.inl ⟨hown, hs, decideFor_suppressed hfind hs⟩)
    · have hs : ∀ u ∈ us, u.type ∉ suppressing := by simpa using hs
      exact .inr (.inr ⟨hown, hs, decideFor_new hfind hs⟩)

theorem carries_due (t : ValueType) (a : Accessor) (name : String) :
    Carries t a name (a.due (isActive t) name).toList := by
  by_cases ht : ∃ u ∈ t.annotations, u.type = trigger
  · rw [due_of_active ht]
    rcases decideFor_by_annotations name a.annotations with
      ⟨before, u, after, ha, hu, hfirst, hdue⟩ | ⟨hown, hs, hdue⟩ | ⟨hown, hs, hdue⟩
    · rw [hdue]
      exact .own ht ha hu hfirst
    · rw [hdue]
      exact .suppressed ht hown hs
    · rw [hdue]
      exact .new ht hown hs
  · have ht : ∀ u ∈ t.annotations, u.type ≠ trigger := by simpa using ht
    rw [due_of_inactive ht]
    exact .inactive ht

/-- The cases exclude each other, so they say all that there is to say. -/
theorem eq_due_of_carries (h : Carries t a name lines) :
    lines = (a.due (isActive t) name).toList := by
  cases h with
  | inactive ht => rw [due_of_inactive ht, Option.toList_none]
  | own ht ha hu hfirst =>
    rw [due_of_active ht,
      decideFor_own (AnnotationUse.find?_eq_some_iff.mpr ⟨_, _, ha, hu, hfirst⟩)]
    rfl
  | suppressed ht hown hs =>
    rw [due_of_active ht, decideFor_suppressed (AnnotationUse.find?_eq_none_iff.mpr hown) hs,
      Option.toList_none]
  | new ht hown hs =>
    rw [due_of_active ht, decideFor_new (AnnotationUse.find?_eq_none_iff.mpr hown) hs,
      Option.toList_some]

/-- The annotations of an accessor that make a difference. -/
def matters (u : AnnotationUse) : Bool :=
  u.type = jsonPropertyType || u.type ∈ suppressing

theorem any_suppressing_filter (us : List AnnotationUse) :
    (us.filter matters).any (·.type ∈ suppressing) = us.any (·.type ∈ suppressing) := by
  rw [List.any_filter]
  congr 1
  funext u
  by_cases hs : u.type ∈ suppressing <;> simp [matters, hs]

theorem decideFor_congr
    (hown : AnnotationUse.find? us jsonPropertyType = AnnotationUse.find? us' jsonPropertyType)
    (hothers : (us.filter matters).Perm (us'.filter matters)) :
    decideFor name us = decideFor name us' := by
  have hany : us.any (·.type ∈ suppressing) = us'.any (·.type ∈ suppressing) := by
    rw [← any_suppressing_filter us, ← any_suppressing_filter us']
    exact hothers.any_eq
  rw [decideFor, decideFor, hown, hany]

/-- The accessors differ in the order of their annotations, behind the first one that names the
property, and in annotations that make no difference. -/
structure AccessorsAlike (a a' : Accessor) : Prop where
  name : a.name = a'.name
  returnType : a.returnType = a'.returnType
  own : AnnotationUse.find? a.annotations jsonPropertyType =
    AnnotationUse.find? a'.annotations jsonPropertyType
  others : (a.annotations.filter matters).Perm (a'.annotations.filter matters)

structure TypesAlike (t t' : ValueType) : Prop where
  name : t.name = t'.name
  annotations : (t.annotations.filter (·.type = trigger)).Perm
    (t'.annotations.filter (·.type = trigger))
  accessors : List.Forall₂ AccessorsAlike t.accessors t'.accessors

theorem TypesAlike.isActive_eq (h : TypesAlike t t') : isActive t = isActive t' := by
  have hmem (t : ValueType) : isActive t = true ↔
      ∃ u, u ∈ t.annotations.filter (·.type = trigger) := by
    simp [isActive_iff]
  rw [Bool.eq_iff_iff, hmem, hmem]
  simp only [h.annotations.mem_iff]

theorem AccessorsAlike.property_eq (h : AccessorsAlike a a') (active : Bool) :
    a.property active = a'.property active := by
  funext name
  rw [Accessor.property_eq, Accessor.property_eq, Accessor.due, Accessor.due, h.name,
    h.returnType, decideFor_congr h.own h.others]

theorem TypesAlike.metadata_eq (h : TypesAlike t t') : t.metadata = t'.metadata := by
  have hnames : t.propertyNames = t'.propertyNames := by
    refine ValueType.propertyNames_congr (Manifest.map_eq_map_of_forall₂ h.accessors ?_)
    intro a a' ha
    rw [ha.name, ha.returnType]
  have hproperties (active : Bool) : t.accessors.map (Accessor.property active) =
      t'.accessors.map (Accessor.property active) :=
    Manifest.map_eq_map_of_forall₂ h.accessors fun a a' ha => ha.property_eq active
  have hzip (t : ValueType) : t.accessors.zipWith (Accessor.property (isActive t))
      t.propertyNames = (t.accessors.map (Accessor.property (isActive t))).zipWith
        (fun property name => property name) t.propertyNames := by
    rw [List.zipWith_map_left]
  rw [ValueType.metadata, ValueType.metadata, hzip, hzip, h.name, hnames, h.isActive_eq,
    hproperties]

end JsonBinding

section NewAnnotations

/-- Whether the annotation was made, and not copied. -/
def AnnotationLine.isNew : AnnotationLine → Bool
  | copied _ => false
  | jsonProperty _ => true

theorem AnnotationLine.jsonProperty_inj {name name' : String}
    (h : toString (jsonProperty name) = toString (jsonProperty name')) : name = name' := by
  rw [toString_jsonProperty, toString_jsonProperty] at h
  have hchars := List.append_cancel_left (List.cons.inj (String.ofList_injective h)).2
  exact String.toList_injective
    (StringLiteral.encode_append_inj (List.cons.inj hchars).2).1

/-- The texts of the annotations that are made for a type. -/
def ValueType.newTexts (t : ValueType) : List String :=
  ((t.metadata.properties.flatMap Property.accessorAnnotations).filter
    AnnotationLine.isNew).map toString

theorem Accessor.filter_due_sublist (active : Bool) (a : Accessor) (name : String) :
    ((a.due active name).toList.filter AnnotationLine.isNew).Sublist [.jsonProperty name] := by
  cases hdue : a.due active name with
  | none => exact List.nil_sublist _
  | some e =>
    rcases JsonBinding.decideFor_cases (decideFor_of_due hdue) with ⟨u, _, rfl⟩ | ⟨_, rfl⟩
    · exact List.nil_sublist _
    · exact List.Sublist.refl _

theorem flatMap_sublist_map {α β : Type} {f : α → List β} {g : α → β}
    (h : ∀ a, (f a).Sublist [g a]) (l : List α) : (l.flatMap f).Sublist (l.map g) := by
  induction l with
  | nil => exact List.nil_sublist _
  | cons a l ih => exact (h a).append ih

theorem ValueType.nodup_newTexts {t : ValueType} (ht : t.Sound) : t.newTexts.Nodup := by
  have hsublist : t.newTexts.Sublist
      (t.propertyNames.map fun name => toString (AnnotationLine.jsonProperty name)) := by
    have hnew : ((t.metadata.properties.flatMap Property.accessorAnnotations).filter
        AnnotationLine.isNew).Sublist (t.propertyNames.map AnnotationLine.jsonProperty) := by
      rw [properties_eq_map, List.flatMap_map, List.filter_flatMap, propertyNames_eq_map,
        List.map_map]
      refine flatMap_sublist_map (fun a => ?_) t.accessors
      rw [Accessor.property_accessorAnnotations]
      exact Accessor.filter_due_sublist _ _ _
    rw [← Function.comp_def, ← List.map_map]
    exact hnew.map toString
  exact (ht.propertyNames.map fun _ _ => AnnotationLine.jsonProperty_inj).sublist hsublist

end NewAnnotations

/-- There is one property for each accessor, which carries what the policy says. Annotations that
the policy does not look at and the order of the others are all the same to it, and the annotations
made for a type of an accepted manifest are all different. -/
theorem ValueType.metadata_by_policy (t : ValueType) :
    t.metadata.typeName = t.name ∧
    t.metadata.properties.length = t.accessors.length ∧
    (∀ (i : Nat) (a : Accessor), t.accessors[i]? = some a → ∃ (name : String) (p : Property),
      t.propertyNames[i]? = some name ∧ t.metadata.properties[i]? = some p ∧
        p.name = name ∧ p.getterName = a.name ∧ p.typeName = a.returnType ∧
        ∀ lines, p.accessorAnnotations = lines ↔ JsonBinding.Carries t a name lines) ∧
    (∀ t', JsonBinding.TypesAlike t t' → t.metadata = t'.metadata) ∧
    ∀ d m, Manifest.ofDraft d = .ok m → t ∈ m.types → t.newTexts.Nodup := by
  refine ⟨rfl, ?_, ?_, fun t' h => h.metadata_eq, ?_⟩
  · rw [properties_eq_map, List.length_map]
  · intro i a ha
    refine ⟨t.propertyName a, a.property (JsonBinding.isActive t) (t.propertyName a), ?_, ?_,
      Accessor.property_name _ _ _, Accessor.property_getterName _ _ _,
      Accessor.property_typeName _ _ _, fun lines => ?_⟩
    · rw [propertyNames_eq_map, List.getElem?_map, ha, Option.map_some]
    · rw [properties_eq_map, List.getElem?_map, ha, Option.map_some]
    · rw [Accessor.property_accessorAnnotations]
      constructor
      · rintro rfl
        exact JsonBinding.carries_due t a _
      · intro h
        exact (JsonBinding.eq_due_of_carries h).symm
  · intro d m h ht
    exact nodup_newTexts ((Manifest.ofDraft_eq_ok_iff.mp h).2.types t ht)

section Example

open JsonBinding

def ignored : AnnotationUse := .marker ⟨"com.fasterxml.jackson.annotation", "JsonIgnore"⟩

def renamed : AnnotationUse :=
  ⟨jsonPropertyType, "@com.fasterxml.jackson.annotation.JsonProperty(\"years\")"⟩

/-- The first accessor is renamed in spite of being ignored, and the others are named anew. -/
def renamingDraft : Manifest.Draft :=
  let text (s : String) : Spanned String := ⟨s, ⟨0, s.utf8ByteSize⟩⟩
  ⟨none, [⟨text "a.B", [text (toString (AnnotationUse.marker trigger))],
    [⟨text "getAge", text "int", [text (toString ignored), text (toString renamed)]⟩,
      ⟨text "getName", text "String", []⟩, ⟨text "isOld", text "boolean", []⟩]⟩]⟩

def renamingType : ValueType :=
  ⟨⟨"a", "B"⟩, [.marker trigger],
    [⟨"getAge", "int", [ignored, renamed]⟩, ⟨"getName", "String", []⟩,
      ⟨"isOld", "boolean", []⟩]⟩

/-- The same type with other annotations and in another order. -/
def shuffledType : ValueType :=
  ⟨⟨"a", "B"⟩, [.marker ⟨"c", "D"⟩, .marker trigger],
    [⟨"getAge", "int", [renamed, .marker ⟨"c", "D"⟩, ignored]⟩,
      ⟨"getName", "String", [.marker ⟨"c", "D"⟩]⟩, ⟨"isOld", "boolean", []⟩]⟩

theorem renamingType_by_policy : Manifest.ofDraft renamingDraft = .ok ⟨none, [renamingType]⟩ ∧
    TypesAlike renamingType shuffledType ∧ renamingType.metadata = shuffledType.metadata ∧
    renamingType.newTexts.length = 2 ∧ renamingType.newTexts.Nodup := by
  have haccepted : Manifest.ofDraft renamingDraft = .ok ⟨none, [renamingType]⟩ := by
    decide +kernel
  have halike : TypesAlike renamingType shuffledType :=
    ⟨rfl, by decide, .cons ⟨rfl, rfl, by decide, by decide⟩
      (.cons ⟨rfl, rfl, by decide, by decide⟩ (.cons ⟨rfl, rfl, rfl, by decide⟩ .nil))⟩
  obtain ⟨_, _, _, hmetadata, hdistinct⟩ := renamingType.metadata_by_policy
  exact ⟨haccepted, halike, hmetadata _ halike, rfl, hdistinct _ _ haccepted List.mem_cons_self⟩

end Example

end AccessorGen
