import AccessorGen.Proofs.Identifier
import AccessorGen.Proofs.ManifestChecking
import AccessorGen.Proofs.Metadata
import AccessorGen.Proofs.Text

/-! Accessors are checked under their own names. The names of their properties are not checked
again, and two kinds of stems turn into names that are no identifiers. -/
namespace AccessorGen

namespace PropertyName

variable {stem name : String} {c : Char} {rest : List Char}

def capitalize : List Char → List Char
  | [] => []
  | c :: rest => c.toUpper :: rest

/-- The stem is a reserved word, up to its capital. -/
def HidesReserved (stem : String) : Prop :=
  ∃ word ∈ Identifier.reserved, stem.toList = capitalize word.toList

/-- The stem starts with the dotted capital I, whose lower case brings a dot of its own. A second
capital would have kept the first. -/
def HidesDot (stem : String) : Prop :=
  ∃ rest, stem.toList = '\u0130' :: rest ∧ startsUppercase rest = false

/-- The first character ends where its bytes do, however many it has. -/
theorem behindFirst?_cons : behindFirst? (c :: rest) = some rest := by
  have hcut : Text.splitAtByte? c.utf8Size (c :: rest) = some ([c], rest) :=
    Text.splitAtByte?_byteLength [c] rest
  rw [behindFirst?, List.head?_cons, Option.bind_some, hcut]
  rfl

theorem decapitalizeChars_cons (hc : Unicode.isUppercase c = true) :
    decapitalizeChars (c :: rest) =
      if startsUppercase rest then c :: rest else Unicode.lowercase c ++ rest := by
  rw [decapitalizeChars, hc, Bool.true_and, behindFirst?_cons, Option.getD_some]

theorem decapitalize_of_hidesReserved (h : HidesReserved stem) :
    decapitalize stem ∈ Identifier.reserved := by
  obtain ⟨word, hword, hstem⟩ := h
  have hall : ∀ word ∈ Identifier.reserved,
      decapitalizeChars (capitalize word.toList) = word.toList := by decide
  rw [decapitalize, hstem, hall word hword, String.ofList_toList]
  exact hword

theorem fault?_of_hidesReserved (h : HidesReserved stem) :
    Identifier.fault? (decapitalize stem) = some .reserved :=
  Identifier.fault?_of_mem_reserved (decapitalize_of_hidesReserved h)

theorem fault?_of_hidesDot (h : HidesDot stem) :
    Identifier.fault? (decapitalize stem) = some .badPart := by
  obtain ⟨rest, hstem, hrest⟩ := h
  have hdot : Identifier.isPart '\u0307' = false := by decide +kernel
  have hlower : Unicode.lowercase '\u0130' = ['i', '\u0307'] := by decide
  rw [decapitalize, hstem, decapitalizeChars_cons (by decide +kernel), hrest, hlower,
    if_neg (by decide), List.cons_append, Identifier.fault?_cons (by decide),
    if_pos (by simp [hdot])]

/-- Where the first letter alone is put in lower case, it was a small letter's own capital if a
reserved word came of it. -/
theorem hidesReserved_of_mem {d : Char} (hstem : stem.toList = c :: rest)
    (hcapital : d.isLower = true → d ≠ 'k' → c.isUpper = true ∧ d = c.toLower)
    (hmem : String.ofList (d :: rest) ∈ Identifier.reserved) : HidesReserved stem := by
  obtain ⟨e, _, hword, hlower, hk⟩ := Identifier.reserved_head hmem
  rw [String.toList_ofList, List.cons.injEq] at hword
  obtain ⟨rfl, _⟩ := hword
  obtain ⟨hupper, rfl⟩ := hcapital hlower hk
  refine ⟨_, hmem, ?_⟩
  rw [hstem, String.toList_ofList, capitalize, (Unicode.toLower_of_isUpper hupper).2]

theorem mem_lowercase {d : Char} (hc : Unicode.isUppercase c = true)
    (hd : d ∈ Unicode.lowercase c) : Identifier.isPart d = true ∨ d = '\u0307' := by
  by_cases hdot : c = '\u0130'
  · have hlower : Unicode.lowercase '\u0130' = ['i', '\u0307'] := by decide
    rw [hdot, hlower, List.mem_cons, List.mem_singleton] at hd
    rcases hd with rfl | rfl
    · exact .inl (by decide)
    · exact .inr rfl
  · obtain ⟨e, he, halpha, _⟩ := Unicode.lowercase_of_isUppercase hc hdot
    rw [he, List.mem_singleton] at hd
    rw [hd]
    exact .inl (Identifier.isPart_of_isStart (Identifier.isStart_of_isAlphabetic halpha))

theorem fault?_eq_none (hupper : startsUppercase stem.toList = true)
    (hparts : ∀ c ∈ stem.toList, Identifier.isPart c = true)
    (hreserved : ¬ HidesReserved stem) (hdot : ¬ HidesDot stem) :
    Identifier.fault? (decapitalize stem) = none := by
  cases hstem : stem.toList with
  | nil =>
    rw [hstem] at hupper
    cases hupper
  | cons c rest =>
    rw [hstem] at hparts hupper
    have hc : Unicode.isUppercase c = true := hupper
    have hrest := (List.forall_mem_cons.mp hparts).2
    rw [decapitalize, hstem, decapitalizeChars_cons hc]
    cases hkeep : startsUppercase rest with
    | true =>
      have halpha := Unicode.isAlphabetic_of_isUppercase hc
      have hlegal : String.ofList (c :: rest) ∉ Identifier.reserved :=
        Identifier.not_mem_reserved_of_isUppercase hc
      exact Identifier.fault?_cons_eq_none halpha hrest hlegal
    | false =>
      have hne : c ≠ '\u0130' := by
        rintro rfl
        exact hdot ⟨rest, hstem, hkeep⟩
      obtain ⟨d, hd, halpha, hcapital⟩ := Unicode.lowercase_of_isUppercase hc hne
      rw [if_neg (by decide), hd, List.singleton_append]
      refine Identifier.fault?_cons_eq_none halpha hrest fun hmem => ?_
      exact hreserved (hidesReserved_of_mem hstem hcapital hmem)

/-- The dot that the dotted capital I leaves is the only character that a stem does not have. -/
theorem mem_decapitalize (hupper : startsUppercase stem.toList = true)
    (hparts : ∀ c ∈ stem.toList, Identifier.isPart c = true) :
    ∀ c ∈ (decapitalize stem).toList, Identifier.isPart c = true ∨ c = '\u0307' := by
  cases hstem : stem.toList with
  | nil =>
    rw [hstem] at hupper
    cases hupper
  | cons first rest =>
    rw [hstem] at hparts hupper
    have hfirst : Unicode.isUppercase first = true := hupper
    have hrest := (List.forall_mem_cons.mp hparts).2
    intro c hc
    rw [decapitalize, hstem, decapitalizeChars_cons hfirst, String.toList_ofList] at hc
    split at hc
    · exact .inl (hparts c hc)
    · rcases List.mem_append.mp hc with hc | hc
      · exact mem_lowercase hfirst hc
      · exact .inl (hrest c hc)

theorem afterVerb?_suffix {boolean : Bool} {l : List Char}
    (h : afterVerb? boolean l = some rest) : rest <:+ l := by
  rw [afterVerb?.eq_def] at h
  split at h
  · cases h
    exact ⟨['g', 'e', 't'], rfl⟩
  · cases boolean with
    | false => cases h
    | true =>
      cases h
      exact ⟨['i', 's'], rfl⟩
  · cases h

theorem startsUppercase_of_stem? {boolean : Bool} (h : stem? name boolean = some stem) :
    startsUppercase stem.toList = true ∧ stem.toList ⊆ name.toList := by
  rw [stem?, Option.map_eq_some_iff] at h
  obtain ⟨rest, hrest, rfl⟩ := h
  obtain ⟨hverb, hupper⟩ := Option.filter_eq_some_iff.mp hrest
  rw [String.toList_ofList]
  exact ⟨hupper, (afterVerb?_suffix hverb).subset⟩

end PropertyName

namespace ValueType

variable {t : ValueType} {p : Property}

/-- The name of the property comes from a stem of the given kind. -/
def Exposes (t : ValueType) (p : Property) (hides : String → Prop) : Prop :=
  t.AllStemmed ∧ ∃ stem,
    PropertyName.stem? p.getterName (p.typeName == "boolean") = some stem ∧ hides stem

open PropertyName

/-- A property is called after the stem of its accessor's name, or just as the accessor. -/
theorem name_cases (hp : p ∈ t.metadata.properties) :
    (t.AllStemmed ∧ ∃ stem, stem? p.getterName (p.typeName == "boolean") = some stem ∧
      p.name = decapitalize stem) ∨ ¬ t.AllStemmed ∧ p.name = p.getterName := by
  obtain ⟨a, ha, rfl⟩ := mem_properties_iff.mp hp
  rw [Accessor.property_name, Accessor.property_getterName, Accessor.property_typeName,
    propertyName]
  by_cases hall : t.AllStemmed
  · obtain ⟨stem, hstem⟩ := Option.isSome_iff_exists.mp (hall a ha)
    refine .inl ⟨hall, stem, hstem, ?_⟩
    rw [if_pos hall, hstem, Option.getD_some]
  · exact .inr ⟨hall, if_neg hall⟩

theorem fault?_getterName (ht : t.Sound) (hp : p ∈ t.metadata.properties) :
    Identifier.fault? p.getterName = none := by
  obtain ⟨a, ha, rfl⟩ := mem_properties_iff.mp hp
  rw [Accessor.property_getterName]
  exact (ht.accessors a ha).name

theorem isPart_of_mem_getterName (ht : t.Sound) (hp : p ∈ t.metadata.properties) :
    ∀ c ∈ p.getterName.toList, Identifier.isPart c = true :=
  Identifier.isPart_of_fault?_eq_none (fault?_getterName ht hp)

theorem isPart_of_mem_stem {boolean : Bool} {stem : String} (ht : t.Sound)
    (hp : p ∈ t.metadata.properties) (hstem : stem? p.getterName boolean = some stem) :
    ∀ c ∈ stem.toList, Identifier.isPart c = true := by
  intro c hc
  exact isPart_of_mem_getterName ht hp c ((startsUppercase_of_stem? hstem).2 hc)

theorem mem_name (ht : t.Sound) (hp : p ∈ t.metadata.properties) :
    ∀ c ∈ p.name.toList, Identifier.isPart c = true ∨ c = '\u0307' := by
  rcases name_cases hp with ⟨_, stem, hstem, hname⟩ | ⟨_, hname⟩
  · rw [hname]
    exact mem_decapitalize (startsUppercase_of_stem? hstem).1 (isPart_of_mem_stem ht hp hstem)
  · rw [hname]
    intro c hc
    exact .inl (isPart_of_mem_getterName ht hp c hc)

/-- A name that is kept is the accessor's, which has been checked. -/
theorem fault?_of_not_exposes (ht : t.Sound) (hp : p ∈ t.metadata.properties)
    (hreserved : ¬ t.Exposes p HidesReserved) (hdot : ¬ t.Exposes p HidesDot) :
    Identifier.fault? p.name = none := by
  rcases name_cases hp with ⟨hall, stem, hstem, hname⟩ | ⟨_, hname⟩
  · have hupper := (startsUppercase_of_stem? hstem).1
    rw [hname]
    exact fault?_eq_none hupper (isPart_of_mem_stem ht hp hstem)
      (fun h => hreserved ⟨hall, stem, hstem, h⟩) (fun h => hdot ⟨hall, stem, hstem, h⟩)
  · rw [hname]
    exact fault?_getterName ht hp

theorem name_of_exposes {hides : String → Prop} (hp : p ∈ t.metadata.properties)
    (h : t.Exposes p hides) : ∃ stem, p.name = decapitalize stem ∧ hides stem := by
  obtain ⟨hall, stem, hstem, hhides⟩ := h
  rcases name_cases hp with ⟨_, other, hother, hname⟩ | ⟨hnot, _⟩
  · rw [hstem] at hother
    cases hother
    exact ⟨stem, hname, hhides⟩
  · exact absurd hall hnot

theorem fault?_of_exposes_reserved (hp : p ∈ t.metadata.properties)
    (h : t.Exposes p HidesReserved) : Identifier.fault? p.name = some .reserved := by
  obtain ⟨stem, hname, hhides⟩ := name_of_exposes hp h
  rw [hname]
  exact fault?_of_hidesReserved hhides

theorem fault?_of_exposes_dot (hp : p ∈ t.metadata.properties)
    (h : t.Exposes p HidesDot) : Identifier.fault? p.name = some .badPart := by
  obtain ⟨stem, hname, hhides⟩ := name_of_exposes hp h
  rw [hname]
  exact fault?_of_hidesDot hhides

end ValueType

namespace Manifest

open PropertyName

/-- The exact faults of property names in accepted manifests. The accessors' own names have
none. -/
theorem accepted_property_fault? {d : Draft} {m : Manifest} {t : ValueType} {p : Property}
    (h : ofDraft d = .ok m) (ht : t ∈ m.types) (hp : p ∈ t.metadata.properties) :
    Identifier.fault? p.getterName = none ∧
      (Identifier.fault? p.name = none ↔
        ¬ t.Exposes p HidesReserved ∧ ¬ t.Exposes p HidesDot) ∧
      (Identifier.fault? p.name = some .reserved ↔ t.Exposes p HidesReserved) ∧
      (Identifier.fault? p.name = some .badPart ↔ t.Exposes p HidesDot) := by
  have hsound := (ofDraft_eq_ok_iff.mp h).2.types t ht
  have hgetter : Identifier.fault? p.getterName = none := by
    obtain ⟨a, ha, rfl⟩ := ValueType.mem_properties_iff.mp hp
    rw [Accessor.property_getterName]
    exact (hsound.accessors a ha).name
  refine ⟨hgetter, ?_⟩
  by_cases hreserved : t.Exposes p HidesReserved
  · have hfault := ValueType.fault?_of_exposes_reserved hp hreserved
    have hdot : ¬ t.Exposes p HidesDot := by
      intro hdot
      rw [ValueType.fault?_of_exposes_dot hp hdot] at hfault
      cases hfault
    simp [hfault, hreserved, hdot]
  · by_cases hdot : t.Exposes p HidesDot
    · have hfault := ValueType.fault?_of_exposes_dot hp hdot
      simp [hfault, hreserved, hdot]
    · have hfault := ValueType.fault?_of_not_exposes hsound hp hreserved hdot
      simp [hfault, hreserved, hdot]

/-- The type `a.B` with the one accessor `String getClass()`. -/
def getClassDraft : Draft :=
  ⟨none, [⟨⟨"a.B", ⟨17, 5⟩⟩, [],
    [⟨⟨"getClass", ⟨50, 10⟩⟩, ⟨"String", ⟨68, 8⟩⟩, []⟩]⟩]⟩

def getClassType : ValueType := ⟨⟨"a", "B"⟩, [], [⟨"getClass", "String", []⟩]⟩

theorem ofDraft_getClassDraft : ofDraft getClassDraft = .ok ⟨none, [getClassType]⟩ := rfl

theorem class_mem_properties :
    ⟨"class", "getClass", "String", []⟩ ∈ getClassType.metadata.properties := by
  decide

theorem accepted_property_fault?_getClass :
    ofDraft getClassDraft = .ok ⟨none, [getClassType]⟩ ∧
      Identifier.fault? "getClass" = none ∧ Identifier.fault? "class" = some .reserved := by
  have hexposes : getClassType.Exposes ⟨"class", "getClass", "String", []⟩ HidesReserved :=
    ⟨by decide, "Class", by decide, "class", by decide, by decide⟩
  obtain ⟨hgetter, _, hreserved, _⟩ :=
    accepted_property_fault? ofDraft_getClassDraft List.mem_cons_self class_mem_properties
  exact ⟨ofDraft_getClassDraft, hgetter, hreserved.mpr hexposes⟩

/-- Not every property of an accepted manifest has an identifier for its name. -/
theorem accepted_property_not_identifier : ¬ ∀ (d : Draft) (m : Manifest), ofDraft d = .ok m →
    ∀ t ∈ m.types, ∀ p ∈ t.metadata.properties, Identifier.fault? p.name = none := by
  intro hlegal
  have hnone := hlegal _ _ ofDraft_getClassDraft _ List.mem_cons_self _ class_mem_properties
  have hreserved : Identifier.fault? "class" = some .reserved := by decide
  rw [hreserved] at hnone
  cases hnone

end Manifest

end AccessorGen
