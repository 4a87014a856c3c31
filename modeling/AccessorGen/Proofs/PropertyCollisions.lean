import AccessorGen.Proofs.Checks
import AccessorGen.Proofs.PropertyNameFaults

/-! When two accessors of one type have the same property. Putting a first letter in lower case
keeps ASCII names apart, so it takes two verbs before the same rest. -/
namespace AccessorGen

namespace PropertyName

variable {name stem : String} {s t rest : List Char} {boolean : Bool} {c : Char}

theorem afterVerb?_eq_some_iff : afterVerb? boolean s = some rest ↔
    s = 'g' :: 'e' :: 't' :: rest ∨ boolean = true ∧ s = 'i' :: 's' :: rest := by
  rw [afterVerb?.eq_def]
  split
  next => simp
  next => cases boolean <;> simp
  next hget his =>
    simp only [reduceCtorEq, false_iff, not_or, not_and]
    exact ⟨hget rest, fun _ => his rest⟩

theorem stem?_eq_some_iff : stem? name boolean = some stem ↔
    startsUppercase stem.toList = true ∧
      (name = "get" ++ stem ∨ boolean = true ∧ name = "is" ++ stem) := by
  have hverb (verb : String) : name = verb ++ stem ↔
      name.toList = verb.toList ++ stem.toList := by
    rw [← String.toList_append, String.toList_inj]
  rw [stem?, Option.map_eq_some_iff]
  simp only [Option.filter_eq_some_iff, afterVerb?_eq_some_iff, hverb]
  constructor
  · rintro ⟨rest, ⟨hrest, hupper⟩, rfl⟩
    rw [String.toList_ofList]
    exact ⟨hupper, hrest⟩
  · rintro ⟨hupper, hname⟩
    exact ⟨stem.toList, ⟨hname, hupper⟩, String.ofList_toList⟩

/-- Whether the first letter was put in lower case or not, its capital is the letter that it was. -/
theorem capitalize_decapitalizeChars (hs : startsUppercase s = true)
    (hascii : ∀ c ∈ s.head?, c.toNat < 128) : capitalize (decapitalizeChars s) = s := by
  cases s with
  | nil => rfl
  | cons c rest =>
    have hc : Unicode.isUppercase c = true := hs
    have hlt : c.toNat < 128 := hascii c rfl
    have hupper : c.isUpper = true := by rwa [Unicode.isUppercase, if_pos hlt] at hc
    rw [decapitalizeChars_cons hc]
    split
    · rw [capitalize, Unicode.toUpper_of_isUpper hupper]
    · rw [Unicode.lowercase_of_lt hlt, List.singleton_append, capitalize,
        (Unicode.toLower_of_isUpper hupper).2]

theorem decapitalizeChars_inj (hs : startsUppercase s = true) (ht : startsUppercase t = true)
    (hsascii : ∀ c ∈ s.head?, c.toNat < 128) (htascii : ∀ c ∈ t.head?, c.toNat < 128)
    (h : decapitalizeChars s = decapitalizeChars t) : s = t := by
  rw [← capitalize_decapitalizeChars hs hsascii, h, capitalize_decapitalizeChars ht htascii]

end PropertyName

namespace Manifest

variable {seen : List (QualifiedName × Span)} {d : TypeDraft} {a b : AccessorDraft}
  {n : QualifiedName} {x y : String}

/-- The name starts with a verb and a capital. The verb `is` is one of accessors of type `boolean`
alone. -/
def AccessorDraft.Prefixed (a : AccessorDraft) : Prop :=
  ∃ c rest, Unicode.isUppercase c = true ∧
    (a.name.value = "get" ++ String.ofList (c :: rest) ∨
      a.returnType.value = "boolean" ∧ a.name.value = "is" ++ String.ofList (c :: rest))

def AccessorDraft.Ascii (a : AccessorDraft) : Prop := ∀ c ∈ a.name.value.toList, c.toNat < 128

namespace TypeDraft

/-- None of the checks before that of the properties has anything against the type. -/
structure Clear (d : TypeDraft) (seen : List (QualifiedName × Span)) (n : QualifiedName) :
    Prop where
  name : QualifiedName.parse d.name.value = .ok n
  new : n ∉ seen.map Prod.fst
  annotations : ∀ text ∈ d.annotations, ∃ u, AnnotationUse.parse text.value = .ok u
  accessors : ∀ a ∈ d.accessors, a.Valid
  accessorNames : (d.accessors.map (·.name.value)).Nodup

/-- The type is refused for two accessors with the same property. -/
def Collides (d : TypeDraft) (seen : List (QualifiedName × Span)) (n : QualifiedName) : Prop :=
  ∃ property first second, checkType seen d = .error (.duplicateProperty n property first second)

end TypeDraft

theorem AccessorDraft.stem?_eq_some_iff : a.bare.stem? = some x ↔
    PropertyName.startsUppercase x.toList = true ∧ (a.name.value = "get" ++ x ∨
      a.returnType.value = "boolean" ∧ a.name.value = "is" ++ x) := by
  rw [Accessor.stem?, PropertyName.stem?_eq_some_iff, Accessor.isBoolean, beq_iff_eq]
  rfl

theorem AccessorDraft.prefixed_iff : a.Prefixed ↔ ∃ x, a.bare.stem? = some x := by
  simp only [stem?_eq_some_iff]
  constructor
  · rintro ⟨c, rest, hc, hname⟩
    exact ⟨String.ofList (c :: rest), by simpa [PropertyName.startsUppercase] using hc, hname⟩
  · rintro ⟨x, hupper, hname⟩
    obtain ⟨c, rest, hx⟩ : ∃ c rest, x.toList = c :: rest := by
      cases hx : x.toList with
      | nil =>
        rw [hx] at hupper
        cases hupper
      | cons c rest => exact ⟨c, rest, rfl⟩
    have hlist : x = String.ofList (c :: rest) := by rw [← hx, String.ofList_toList]
    rw [hx] at hupper
    exact ⟨c, rest, hupper, hlist ▸ hname⟩

/-- All that is left of the check is that of the properties. -/
theorem exists_checkType_eq (h : d.Clear seen n) : ∃ t, d.Declares t ∧ t.name = n ∧
    checkType seen d = do
      checkProperties t (d.accessors.map (·.name.span))
      return t := by
  obtain ⟨us, hus⟩ := exists_forall₂_iff.mpr h.annotations
  have hvalid : ∀ a ∈ d.accessors, ∃ b, a.Declares b ∧ b.Sound :=
    fun a ha => AccessorDraft.valid_iff.mp (h.accessors a ha)
  obtain ⟨as, has⟩ := exists_forall₂_iff.mpr hvalid
  obtain ⟨hdecl, hsound⟩ := forall₂_and_right_iff.mp has
  have hd : d.Declares ⟨n, us, as⟩ := ⟨h.name, hus, hdecl⟩
  have hname : checkTypeName seen d.name = .ok n := checkTypeName_eq_ok_iff.mpr ⟨h.name, h.new⟩
  have hannotations : d.annotations.mapM checkAnnotationUse = .ok us :=
    checkAnnotationUses_eq_ok_iff.mpr hus
  have hnodup : (as.map Accessor.name).Nodup := hd.accessorNames_eq ▸ h.accessorNames
  have haccessors : checkAccessors n [] d.accessors = .ok as :=
    checkAccessors_eq_ok_iff.mpr ⟨hdecl, hsound, hnodup, by simp⟩
  refine ⟨_, hd, rfl, ?_⟩
  simp only [checkType, hname, hannotations, haccessors, bind, Except.bind]

theorem collides_iff (h : d.Clear seen n) : d.Collides seen n ↔ ¬ d.propertyNames.Nodup := by
  obtain ⟨t, hd, rfl, hcheck⟩ := exists_checkType_eq h
  have hlen : t.accessors.length = (d.accessors.map (·.name.span)).length := by
    rw [List.length_map, hd.accessors.length_eq]
  rw [← hd.propertyNames_eq, ← checkProperties_eq_ok_iff hlen, TypeDraft.Collides, hcheck,
    checkProperties]
  cases repeated? [] (t.propertyNames.zip (d.accessors.map (·.name.span))) with
  | none => simp [refuse, bind, Except.bind, pure, Except.pure]
  | some found => simp [refuse, bind, Except.bind]

/-- The verbs are dropped where all accessors have one. -/
theorem propertyName_of_prefixed (h : ∀ a ∈ d.accessors, a.Prefixed) (hx : a.bare.stem? = some x) :
    d.propertyName a = PropertyName.decapitalize x := by
  rw [TypeDraft.propertyName, ValueType.propertyName, if_pos, hx, Option.getD_some]
  simp only [ValueType.AllStemmed, List.forall_mem_map, Option.isSome_iff_exists]
  exact fun b hb => AccessorDraft.prefixed_iff.mp (h b hb)

theorem propertyName_of_not_prefixed (h : ¬ ∀ a ∈ d.accessors, a.Prefixed) (a : AccessorDraft) :
    d.propertyName a = a.name.value := by
  rw [TypeDraft.propertyName, ValueType.propertyName, if_neg]
  · rfl
  simp only [ValueType.AllStemmed, List.forall_mem_map, Option.isSome_iff_exists]
  exact fun hall => h fun b hb => AccessorDraft.prefixed_iff.mpr (hall b hb)

theorem collides_iff_exists (h : d.Clear seen n) : d.Collides seen n ↔
    ∃ a ∈ d.accessors, ∃ b ∈ d.accessors, d.propertyName a = d.propertyName b ∧ a ≠ b := by
  have hnodup : d.accessors.Nodup := List.Nodup.of_map _ h.accessorNames
  rw [collides_iff h, d.propertyNames_eq_map, List.nodup_map_iff_inj_on hnodup]
  simp only [not_forall, exists_prop]

/-- Accessors are told apart by their names. -/
theorem TypeDraft.Clear.eq_of_name (h : d.Clear seen n) (ha : a ∈ d.accessors)
    (hb : b ∈ d.accessors) (hname : a.name.value = b.name.value) : a = b :=
  List.inj_on_of_nodup_map h.accessorNames ha hb hname

theorem prefixed_of_collides (h : d.Clear seen n) (hcollides : d.Collides seen n) :
    ∀ a ∈ d.accessors, a.Prefixed := by
  obtain ⟨a, ha, b, hb, hproperty, hne⟩ := (collides_iff_exists h).mp hcollides
  by_contra hnot
  rw [propertyName_of_not_prefixed hnot, propertyName_of_not_prefixed hnot] at hproperty
  exact hne (h.eq_of_name ha hb hproperty)

theorem stem_eq_of_propertyName_eq (hall : ∀ a ∈ d.accessors, a.Prefixed)
    (hx : a.bare.stem? = some x) (hy : b.bare.stem? = some y) (ha : a.Ascii) (hb : b.Ascii)
    (hproperty : d.propertyName a = d.propertyName b) : x = y := by
  rw [propertyName_of_prefixed hall hx, propertyName_of_prefixed hall hy] at hproperty
  obtain ⟨hxupper, hxsubset⟩ := PropertyName.startsUppercase_of_stem? hx
  obtain ⟨hyupper, hysubset⟩ := PropertyName.startsUppercase_of_stem? hy
  apply String.toList_inj.mp
  refine PropertyName.decapitalizeChars_inj hxupper hyupper
    (fun c hc => ha c (hxsubset (List.mem_of_mem_head? hc)))
    (fun c hc => hb c (hysubset (List.mem_of_mem_head? hc))) ?_
  exact String.ofList_injective hproperty

theorem get_append_ne_is_append (x y : String) : "get" ++ x ≠ "is" ++ y := by
  intro h
  simpa using congrArg String.toList h

/-- A name is read in one way only: no name has both verbs. -/
theorem eq_of_verb {name : String} (hx : name = "get" ++ x ∨ name = "is" ++ x)
    (hy : name = "get" ++ y ∨ name = "is" ++ y) : x = y := by
  rcases hx with rfl | rfl
  · rcases hy with hget | his
    · exact (String.append_right_inj _).mp hget
    · exact absurd his (get_append_ne_is_append x y)
  · rcases hy with hget | his
    · exact absurd hget.symm (get_append_ne_is_append y x)
    · exact (String.append_right_inj _).mp his

theorem stem?_of_verb (h : a.Prefixed)
    (hname : a.name.value = "get" ++ x ∨ a.name.value = "is" ++ x) : a.bare.stem? = some x := by
  obtain ⟨y, hy⟩ := AccessorDraft.prefixed_iff.mp h
  have hverb := (AccessorDraft.stem?_eq_some_iff.mp hy).2.imp_right And.right
  rw [hy, eq_of_verb hverb hname]

/-- Both verbs stand before the same rest. -/
def TypeDraft.TwoVerbs (d : TypeDraft) : Prop :=
  ∃ x, "get" ++ x ∈ d.accessors.map (·.name.value) ∧ "is" ++ x ∈ d.accessors.map (·.name.value)

theorem collides_of_twoVerbs (h : d.Clear seen n) (hall : ∀ a ∈ d.accessors, a.Prefixed)
    (hverbs : d.TwoVerbs) : d.Collides seen n := by
  obtain ⟨x, hget, his⟩ := hverbs
  obtain ⟨a, ha, hget⟩ := List.mem_map.mp hget
  obtain ⟨b, hb, his⟩ := List.mem_map.mp his
  refine (collides_iff_exists h).mpr ⟨a, ha, b, hb, ?_, ?_⟩
  · rw [propertyName_of_prefixed hall (stem?_of_verb (hall a ha) (.inl hget)),
      propertyName_of_prefixed hall (stem?_of_verb (hall b hb) (.inr his))]
  · rintro rfl
    exact get_append_ne_is_append x x (hget.symm.trans his)

theorem twoVerbs_of_collides (h : d.Clear seen n) (hascii : ∀ a ∈ d.accessors, a.Ascii)
    (hcollides : d.Collides seen n) : d.TwoVerbs := by
  have hall := prefixed_of_collides h hcollides
  obtain ⟨a, ha, b, hb, hproperty, hne⟩ := (collides_iff_exists h).mp hcollides
  obtain ⟨x, hx⟩ := AccessorDraft.prefixed_iff.mp (hall a ha)
  obtain ⟨y, hy⟩ := AccessorDraft.prefixed_iff.mp (hall b hb)
  obtain rfl := stem_eq_of_propertyName_eq hall hx hy (hascii a ha) (hascii b hb) hproperty
  have hne : a.name.value ≠ b.name.value := fun hname => hne (h.eq_of_name ha hb hname)
  have ha : a.name.value ∈ d.accessors.map (·.name.value) := List.mem_map_of_mem ha
  have hb : b.name.value ∈ d.accessors.map (·.name.value) := List.mem_map_of_mem hb
  obtain ⟨_, haverb⟩ := AccessorDraft.stem?_eq_some_iff.mp hx
  obtain ⟨_, hbverb⟩ := AccessorDraft.stem?_eq_some_iff.mp hy
  -- One verb for both would make one name of the two.
  rcases haverb with haget | ⟨_, hais⟩
  · rcases hbverb with hbget | ⟨_, hbis⟩
    · exact absurd (haget.trans hbget.symm) hne
    · exact ⟨x, haget ▸ ha, hbis ▸ hb⟩
  · rcases hbverb with hbget | ⟨_, hbis⟩
    · exact ⟨x, hbget ▸ hb, hais ▸ ha⟩
    · exact absurd (hais.trans hbis.symm) hne

theorem propertyName_ne_of_get (hx : a.name.value = "get" ++ x) (hy : b.name.value = "get" ++ y)
    (ha : a ∈ d.accessors) (hb : b ∈ d.accessors) (haascii : a.Ascii) (hbascii : b.Ascii)
    (hne : x ≠ y) : d.propertyName a ≠ d.propertyName b := by
  intro hproperty
  by_cases hall : ∀ a ∈ d.accessors, a.Prefixed
  · have hastem := stem?_of_verb (hall a ha) (.inl hx)
    have hbstem := stem?_of_verb (hall b hb) (.inl hy)
    exact hne (stem_eq_of_propertyName_eq hall hastem hbstem haascii hbascii hproperty)
  · rw [propertyName_of_not_prefixed hall, propertyName_of_not_prefixed hall, hx, hy] at hproperty
    exact hne ((String.append_right_inj _).mp hproperty)

/-- Properties collide only where every accessor has a verb and, among ASCII names, exactly where
two verbs stand before the same rest as well. Accessors of one verb keep apart. -/
theorem collision_iff_two_verbs (h : d.Clear seen n) :
    (d.Collides seen n → ∀ a ∈ d.accessors, a.Prefixed) ∧
    ((∀ a ∈ d.accessors, a.Ascii) →
      (d.Collides seen n ↔ (∀ a ∈ d.accessors, a.Prefixed) ∧ d.TwoVerbs)) ∧
    ∀ a ∈ d.accessors, ∀ b ∈ d.accessors, a.Ascii → b.Ascii → ∀ x y,
      a.name.value = "get" ++ x → b.name.value = "get" ++ y → x ≠ y →
        d.propertyName a ≠ d.propertyName b := by
  refine ⟨prefixed_of_collides h, fun hascii => ⟨fun hcollides => ?_, ?_⟩, ?_⟩
  · exact ⟨prefixed_of_collides h hcollides, twoVerbs_of_collides h hascii hcollides⟩
  · rintro ⟨hall, hverbs⟩
    exact collides_of_twoVerbs h hall hverbs
  · intro a ha b hb haascii hbascii x y hx hy hne
    exact propertyName_ne_of_get hx hy ha hb haascii hbascii hne

/-- The type `a.B` with the accessors `boolean getActive()` and `boolean isActive()`. -/
def activeDraft : TypeDraft :=
  ⟨⟨"a.B", ⟨17, 5⟩⟩, [],
    [⟨⟨"getActive", ⟨50, 11⟩⟩, ⟨"boolean", ⟨69, 9⟩⟩, []⟩,
      ⟨⟨"isActive", ⟨106, 10⟩⟩, ⟨"boolean", ⟨124, 9⟩⟩, []⟩]⟩

theorem clear_activeDraft : activeDraft.Clear [] ⟨"a", "B"⟩ where
  name := by decide +kernel
  new := by simp
  annotations := by simp [activeDraft]
  accessors := by
    have hblank : Unicode.isBlank 'b' = false := by decide
    simp only [activeDraft, List.forall_mem_cons]
    exact ⟨⟨by decide +kernel, ⟨'b', by decide, hblank⟩, by simp⟩,
      ⟨by decide +kernel, ⟨'b', by decide, hblank⟩, by simp⟩, by simp⟩
  accessorNames := by decide

theorem activeDraft_collides : activeDraft.Clear [] ⟨"a", "B"⟩ ∧
    activeDraft.Collides [] ⟨"a", "B"⟩ := by
  have hverbs : activeDraft.TwoVerbs := ⟨"Active", by decide, by decide⟩
  have hascii : ∀ a ∈ activeDraft.accessors, a.Ascii := by simp [activeDraft, AccessorDraft.Ascii]
  have hprefixed : ∀ a ∈ activeDraft.accessors, a.Prefixed := by
    simp only [activeDraft, List.forall_mem_cons]
    exact ⟨⟨'A', "ctive".toList, by decide, .inl rfl⟩,
      ⟨'A', "ctive".toList, by decide, .inr ⟨rfl, rfl⟩⟩, by simp⟩
  obtain ⟨_, hiff, _⟩ := collision_iff_two_verbs clear_activeDraft
  exact ⟨clear_activeDraft, (hiff hascii).mpr ⟨hprefixed, hverbs⟩⟩

end Manifest

end AccessorGen
