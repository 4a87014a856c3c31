import AccessorGen.ValueType

/-! The names of a type's properties, one accessor at a time. -/
namespace AccessorGen.ValueType

variable {t t' : ValueType} {a : Accessor}

/-- Only then are the verbs dropped. -/
def AllStemmed (t : ValueType) : Prop := ∀ a ∈ t.accessors, a.stem?.isSome

instance : Decidable t.AllStemmed :=
  inferInstanceAs (Decidable (∀ a ∈ t.accessors, a.stem?.isSome))

/-- The name of one accessor's property. It hangs on all accessors of the type. -/
def propertyName (t : ValueType) (a : Accessor) : String :=
  if t.AllStemmed then PropertyName.decapitalize (a.stem?.getD a.name) else a.name

theorem mapM_eq_some_map {α β : Type} {f : α → Option β} {g : α → β} {l : List α}
    (h : ∀ a ∈ l, f a = some (g a)) : l.mapM f = some (l.map g) := by
  induction l with
  | nil => rfl
  | cons a l ih =>
    have ha := h a List.mem_cons_self
    have hl := ih (fun c hc => h c (List.mem_cons_of_mem a hc))
    simp [List.mapM_cons, ha, hl]

theorem mapM_eq_none_of_mem {α β : Type} {f : α → Option β} {l : List α}
    (h : ∃ a ∈ l, f a = none) : l.mapM f = none := by
  induction l with
  | nil => simp at h
  | cons a l ih =>
    rw [List.mapM_cons]
    cases ha : f a with
    | none => rfl
    | some b =>
      have hl : ∃ c ∈ l, f c = none := by
        obtain ⟨c, hc, hnone⟩ := h
        rcases List.mem_cons.mp hc with rfl | hc
        · simp [ha] at hnone
        · exact ⟨c, hc, hnone⟩
      simp [ih hl]

theorem propertyNames_eq_map (t : ValueType) :
    t.propertyNames = t.accessors.map t.propertyName := by
  rw [propertyNames]
  by_cases h : t.AllStemmed
  · have hname : t.propertyName = fun a => PropertyName.decapitalize (a.stem?.getD a.name) := by
      funext a
      rw [propertyName, if_pos h]
    have hstem : ∀ a ∈ t.accessors, a.stem? = some (a.stem?.getD a.name) := by
      intro a ha
      obtain ⟨stem, hs⟩ := Option.isSome_iff_exists.mp (h a ha)
      simp [hs]
    rw [mapM_eq_some_map hstem, hname]
    simp
  · have hname : t.propertyName = Accessor.name := by
      funext a
      rw [propertyName, if_neg h]
    have hnone : ∃ a ∈ t.accessors, a.stem? = none := by
      simpa [AllStemmed] using h
    rw [mapM_eq_none_of_mem hnone, hname]

theorem length_propertyNames (t : ValueType) : t.propertyNames.length = t.accessors.length := by
  rw [propertyNames_eq_map, List.length_map]

/-- Names and return types alone settle what the properties are called. -/
theorem propertyNames_congr
    (h : t.accessors.map (fun a => (a.name, a.returnType)) =
      t'.accessors.map (fun a => (a.name, a.returnType))) :
    t.propertyNames = t'.propertyNames := by
  have hstems (u : ValueType) : u.accessors.mapM Accessor.stem? =
      (u.accessors.map (fun a => (a.name, a.returnType))).mapM
        (fun p => PropertyName.stem? p.1 (p.2 == "boolean")) := by
    rw [List.mapM_map]
    rfl
  have hnames (u : ValueType) : u.accessors.map Accessor.name =
      (u.accessors.map (fun a => (a.name, a.returnType))).map Prod.fst := by
    simp
  rw [propertyNames, propertyNames, hstems t, hstems t', hnames t, hnames t', h]

end AccessorGen.ValueType
