import AccessorGen.Proofs.Checks

/-! The steps of checking a manifest, each as a reader of the checks it makes: it ends with what
the first of them reports that does not pass. -/
namespace AccessorGen.Manifest

variable {α β κ : Type}

/-- A computation that ends with what the given checks report first, and with a result if they all
pass. -/
def Decides (x : Except Fault α) (checks : List Check) : Prop :=
  ∀ f, x = .error f ↔ FirstReport checks f

section Decides

variable {x : Except Fault α} {a : α} {c : Check} {cs ds : List Check} {f : Fault}

theorem bind_eq_error_iff {k : α → Except Fault β} :
    x >>= k = .error f ↔ x = .error f ∨ ∃ a, x = .ok a ∧ k a = .error f := by
  cases x with
  | error e => simp [bind, Except.bind]
  | ok a => simp [bind, Except.bind]

theorem mapError_eq_error_iff {ε : Type} {y : Except ε α} {report : ε → Fault} :
    y.mapError report = .error f ↔ ∃ e, y = .error e ∧ report e = f := by
  cases y with
  | error e => simp [Except.mapError]
  | ok a => simp [Except.mapError]

theorem refuse_eq_error_iff {fault : Option Fault} : refuse fault = .error f ↔ fault = some f := by
  cases fault with
  | none => simp [refuse]
  | some fault => simp [refuse]

theorem decides_pure (a : α) : Decides (pure a) [] := by
  intro f
  simp [not_firstReport_nil, pure, Except.pure]

theorem decides_of_reports (h : ∀ f, x = .error f ↔ c.Reports f) : Decides x [c] := by
  intro f
  rw [h, firstReport_singleton]

/-- A reader whose error becomes the fault that its check reports. -/
theorem decides_mapError {ε : Type} {y : Except ε α} {report : ε → Fault}
    (hreport : ∀ e, y = .error e → c.Reports (report e))
    (hcases : ∀ f, c.Reports f → ∃ e, y = .error e ∧ report e = f) :
    Decides (y.mapError report) [c] := by
  apply decides_of_reports
  intro f
  rw [mapError_eq_error_iff]
  constructor
  · rintro ⟨e, he, rfl⟩
    exact hreport e he
  · exact hcases f

theorem Decides.passes (h : Decides x cs) (hx : x = .ok a) : ∀ c ∈ cs, c.Passes := by
  rw [forall_passes_iff]
  intro f hf
  rw [← h, hx] at hf
  cases hf

theorem Decides.exists_ok (h : Decides x cs) (hpass : ∀ c ∈ cs, c.Passes) :
    ∃ a, x = .ok a := by
  cases x with
  | error f => exact absurd ((h f).mp rfl) (forall_passes_iff.mp hpass f)
  | ok a => exact ⟨a, rfl⟩

/-- Computations in sequence report what their checks in sequence report. -/
theorem Decides.bind {k : α → Except Fault β} (hx : Decides x cs)
    (hk : ∀ a, x = .ok a → Decides (k a) ds) : Decides (x >>= k) (cs ++ ds) := by
  intro f
  rw [bind_eq_error_iff, firstReport_append, hx f]
  apply or_congr_right
  constructor
  · rintro ⟨a, ha, hf⟩
    exact ⟨hx.passes ha, (hk a ha f).mp hf⟩
  · rintro ⟨hpass, hf⟩
    obtain ⟨a, ha⟩ := hx.exists_ok hpass
    exact ⟨a, ha, (hk a ha f).mpr hf⟩

theorem Decides.bind_pure (hx : Decides x cs) (g : α → β) :
    Decides (x >>= fun a => pure (g a)) cs := by
  rw [← List.append_nil cs]
  exact hx.bind fun a _ => decides_pure (g a)

theorem decides_mapM {check : α → Except Fault β} {toCheck : α → Check}
    (h : ∀ a, Decides (check a) [toCheck a]) (l : List α) :
    Decides (l.mapM check) (l.map toCheck) := by
  induction l with
  | nil => exact decides_pure []
  | cons a l ih =>
    rw [List.mapM_cons, List.map_cons, ← List.singleton_append]
    exact (h a).bind fun b _ => ih.bind_pure (b :: ·)

theorem decides_optionMapM {check : α → Except Fault β} {toCheck : α → Check}
    (h : ∀ a, Decides (check a) [toCheck a]) (o : Option α) :
    Decides (o.mapM check) (o.toList.map toCheck) := by
  cases o with
  | none => exact decides_pure none
  | some a =>
    rw [Option.mapM_some]
    intro f
    rw [Option.toList_some, List.map_singleton, ← h a]
    cases check a with
    | error e => simp [Functor.map, Except.map]
    | ok b => simp [Functor.map, Except.map]

end Decides

/-- What has been seen: the places of the items before, under the names that these items have. -/
structure Recorded (isNamed : α → κ → Prop) (place : α → Span) (seen : List (κ × Span))
    (before : List α) : Prop where
  nodup : (seen.map Prod.fst).Nodup
  mem_iff : ∀ k span, (k, span) ∈ seen ↔ ∃ e ∈ before, isNamed e k ∧ place e = span

section Repetition

variable {isNamed : α → κ → Prop} {key : α → κ} {place : α → Span} {before : List α} {d : α}
  {seen l : List (κ × Span)} {k : κ} {first second : Span}

theorem recorded_nil : Recorded isNamed place [] [] := ⟨by simp, by simp⟩

theorem recorded_reverse (hnodup : (before.map key).Nodup) :
    Recorded (fun e k => key e = k) place (before.map fun e => (key e, place e)).reverse before := by
  constructor
  · rw [List.map_reverse, List.nodup_reverse, List.map_map]
    exact hnodup
  · simp

theorem Recorded.append (h : Recorded isNamed place seen before)
    (hk : ∀ k', isNamed d k' ↔ k = k') (hnew : k ∉ seen.map Prod.fst) :
    Recorded isNamed place ((k, place d) :: seen) (before ++ [d]) := by
  refine ⟨List.nodup_cons.mpr ⟨hnew, h.nodup⟩, fun k' span => ?_⟩
  rw [List.mem_cons, h.mem_iff, Prod.mk.injEq]
  simp only [List.mem_append, List.mem_singleton, or_and_right, exists_or, exists_eq_left, hk]
  rw [or_comm, eq_comm (a := k'), eq_comm (a := span)]

variable [DecidableEq κ]

theorem Recorded.earlier?_eq_some_iff (h : Recorded isNamed place seen before) :
    earlier? seen k = some first ↔ ∃ e ∈ before, isNamed e k ∧ place e = first := by
  rw [earlier?, Option.map_eq_some_iff, ← h.mem_iff]
  constructor
  · rintro ⟨⟨k', span⟩, hfind, rfl⟩
    have hk : k' = k := by simpa using List.find?_some hfind
    exact hk ▸ List.mem_of_find?_eq_some hfind
  · intro hmem
    cases hfind : seen.find? (·.1 = k) with
    | none => simpa using List.find?_eq_none.mp hfind _ hmem
    | some p =>
      have hk : p.1 = k := by simpa using List.find?_some hfind
      have hp := List.inj_on_of_nodup_map h.nodup (List.mem_of_find?_eq_some hfind) hmem hk
      exact ⟨p, rfl, congrArg Prod.snd hp⟩

theorem repeated?_eq_some_iff : repeated? seen l = some (k, first, second) ↔
    ∃ pre post, l = pre ++ (k, second) :: post ∧ repeated? seen pre = none ∧
      earlier? (pre.reverse ++ seen) k = some first := by
  induction l generalizing seen with
  | nil => simp [repeated?]
  | cons p l ih =>
    obtain ⟨a, span⟩ := p
    rw [repeated?]
    cases hfirst : earlier? seen a with
    | some s =>
      constructor
      · intro h
        cases h
        exact ⟨[], l, rfl, rfl, hfirst⟩
      · rintro ⟨pre, post, hl, hpre, hk⟩
        cases pre with
        | nil =>
          cases hl
          rw [List.reverse_nil, List.nil_append, hfirst] at hk
          cases hk
          rfl
        | cons q pre =>
          cases hl
          simp [repeated?, hfirst] at hpre
    | none =>
      simp only [ih]
      constructor
      · rintro ⟨pre, post, rfl, hpre, hk⟩
        exact ⟨(a, span) :: pre, post, rfl, by simpa [repeated?, hfirst] using hpre,
          by simpa using hk⟩
      · rintro ⟨pre, post, hl, hpre, hk⟩
        cases pre with
        | nil =>
          cases hl
          rw [List.reverse_nil, List.nil_append, hfirst] at hk
          cases hk
        | cons q pre =>
          cases hl
          exact ⟨pre, post, rfl, by simpa [repeated?, hfirst] using hpre, by simpa using hk⟩

theorem repeated?_map_eq_some_iff {l : List α} :
    repeated? [] (l.map fun a => (key a, place a)) = some (k, first, second) ↔
      ∃ i j a b, FirstRepeat key l i j a b ∧ key b = k ∧ place a = first ∧ place b = second := by
  rw [repeated?_eq_some_iff]
  simp only [repeated?_eq_none_iff, List.append_nil]
  constructor
  · rintro ⟨pre, post, hl, ⟨hnodup, _⟩, hk⟩
    obtain ⟨pre, rest, rfl, rfl, hrest⟩ := List.map_eq_append_iff.mp hl
    obtain ⟨b, post, rfl, hb, rfl⟩ := List.map_eq_cons_iff.mp hrest
    obtain ⟨rfl, rfl⟩ := Prod.mk.inj hb
    rw [List.map_map] at hnodup
    obtain ⟨a, ha, hkey, rfl⟩ := (recorded_reverse hnodup).earlier?_eq_some_iff.mp hk
    obtain ⟨i, h⟩ := FirstRepeat.of_append hnodup ha hkey post
    exact ⟨i, pre.length, a, b, h, rfl, rfl, rfl⟩
  · rintro ⟨i, j, a, b, h, rfl, rfl, rfl⟩
    obtain ⟨pre, post, rfl, hnodup, ha⟩ := h.exists_append
    refine ⟨pre.map fun a => (key a, place a), post.map fun a => (key a, place a), by simp, ?_, ?_⟩
    · rw [List.map_map]
      exact ⟨hnodup, by simp⟩
    · exact (recorded_reverse hnodup).earlier?_eq_some_iff.mpr ⟨a, ha, h.same, rfl⟩

end Repetition

theorem decides_checkAnnotationUse (text : Spanned String) :
    Decides (checkAnnotationUse text) [.annotationUse text] := by
  refine decides_mapError (fun _ => .annotationUse) fun f h => ?_
  cases h with
  | annotationUse hcause => exact ⟨_, hcause, rfl⟩

theorem decides_checkSource (text : Spanned String) :
    Decides (checkSource text) [.source text] := by
  refine decides_mapError (fun _ => .source) fun f h => ?_
  cases h with
  | source hcause => exact ⟨_, hcause, rfl⟩

section Accessors

variable {type : TypeDraft} {n : QualifiedName} {seen : List (String × Span)}
  {before : List AccessorDraft}

/-- Accessors are recorded under the names that are written. -/
abbrev AccessorsRecorded (seen : List (String × Span)) (before : List AccessorDraft) : Prop :=
  Recorded (fun e name => e.name.value = name) (·.name.span) seen before

theorem decides_checkAccessor (hn : QualifiedName.parse type.name.value = .ok n)
    (hseen : AccessorsRecorded seen before) (d : AccessorDraft) :
    Decides (checkAccessor n seen d) (d.checks type before) := by
  have hname : Decides (refuse ((Identifier.fault? d.name.value).map (.accessorName d.name)))
      [.accessorName d.name] := by
    apply decides_of_reports
    intro f
    rw [refuse_eq_error_iff, Option.map_eq_some_iff]
    constructor
    · rintro ⟨cause, hcause, rfl⟩
      exact .accessorName hcause
    · intro h
      cases h with
      | accessorName hcause => exact ⟨_, hcause, rfl⟩
  have hnew : Decides (refuse ((earlier? seen d.name.value).map
      (.duplicateAccessor n d.name.value · d.name.span))) [.newAccessor type before d] := by
    apply decides_of_reports
    intro f
    simp only [refuse_eq_error_iff, Option.map_eq_some_iff, hseen.earlier?_eq_some_iff]
    constructor
    · rintro ⟨_, ⟨e, he, hname, rfl⟩, rfl⟩
      exact .newAccessor hn he hname
    · intro h
      cases h with
      | newAccessor hn' he hname =>
        cases hn.symm.trans hn'
        exact ⟨_, ⟨_, he, hname, rfl⟩, rfl⟩
  have htype : Decides (refuse (if isBlank d.returnType.value then
      some (.blankReturnType d.returnType.span) else none)) [.returnType d.returnType] := by
    apply decides_of_reports
    intro f
    rw [refuse_eq_error_iff, Option.ite_none_right_eq_some, isBlank, List.all_eq_true]
    constructor
    · rintro ⟨hblank, hf⟩
      cases hf
      exact .returnType hblank
    · intro h
      cases h with
      | returnType hblank => exact ⟨hblank, rfl⟩
  have hann := decides_mapM decides_checkAnnotationUse d.annotations
  exact hname.bind fun _ _ => hnew.bind fun _ _ => htype.bind fun _ _ => hann.bind_pure _

/-- Each accessor that passes is recorded for the next. -/
theorem decides_checkAccessors (hn : QualifiedName.parse type.name.value = .ok n)
    (hseen : AccessorsRecorded seen before) (ds : List AccessorDraft) :
    Decides (checkAccessors n seen ds) (inTurn (AccessorDraft.checks type) before ds) := by
  induction ds generalizing seen before with
  | nil => exact decides_pure []
  | cons d ds ih =>
    rw [checkAccessors, inTurn]
    refine (decides_checkAccessor hn hseen d).bind fun a ha => ?_
    obtain ⟨hd, _, hnew⟩ := checkAccessor_eq_ok_iff.mp ha
    have hnext := hseen.append (fun _ => Iff.rfl) (hd.name ▸ hnew)
    exact (ih hnext).bind_pure (a :: ·)

end Accessors

section Types

variable {seen : List (QualifiedName × Span)} {before : List TypeDraft}

/-- Types are recorded under the names that are read. -/
abbrev TypesRecorded (seen : List (QualifiedName × Span)) (before : List TypeDraft) : Prop :=
  Recorded (fun e n => QualifiedName.parse e.name.value = .ok n) (·.name.span) seen before

theorem decides_checkTypeName (hseen : TypesRecorded seen before) (d : TypeDraft) :
    Decides (checkTypeName seen d.name) [.typeName d.name, .newType before d] := by
  have hname : Decides ((QualifiedName.parse d.name.value).mapError (.typeName d.name))
      [.typeName d.name] := by
    refine decides_mapError (fun _ => .typeName) fun f h => ?_
    cases h with
    | typeName hcause => exact ⟨_, hcause, rfl⟩
  refine hname.bind fun n hn => ?_
  rw [mapError_eq_ok_iff] at hn
  have hnew : Decides (refuse ((earlier? seen n).map (.duplicateType n · d.name.span)))
      [.newType before d] := by
    apply decides_of_reports
    intro f
    simp only [refuse_eq_error_iff, Option.map_eq_some_iff, hseen.earlier?_eq_some_iff]
    constructor
    · rintro ⟨_, ⟨e, he, hfirst, rfl⟩, rfl⟩
      exact .newType he hfirst hn
    · intro h
      cases h with
      | newType he hfirst hn' =>
        cases hn.symm.trans hn'
        exact ⟨_, ⟨_, he, hfirst, rfl⟩, rfl⟩
  exact hnew.bind_pure fun _ => n

theorem decides_checkProperties {d : TypeDraft} {t : ValueType} (h : d.Declares t) :
    Decides (checkProperties t (d.accessors.map (·.name.span))) [.properties d] := by
  apply decides_of_reports
  intro f
  rw [checkProperties, refuse_eq_error_iff, Option.map_eq_some_iff, h.propertyNames_eq,
    d.propertyNames_eq_map, List.zip_map']
  constructor
  · rintro ⟨⟨name, first, second⟩, hrepeat, rfl⟩
    obtain ⟨i, j, a, b, hfirst, rfl, rfl, rfl⟩ := repeated?_map_eq_some_iff.mp hrepeat
    exact .properties h.name hfirst
  · intro hf
    cases hf with
    | @properties _ n i j a b hn hrepeat =>
      cases h.name.symm.trans hn
      exact ⟨_, repeated?_map_eq_some_iff.mpr ⟨i, j, a, b, hrepeat, rfl, rfl, rfl⟩, rfl⟩

theorem decides_checkType (hseen : TypesRecorded seen before) (d : TypeDraft) :
    Decides (checkType seen d) (d.checks before) := by
  rw [TypeDraft.checks, List.append_assoc, List.append_assoc]
  refine (decides_checkTypeName hseen d).bind fun n hn => ?_
  obtain ⟨hn, _⟩ := checkTypeName_eq_ok_iff.mp hn
  refine (decides_mapM decides_checkAnnotationUse d.annotations).bind fun us hus => ?_
  rw [checkAnnotationUses_eq_ok_iff] at hus
  refine (decides_checkAccessors hn recorded_nil d.accessors).bind fun as has => ?_
  obtain ⟨has, _⟩ := checkAccessors_eq_ok_iff.mp has
  have hdecl : d.Declares ⟨n, us, as⟩ := ⟨hn, hus, has⟩
  exact (decides_checkProperties hdecl).bind_pure fun _ => ValueType.mk n us as

theorem decides_checkTypes (hseen : TypesRecorded seen before) (ds : List TypeDraft) :
    Decides (checkTypes seen ds) (inTurn TypeDraft.checks before ds) := by
  induction ds generalizing seen before with
  | nil => exact decides_pure []
  | cons d ds ih =>
    rw [checkTypes, inTurn]
    refine (decides_checkType hseen d).bind fun t ht => ?_
    obtain ⟨hd, _, hnew⟩ := checkType_eq_ok_iff.mp ht
    have hk : ∀ n, QualifiedName.parse d.name.value = .ok n ↔ t.name = n := by
      intro n
      rw [hd.name, Except.ok.injEq]
    exact (ih (hseen.append hk hnew)).bind_pure (t :: ·)

end Types

theorem decides_ofDraft (d : Draft) : Decides (ofDraft d) d.checks := by
  exact (decides_optionMapM decides_checkSource d.source).bind fun source _ =>
    (decides_checkTypes recorded_nil d.types).bind_pure (Manifest.mk source)

end AccessorGen.Manifest
