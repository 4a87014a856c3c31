import AccessorGen.Manifest
import AccessorGen.Proofs.CheckReports

/-! A manifest that is not accepted is reported with the first of its faults, and a repetition with
the places of both items. -/
namespace AccessorGen.Manifest

variable {α κ : Type} {d : Draft} {t : TypeDraft} {f : Fault} {n : QualifiedName}

/-- The labels stand at the first item that repeats an earlier one and, before that, at the only
item it repeats. -/
def Fault.PointsAt (f : Fault) (key : α → κ) (name : α → Spanned String) (l : List α) (k : κ) :
    Prop :=
  ∃ i j a b, FirstRepeat key l i j a b ∧ key b = k ∧
    f.labels.map Label.span = [(name a).span, (name b).span]

/-- Nothing is to be reported of the types before this one. -/
def Draft.Reaches (d : Draft) (t : TypeDraft) : Prop :=
  ∃ before after, d.types = before ++ t :: after ∧
    ∀ c ∈ inTurn TypeDraft.checks [] before, c.Passes

/-- The places at which a repetition is reported, among the types of the manifest or among the
accessors of the first type with a fault. -/
def Fault.PointsAtRepeat (d : Draft) (f : Fault) : Prop :=
  match f with
  | .duplicateType n _ _ =>
    f.PointsAt (fun t => QualifiedName.parse t.name.value) TypeDraft.name d.types (.ok n)
  | .duplicateAccessor n name _ _ =>
    ∃ t, d.Reaches t ∧ QualifiedName.parse t.name.value = .ok n ∧
      f.PointsAt (·.name.value) AccessorDraft.name t.accessors name
  | .duplicateProperty n name _ _ =>
    ∃ t, d.Reaches t ∧ QualifiedName.parse t.name.value = .ok n ∧
      f.PointsAt t.propertyName AccessorDraft.name t.accessors name
  | _ => True

theorem nodup_typeNames_of_passes {ds : List TypeDraft}
    (h : ∀ c ∈ inTurn TypeDraft.checks [] ds, c.Passes) :
    (ds.map fun t => QualifiedName.parse t.name.value).Nodup := by
  obtain ⟨ts, hts⟩ := (decides_checkTypes recorded_nil ds).exists_ok h
  obtain ⟨hdecl, _, hnodup, _⟩ := checkTypes_eq_ok_iff.mp hts
  rw [List.Nodup, List.pairwise_map]
  exact (nodup_typeNames_iff hdecl).mp hnodup

theorem nodup_accessorNames_of_passes {ds : List AccessorDraft}
    (hn : QualifiedName.parse t.name.value = .ok n)
    (h : ∀ c ∈ inTurn (AccessorDraft.checks t) [] ds, c.Passes) :
    (ds.map (·.name.value)).Nodup := by
  obtain ⟨as, has⟩ := (decides_checkAccessors hn recorded_nil ds).exists_ok h
  obtain ⟨hdecl, _, hnodup, _⟩ := checkAccessors_eq_ok_iff.mp has
  rwa [map_eq_map_of_forall₂ hdecl fun a b hab => hab.name.symm]

theorem pointsAtRepeat_of_annotations {texts : List (Spanned String)}
    (h : FirstReport (texts.map .annotationUse) f) : f.PointsAtRepeat d := by
  obtain ⟨c, hc, hreport⟩ := h.exists_mem
  obtain ⟨text, _, rfl⟩ := List.mem_map.mp hc
  cases hreport
  trivial

theorem pointsAtRepeat_of_accessors (ht : d.Reaches t)
    (h : FirstReport (inTurn (AccessorDraft.checks t) [] t.accessors) f) :
    f.PointsAtRepeat d := by
  obtain ⟨before, a, after, haccessors, hpass, h⟩ := firstReport_inTurn h
  rw [AccessorDraft.checks, firstReport_append] at h
  rcases h with h | ⟨_, h⟩
  · obtain ⟨c, hc, hreport⟩ := h.exists_mem
    simp only [List.mem_cons, List.not_mem_nil, or_false] at hc
    rcases hc with rfl | rfl | rfl
    · cases hreport
      trivial
    · cases hreport with
      | newAccessor hn he hname =>
        have hnodup := nodup_accessorNames_of_passes hn hpass
        obtain ⟨i, hrepeat⟩ := FirstRepeat.of_append hnodup he hname after
        rw [← haccessors] at hrepeat
        exact ⟨t, ht, hn, i, before.length, _, a, hrepeat, rfl, rfl⟩
    · cases hreport
      trivial
  · exact pointsAtRepeat_of_annotations h

theorem pointsAtRepeat_of_firstReport (h : FirstReport d.checks f) : f.PointsAtRepeat d := by
  rw [Draft.checks, firstReport_append] at h
  rcases h with h | ⟨_, h⟩
  · obtain ⟨c, hc, hreport⟩ := h.exists_mem
    obtain ⟨text, _, rfl⟩ := List.mem_map.mp hc
    cases hreport
    trivial
  obtain ⟨before, t, after, htypes, hpass, h⟩ := firstReport_inTurn h
  have ht : d.Reaches t := ⟨before, after, htypes, hpass⟩
  rw [TypeDraft.checks, firstReport_append, firstReport_append, firstReport_append,
    firstReport_singleton, List.nil_append] at h
  rcases h with ((h | ⟨_, h⟩) | ⟨_, h⟩) | ⟨_, h⟩
  · obtain ⟨c, hc, hreport⟩ := h.exists_mem
    simp only [List.mem_cons, List.not_mem_nil, or_false] at hc
    rcases hc with rfl | rfl
    · cases hreport
      trivial
    · cases hreport with
      | newType he hfirst hsecond =>
        have hnodup := nodup_typeNames_of_passes hpass
        obtain ⟨i, hrepeat⟩ :=
          FirstRepeat.of_append hnodup he (hfirst.trans hsecond.symm) after
        rw [← htypes] at hrepeat
        exact ⟨i, before.length, _, t, hrepeat, hsecond, rfl⟩
  · exact pointsAtRepeat_of_annotations h
  · exact pointsAtRepeat_of_accessors ht h
  · cases h with
    | properties hn hrepeat => exact ⟨t, ht, hn, _, _, _, _, hrepeat, rfl, rfl⟩

/-- A manifest is reported with the fault of the first check that does not pass, and with no fault
if all pass. Where the fault is a repetition, its labels stand at the first item that repeats an
earlier one and at that earlier one. The text of the manifest is reported with the same fault. -/
theorem first_fault_reported (d : Draft) (f : Fault) :
    (ofDraft d = .error f ↔ FirstReport d.checks f) ∧
    (ofDraft d = .error f → f.PointsAtRepeat d) ∧
    ∀ text file document, Toml.parse? text = some document →
      Draft.ofTable document = .ok d →
        (parse text file = .error (.faulty file f) ↔ ofDraft d = .error f) := by
  refine ⟨decides_ofDraft d f, ?_, ?_⟩
  · intro h
    exact pointsAtRepeat_of_firstReport ((decides_ofDraft d f).mp h)
  · intro text file document hdocument hdraft
    simp only [parse, hdocument, hdraft]
    cases ofDraft d <;> simp [Except.mapError]

end AccessorGen.Manifest
