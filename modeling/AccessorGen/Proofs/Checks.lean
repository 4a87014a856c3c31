import AccessorGen.Proofs.Acceptance

/-! The checks of a manifest one by one, in the order of the manifest, with what each of them
reports. None of them looks at what the others have found. -/
namespace AccessorGen.Manifest

variable {α β κ : Type}

/-- The property name that an accessor of a draft gives, as one of all accessors of its type. -/
def TypeDraft.propertyName (d : TypeDraft) (a : AccessorDraft) : String :=
  (ValueType.mk ⟨"", ""⟩ [] (d.accessors.map AccessorDraft.bare)).propertyName a.bare

theorem TypeDraft.propertyNames_eq_map (d : TypeDraft) :
    d.propertyNames = d.accessors.map d.propertyName := by
  rw [propertyNames, ValueType.propertyNames_eq_map, List.map_map]
  rfl

/-- Of all items that repeat an earlier one, the one at `j` comes first, and the only one it
repeats is at `i`. -/
structure FirstRepeat (key : α → κ) (l : List α) (i j : Nat) (a b : α) : Prop where
  lt : i < j
  first : l[i]? = some a
  second : l[j]? = some b
  same : key a = key b
  only : ∀ i' < j, ∀ c, l[i']? = some c → key c = key b → i' = i
  least : ∀ j' < j, ∀ i' < j', ∀ c c', l[i']? = some c → l[j']? = some c' → key c ≠ key c'

/-- One check, and what it looks at. -/
inductive Check where
  | source (text : Spanned String)
  | typeName (name : Spanned String)
  /-- The name of a type is compared with the names of the types before it. -/
  | newType (before : List TypeDraft) (d : TypeDraft)
  | annotationUse (text : Spanned String)
  | accessorName (name : Spanned String)
  | newAccessor (type : TypeDraft) (before : List AccessorDraft) (d : AccessorDraft)
  | returnType (text : Spanned String)
  | properties (type : TypeDraft)

namespace Check

/-- What is wrong where a check looks, and the fault by which it is reported. -/
inductive Reports : Check → Fault → Prop
  | source {text : Spanned String} {cause : SourceVersion.ParseError}
      (h : SourceVersion.parse text.value = .error cause) :
      Reports (.source text) (.sourceVersion text.span cause)
  | typeName {name : Spanned String} {cause : QualifiedName.ParseError}
      (h : QualifiedName.parse name.value = .error cause) :
      Reports (.typeName name) (.typeName name cause)
  | newType {before : List TypeDraft} {d e : TypeDraft} {n : QualifiedName} (he : e ∈ before)
      (hfirst : QualifiedName.parse e.name.value = .ok n)
      (hsecond : QualifiedName.parse d.name.value = .ok n) :
      Reports (.newType before d) (.duplicateType n e.name.span d.name.span)
  | annotationUse {text : Spanned String} {cause : AnnotationUse.ParseError}
      (h : AnnotationUse.parse text.value = .error cause) :
      Reports (.annotationUse text) (.annotationUse text.span cause)
  | accessorName {name : Spanned String} {cause : Identifier.Fault}
      (h : Identifier.fault? name.value = some cause) :
      Reports (.accessorName name) (.accessorName name cause)
  | newAccessor {type : TypeDraft} {before : List AccessorDraft} {d e : AccessorDraft}
      {n : QualifiedName} (hn : QualifiedName.parse type.name.value = .ok n) (he : e ∈ before)
      (hname : e.name.value = d.name.value) :
      Reports (.newAccessor type before d)
        (.duplicateAccessor n d.name.value e.name.span d.name.span)
  | returnType {text : Spanned String} (h : ∀ c ∈ text.value.toList, Unicode.isBlank c = true) :
      Reports (.returnType text) (.blankReturnType text.span)
  | properties {type : TypeDraft} {n : QualifiedName} {i j : Nat} {a b : AccessorDraft}
      (hn : QualifiedName.parse type.name.value = .ok n)
      (hrepeat : FirstRepeat type.propertyName type.accessors i j a b) :
      Reports (.properties type)
        (.duplicateProperty n (type.propertyName b) a.name.span b.name.span)

def Passes (c : Check) : Prop := ∀ f, ¬ c.Reports f

end Check

/-- What `step` makes of each item in turn, told of the items before it. -/
def inTurn (step : List α → α → List β) (before : List α) : List α → List β
  | [] => []
  | a :: l => step before a ++ inTurn step (before ++ [a]) l

def AccessorDraft.checks (type : TypeDraft) (before : List AccessorDraft) (d : AccessorDraft) :
    List Check :=
  [.accessorName d.name, .newAccessor type before d, .returnType d.returnType] ++
    d.annotations.map .annotationUse

/-- The properties of a type are compared once all of its accessors have been looked at. -/
def TypeDraft.checks (before : List TypeDraft) (d : TypeDraft) : List Check :=
  [.typeName d.name, .newType before d] ++ d.annotations.map .annotationUse ++
    inTurn (AccessorDraft.checks d) [] d.accessors ++ [.properties d]

def Draft.checks (d : Draft) : List Check :=
  d.source.toList.map .source ++ inTurn TypeDraft.checks [] d.types

/-- The first check that does not pass reports the fault. -/
def FirstReport (checks : List Check) (f : Fault) : Prop :=
  ∃ pre c post, checks = pre ++ c :: post ∧ (∀ b ∈ pre, b.Passes) ∧ c.Reports f

section FirstReport

variable {c : Check} {cs ds : List Check} {f : Fault}

theorem not_firstReport_nil : ¬ FirstReport [] f := by
  rintro ⟨pre, c, post, h, _⟩
  simp at h

theorem firstReport_cons :
    FirstReport (c :: cs) f ↔ c.Reports f ∨ c.Passes ∧ FirstReport cs f := by
  constructor
  · rintro ⟨pre, b, post, h, hpre, hb⟩
    cases pre with
    | nil =>
      cases h
      exact .inl hb
    | cons p pre =>
      cases h
      obtain ⟨hp, hpre⟩ := List.forall_mem_cons.mp hpre
      exact .inr ⟨hp, pre, b, post, rfl, hpre, hb⟩
  · rintro (hc | ⟨hc, pre, b, post, rfl, hpre, hb⟩)
    · exact ⟨[], c, cs, rfl, by simp, hc⟩
    · exact ⟨c :: pre, b, post, rfl, List.forall_mem_cons.mpr ⟨hc, hpre⟩, hb⟩

theorem firstReport_singleton : FirstReport [c] f ↔ c.Reports f := by
  simp [firstReport_cons, not_firstReport_nil]

theorem firstReport_append :
    FirstReport (cs ++ ds) f ↔ FirstReport cs f ∨ (∀ c ∈ cs, c.Passes) ∧ FirstReport ds f := by
  induction cs with
  | nil => simp [not_firstReport_nil]
  | cons c cs ih =>
    rw [List.cons_append, firstReport_cons, firstReport_cons, ih, List.forall_mem_cons]
    tauto

/-- Either some fault is the first to be reported or every check passes. -/
theorem forall_passes_iff : (∀ c ∈ cs, c.Passes) ↔ ∀ f, ¬ FirstReport cs f := by
  constructor
  · rintro h f ⟨pre, c, post, rfl, _, hc⟩
    exact h c (by simp) f hc
  · intro h
    induction cs with
    | nil => simp
    | cons c cs ih =>
      simp only [firstReport_cons, not_or, not_and] at h
      have hc : c.Passes := fun f => (h f).1
      exact List.forall_mem_cons.mpr ⟨hc, ih fun f => (h f).2 hc⟩

theorem FirstReport.exists_mem (h : FirstReport cs f) : ∃ c ∈ cs, c.Reports f := by
  obtain ⟨pre, c, post, rfl, _, hc⟩ := h
  exact ⟨c, by simp, hc⟩

/-- The first report of a traversal belongs to one item, and no item before it has anything to
report. -/
theorem firstReport_inTurn {step : List α → α → List Check} {before l : List α}
    (h : FirstReport (inTurn step before l) f) : ∃ pre a post, l = pre ++ a :: post ∧
      (∀ c ∈ inTurn step before pre, c.Passes) ∧ FirstReport (step (before ++ pre) a) f := by
  induction l generalizing before with
  | nil => exact absurd h not_firstReport_nil
  | cons a l ih =>
    rw [inTurn, firstReport_append] at h
    rcases h with ha | ⟨hpass, hl⟩
    · exact ⟨[], a, l, rfl, by simp [inTurn], by simpa using ha⟩
    · obtain ⟨pre, b, post, rfl, hpre, hb⟩ := ih hl
      refine ⟨a :: pre, b, post, rfl, ?_, by simpa using hb⟩
      rw [inTurn, List.forall_mem_append]
      exact ⟨hpass, hpre⟩

end FirstReport

section FirstRepeat

variable {key : α → κ} {l pre : List α} {i j : Nat} {a b : α}

theorem index_eq_of_nodup (hnodup : (l.map key).Nodup) (ha : l[i]? = some a)
    (hb : l[j]? = some b) (h : key a = key b) : i = j := by
  have hi : i < (l.map key).length := by
    rw [List.length_map]
    exact (List.getElem?_eq_some_iff.mp ha).1
  apply (List.getElem?_inj hi hnodup).mp
  rw [List.getElem?_map, List.getElem?_map, ha, hb, Option.map_some, Option.map_some, h]

/-- The items before the first repetition have different keys, and one of them is repeated. -/
theorem FirstRepeat.of_append (hnodup : (pre.map key).Nodup) (ha : a ∈ pre) (h : key a = key b)
    (post : List α) : ∃ i, FirstRepeat key (pre ++ b :: post) i pre.length a b := by
  obtain ⟨i, hi⟩ := List.mem_iff_getElem?.mp ha
  have hbefore : ∀ j < pre.length, (pre ++ b :: post)[j]? = pre[j]? :=
    fun j hj => List.getElem?_append_left hj
  have hlt : i < pre.length := (List.getElem?_eq_some_iff.mp hi).1
  refine ⟨i, hlt, (hbefore i hlt).trans hi, by simp, h, ?_, ?_⟩
  · intro i' hi' c hc hkey
    rw [hbefore i' hi'] at hc
    exact index_eq_of_nodup hnodup hc hi (hkey.trans h.symm)
  · intro j' hj' i' hi' c c' hc hc' hkey
    rw [hbefore i' (by omega)] at hc
    rw [hbefore j' hj'] at hc'
    have heq := index_eq_of_nodup hnodup hc hc' hkey
    omega

theorem FirstRepeat.exists_append (h : FirstRepeat key l i j a b) :
    ∃ pre post, l = pre ++ b :: post ∧ (pre.map key).Nodup ∧ a ∈ pre := by
  obtain ⟨hj, hb⟩ := List.getElem?_eq_some_iff.mp h.second
  have hbefore : ∀ i < j, (l.take j)[i]? = l[i]? := fun i hi => List.getElem?_take_of_lt hi
  refine ⟨l.take j, l.drop (j + 1), ?_, ?_, ?_⟩
  · rw [← hb, ← List.drop_eq_getElem_cons hj, List.take_append_drop]
  · rw [List.nodup_iff_getElem?_ne_getElem?]
    intro i' j' hlt hj'
    rw [List.length_map, List.length_take] at hj'
    rw [List.getElem?_map, List.getElem?_map, hbefore i' (by omega), hbefore j' (by omega),
      List.getElem?_eq_getElem (by omega), List.getElem?_eq_getElem (by omega)]
    intro hkey
    refine h.least j' (by omega) i' hlt _ _ (List.getElem?_eq_getElem (by omega))
      (List.getElem?_eq_getElem (by omega)) ?_
    simpa using hkey
  · exact List.mem_of_getElem? ((hbefore i h.lt).trans h.first)

end FirstRepeat

end AccessorGen.Manifest
