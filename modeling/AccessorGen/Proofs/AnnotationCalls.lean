import AccessorGen.Proofs.BindingPolicy

/-! Calls that annotate one property, in any order. None of them changes what is there, and what a
call adds does not hang on the calls before it. -/
namespace AccessorGen

open JsonBinding

namespace Property

/-- What a property is asked for: to carry a line, or what an accessor is due. -/
inductive Call where
  | line (e : AnnotationLine)
  | accessor (a : Accessor)

/-- The property with more annotations behind those that are there. -/
def extend (p : Property) (lines : List AnnotationLine) : Property :=
  { p with accessorAnnotations := p.accessorAnnotations ++ lines }

@[simp] theorem extend_nil (p : Property) : p.extend [] = p := by
  simp [extend]

@[simp] theorem extend_extend (p : Property) (lines lines' : List AnnotationLine) :
    (p.extend lines).extend lines' = p.extend (lines ++ lines') := by
  simp [extend]

namespace Call

/-- The outcome, which only an accessor has, and the property afterwards. -/
def apply (p : Property) : Call → Option Outcome × Property
  | line e => (none, p.annotate e)
  | accessor a => (some (JsonBinding.annotate p a.annotations).1,
      (JsonBinding.annotate p a.annotations).2)

/-- What a call comes to for a property of the given name, and the lines that it adds. -/
inductive Adds (name : String) : Call → Option Outcome → List AnnotationLine → Prop
  | line (e : AnnotationLine) : Adds name (.line e) none [e]
  | copied {a : Accessor} {before after : List AnnotationUse} {u : AnnotationUse}
      (ha : a.annotations = before ++ u :: after) (hu : u.type = jsonPropertyType)
      (hfirst : ∀ v ∈ before, v.type ≠ jsonPropertyType) :
      Adds name (.accessor a) (some .copied) [.copied u.literal]
  | suppressed {a : Accessor} (hown : ∀ u ∈ a.annotations, u.type ≠ jsonPropertyType)
      (hs : ∃ u ∈ a.annotations, u.type ∈ suppressing) :
      Adds name (.accessor a) (some .suppressed) []
  | synthesized {a : Accessor} (hown : ∀ u ∈ a.annotations, u.type ≠ jsonPropertyType)
      (hs : ∀ u ∈ a.annotations, u.type ∉ suppressing) :
      Adds name (.accessor a) (some .synthesized) [.jsonProperty name]

/-- The answer to a call, by the policy. -/
def answer (name : String) : Call → Option Outcome × List AnnotationLine
  | .line e => (none, [e])
  | .accessor a =>
    (some (decideFor name a.annotations).1, (decideFor name a.annotations).2.toList)

theorem apply_eq (p : Property) (c : Call) :
    c.apply p = ((c.answer p.name).1, p.extend (c.answer p.name).2) := by
  cases c with
  | line e => rfl
  | accessor a =>
    have houtcome : (JsonBinding.annotate p a.annotations).1 =
        (decideFor p.name a.annotations).1 := by
      rw [JsonBinding.annotate]
      split <;> simp [*]
    rw [apply, houtcome, JsonBinding.annotate_eq]
    rfl

theorem adds_answer (name : String) (c : Call) :
    c.Adds name (c.answer name).1 (c.answer name).2 := by
  cases c with
  | line e => exact .line e
  | accessor a =>
    rw [answer]
    rcases decideFor_by_annotations name a.annotations with
      ⟨before, u, after, ha, hu, hfirst, hdue⟩ | ⟨hown, hs, hdue⟩ | ⟨hown, hs, hdue⟩
    · rw [hdue]
      exact .copied ha hu hfirst
    · rw [hdue]
      exact .suppressed hown hs
    · rw [hdue]
      exact .synthesized hown hs

theorem answer_congr {name : String} {a b : Accessor} (h : a.annotations = b.annotations) :
    (accessor a).answer name = (accessor b).answer name := by
  rw [answer, answer, h]

end Call

/-- The property after some calls. -/
def after (p : Property) (calls : List Call) : Property :=
  calls.foldl (fun q c => (c.apply q).2) p

theorem after_concat (p : Property) (calls : List Call) (c : Call) :
    p.after (calls ++ [c]) = (c.apply (p.after calls)).2 := by
  simp [after]

/-- A call does not rename the property, so that all of them answer for the same name. -/
theorem after_eq_extend (p : Property) (calls : List Call) :
    p.after calls = p.extend (calls.flatMap fun c => (c.answer p.name).2) := by
  induction calls using List.reverseRecOn with
  | nil => exact (extend_nil p).symm
  | append_singleton calls c ih =>
    rw [after_concat, Call.apply_eq, ih, extend_extend, List.flatMap_append,
      List.flatMap_singleton]
    rfl

@[simp] theorem name_after (p : Property) (calls : List Call) : (p.after calls).name = p.name := by
  rw [after_eq_extend]
  rfl

/-- What holds after any calls, and of the call that comes next. -/
structure OnlyExtended (p : Property) (calls : List Call) : Prop where
  name : (p.after calls).name = p.name
  getterName : (p.after calls).getterName = p.getterName
  typeName : (p.after calls).typeName = p.typeName
  /-- The lines of the calls stand in the order of the calls. -/
  annotations : ∃ answers, List.Forall₂ (fun (c : Call) r => c.Adds p.name r.1 r.2) calls answers ∧
    (p.after calls).accessorAnnotations = p.accessorAnnotations ++ answers.flatMap Prod.snd
  /-- The next call adds its lines at the end and changes nothing else. -/
  next : ∀ c : Call, ∃ outcome lines, c.Adds p.name outcome lines ∧
    c.apply (p.after calls) = (outcome, (p.after calls).extend lines)
  kept : ∀ later,
    (p.after calls).accessorAnnotations <+: (p.after (calls ++ later)).accessorAnnotations
  /-- The same annotations bring the same about under the same name, on another property too and
  after other calls. -/
  repeats : ∀ (q : Property) (others : List Call) (a b : Accessor), q.name = p.name →
    a.annotations = b.annotations → ∃ outcome lines,
      (Call.accessor a).apply (p.after calls) = (outcome, (p.after calls).extend lines) ∧
      (Call.accessor b).apply (q.after others) = (outcome, (q.after others).extend lines)

/-- Annotations are only ever added to a property, whatever it is asked for and in any order. -/
theorem calls_only_extend (p : Property) (calls : List Call) : p.OnlyExtended calls where
  name := p.name_after calls
  getterName := by
    rw [after_eq_extend]
    rfl
  typeName := by
    rw [after_eq_extend]
    rfl
  annotations := by
    refine ⟨calls.map (Call.answer p.name), ?_, ?_⟩
    · apply List.forall₂_map_right_iff.mpr
      exact List.forall₂_same.mpr fun c _ => c.adds_answer p.name
    · rw [after_eq_extend, List.flatMap_map]
      rfl
  next := by
    intro c
    have happly := c.apply_eq (p.after calls)
    rw [name_after] at happly
    exact ⟨_, _, c.adds_answer p.name, happly⟩
  kept := by
    intro later
    rw [after_eq_extend, after_eq_extend, List.flatMap_append, ← extend_extend]
    exact List.prefix_append _ _
  repeats := by
    intro q others a b hname hannotations
    have hp := (Call.accessor a).apply_eq (p.after calls)
    have hq := (Call.accessor b).apply_eq (q.after others)
    rw [name_after] at hp hq
    rw [hname, ← Call.answer_congr hannotations] at hq
    exact ⟨_, _, hp, hq⟩

end Property

end AccessorGen
