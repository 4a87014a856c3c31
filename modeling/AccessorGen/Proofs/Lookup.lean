import AccessorGen.Proofs.WrittenManifest
import Mathlib.Data.List.Find

/-! Which type of an accepted manifest a name finds. -/
namespace AccessorGen

namespace QualifiedName

variable {s : String} {n n' : QualifiedName}

/-- The last dot of a name stands before its simple name. -/
theorem not_mem_simpleName (h : parse s = .ok n) : '.' ∉ n.simpleName.toList := by
  obtain ⟨hall, rfl⟩ := parse_eq_ok_iff.mp h
  have hne : Text.segments '.' s.toList ≠ [] := Text.segments_ne_nil
  obtain ⟨package, name, hpieces⟩ := (List.eq_nil_or_concat' _).resolve_left hne
  rw [hpieces] at hall ⊢
  rw [ofSegments_concat, String.toList_ofList]
  exact not_mem_of_isSegment (hall name (by simp))

theorem toString_of_package_eq (hp : n.package = "") : toString n = n.simpleName := by
  change n.toString = _
  simp [QualifiedName.toString, hp]

theorem mem_toString (hp : n.package ≠ "") : '.' ∈ (toString n).toList := by
  change '.' ∈ n.toString.toList
  rw [QualifiedName.toString, if_neg (by simpa using hp)]
  simp

/-- The text of a name with a package is no simple name. -/
theorem simpleName_ne_toString (h : parse s = .ok n') (hp : n.package ≠ "") :
    n'.simpleName ≠ toString n := by
  intro heq
  have hdot := mem_toString hp
  rw [← heq] at hdot
  exact not_mem_simpleName h hdot

end QualifiedName

namespace Manifest

variable {d : Draft} {m : Manifest} {t u : ValueType} {before after : List ValueType}
  {name : String}

/-- A name finds by simple names, unless it is the full name of a type in a package. -/
theorem find?_eq_find?_simpleName
    (h : ∀ t ∈ m.types, toString t.name = name → t.name.package = "") :
    m.find? name = m.types.find? fun t => t.name.simpleName == name := by
  refine List.find?_congr fun t ht => ?_
  by_cases hfull : toString t.name = name
  · rw [← hfull, QualifiedName.toString_of_package_eq (h t ht hfull)]
    simp
  · simp [hfull]

theorem name_ne_of_accepted (h : ofDraft d = .ok m) (hm : m.types = before ++ t :: after)
    (hu : u ∈ before) : u.name ≠ t.name := by
  have hnodup := (ofDraft_eq_ok_iff.mp h).2.typeNames
  rw [hm, List.map_append, List.nodup_append] at hnodup
  exact hnodup.2.2 _ (List.mem_map_of_mem hu) _ (by simp)

theorem toString_name_ne_of_accepted (h : ofDraft d = .ok m)
    (hm : m.types = before ++ t :: after) (hu : u ∈ before) :
    toString u.name ≠ toString t.name := by
  intro heq
  have hread := (readable_of_accepted h (t := u) (by simp [hm, hu])).name
  rw [heq, (readable_of_accepted h (t := t) (by simp [hm])).name] at hread
  exact name_ne_of_accepted h hm hu (Except.ok.inj hread).symm

/-- Only simple names of types that stand before it keep a type from being found. -/
theorem find?_toString_iff (h : ofDraft d = .ok m) (hm : m.types = before ++ t :: after) :
    m.find? (toString t.name) = some t ↔
      ∀ u ∈ before, u.name.simpleName ≠ toString t.name := by
  have hnew : ∀ u ∈ before, toString u.name ≠ toString t.name :=
    fun u hu => toString_name_ne_of_accepted h hm hu
  rw [find?, hm, List.find?_append, List.find?_cons_of_pos (by simp), Option.or_eq_some_iff]
  constructor
  · rintro (hfound | ⟨hnone, _⟩) u hu
    · exact absurd rfl (hnew t (List.mem_of_find?_eq_some hfound))
    · have hno := List.find?_eq_none.mp hnone u hu
      simp only [Bool.or_eq_true, beq_iff_eq, not_or] at hno
      exact hno.2
  · intro hsimple
    refine .inr ⟨List.find?_eq_none.mpr fun u hu => ?_, rfl⟩
    simp [hnew u hu, hsimple u hu]

/-- A type is found by its full name unless it has no package and the same simple name is found
before it. All other texts find by simple names, in the order of declaration. -/
theorem find?_accepted (h : ofDraft d = .ok m) :
    (∀ before t after, m.types = before ++ t :: after →
      (m.find? (toString t.name) = some t ↔
        t.name.package ≠ "" ∨ ∀ u ∈ before, u.name.simpleName ≠ t.name.simpleName)) ∧
    ∀ name, (∀ t ∈ m.types, toString t.name = name → t.name.package = "") →
      m.find? name = m.types.find? fun t => t.name.simpleName == name := by
  refine ⟨?_, fun name => find?_eq_find?_simpleName⟩
  intro before t after hm
  rw [find?_toString_iff h hm]
  by_cases hp : t.name.package = ""
  · simp [QualifiedName.toString_of_package_eq hp, hp]
  · simp only [ne_eq, hp, not_false_eq_true, true_or, iff_true]
    intro u hu
    have hread := (readable_of_accepted h (t := u) (by simp [hm, hu])).name
    exact QualifiedName.simpleName_ne_toString hread hp

/-- The types `a.B` and `B`. -/
def namesakesDraft : Draft :=
  ⟨none, [⟨⟨"a.B", ⟨17, 5⟩⟩, [], []⟩, ⟨⟨"B", ⟨40, 3⟩⟩, [], []⟩]⟩

def namesakes : Manifest := ⟨none, [⟨⟨"a", "B"⟩, [], []⟩, ⟨⟨"", "B"⟩, [], []⟩]⟩

theorem ofDraft_namesakesDraft : ofDraft namesakesDraft = .ok namesakes := rfl

theorem find?_namesakes : ofDraft namesakesDraft = .ok namesakes ∧
    namesakes.find? "a.B" = some ⟨⟨"a", "B"⟩, [], []⟩ ∧
    namesakes.find? "B" ≠ some ⟨⟨"", "B"⟩, [], []⟩ := by
  have haccepted := (find?_accepted ofDraft_namesakesDraft).1
  have hpackage := haccepted [] ⟨⟨"a", "B"⟩, [], []⟩ [⟨⟨"", "B"⟩, [], []⟩] rfl
  have hdefault := haccepted [⟨⟨"a", "B"⟩, [], []⟩] ⟨⟨"", "B"⟩, [], []⟩ [] rfl
  refine ⟨ofDraft_namesakesDraft, hpackage.mpr (.inl (by decide)), fun hfound => ?_⟩
  exact absurd (hdefault.mp hfound) (by decide)

/-- The full name of a type is not always the name by which it is found. -/
theorem find?_not_exact : ¬ ∀ (d : Draft) (m : Manifest), ofDraft d = .ok m →
    (∀ t ∈ m.types, m.find? (toString t.name) = some t) ∧
    ∀ name, (∀ t ∈ m.types, toString t.name ≠ name) →
      m.find? name = m.types.find? fun t => t.name.simpleName == name := by
  intro hexact
  have hfound := (hexact _ _ ofDraft_namesakesDraft).1 ⟨⟨"", "B"⟩, [], []⟩ (by decide)
  revert hfound
  decide

end Manifest

end AccessorGen
