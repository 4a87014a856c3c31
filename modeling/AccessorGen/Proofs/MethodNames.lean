import AccessorGen.Proofs.Members
import AccessorGen.Proofs.PropertyNameFaults
import AccessorGen.Proofs.WrittenMetadata
import Mathlib.Data.List.DropRight

/-! The methods among the members of a type. Accessors are told apart when they are declared, and
the method that is added to them is not looked at then. -/
namespace AccessorGen

namespace Code

mutual

/-- The lines that open the blocks of a fragment. -/
def Fragment.headers : Fragment → List String
  | .line _ => []
  | .blank => []
  | .block header body _ => header :: headersOf body
  | .sequence parts => headersOf parts
  | .javadoc _ => []

def headersOf : List Fragment → List String
  | [] => []
  | f :: fs => f.headers ++ headersOf fs

end

theorem headersOf_eq_flatMap (fs : List Fragment) : headersOf fs = fs.flatMap Fragment.headers := by
  induction fs with
  | nil => rfl
  | cons f fs ih => rw [headersOf, ih, List.flatMap_cons]

theorem headersOf_append (fs gs : List Fragment) :
    headersOf (fs ++ gs) = headersOf fs ++ headersOf gs := by
  simp only [headersOf_eq_flatMap, List.flatMap_append]

theorem headersOf_flatMap {α : Type} (f : α → List Fragment) (l : List α) :
    headersOf (l.flatMap f) = l.flatMap fun a => headersOf (f a) := by
  simp only [headersOf_eq_flatMap, List.flatMap_assoc]

/-- The name of the method that a line opens. A method without parameters has its name between the
last space and the parentheses. -/
def methodName? (header : String) : Option String :=
  if "() \x7b".toList <:+ header.toList then
    some (String.ofList ((header.toList.rdrop 4).rtakeWhile (· ≠ ' ')))
  else none

/-- The names of the methods that are opened by fragments. -/
def methods (fs : List Fragment) : List String :=
  (headersOf fs).filterMap methodName?

theorem rtakeWhile_append {before name : List Char} (h : ' ' ∉ name) :
    (before ++ ' ' :: name).rtakeWhile (· ≠ ' ') = name := by
  have hname : ∀ c ∈ name.reverse, decide (c ≠ ' ') = true := by
    intro c hc
    have hne : c ≠ ' ' := ne_of_mem_of_not_mem (List.mem_reverse.mp hc) h
    exact decide_eq_true hne
  rw [List.rtakeWhile, List.reverse_append, List.reverse_cons, List.append_assoc,
    List.takeWhile_append_of_pos hname]
  simp

theorem methodName?_append {before name : String} (h : ' ' ∉ name.toList) :
    methodName? (before ++ " " ++ name ++ "() \x7b") = some name := by
  have htext : (before ++ " " ++ name ++ "() \x7b").toList =
      (before.toList ++ ' ' :: name.toList) ++ "() \x7b".toList := by simp
  have hdrop : ((before.toList ++ ' ' :: name.toList) ++ "() \x7b".toList).rdrop 4 =
      before.toList ++ ' ' :: name.toList := List.rdrop_append_length
  rw [methodName?, htext, if_pos (List.suffix_append _ _), hdrop, rtakeWhile_append h,
    String.ofList_toList]

end Code

open Code

variable {t : ValueType} {p : Property}

theorem Property.methodName?_header (h : ' ' ∉ p.getterName.toList) :
    methodName? p.header = some p.getterName := by
  rw [header_eq]
  exact methodName?_append h

theorem Property.headers_override (p : Property) : p.override.headers = [p.header] := by
  have hannotations (es : List AnnotationLine) : headersOf (es.flatMap toFragments) = [] := by
    rw [headersOf_flatMap, List.flatMap_eq_nil_iff]
    exact fun _ _ => rfl
  simp [override, Fragment.headers, headersOf, hannotations, header]

namespace Metadata

variable {m : Metadata}

theorem headersOf_fragments (m : Metadata) (l : SourceLevel) : headersOf (m.fragments l) =
    m.properties.map Property.header ++ ["public int hashCode() \x7b"] := by
  have hoverrides (ps : List Property) :
      headersOf (ps.flatMap fun p => [.blank, p.override]) = ps.map Property.header := by
    have hoverride (p : Property) : headersOf [.blank, p.override] = [p.header] := by
      simp [headersOf, Fragment.headers, p.headers_override]
    rw [headersOf_flatMap]
    simp only [hoverride]
    exact List.flatMap_pure_eq_map _ _
  rw [fragments, headersOf_append, headersOf, hoverrides]
  simp [hashCode, headersOf, Fragment.headers]

/-- One method for each property, and one more. -/
theorem methods_fragments (h : ∀ p ∈ m.properties, ' ' ∉ p.getterName.toList) (l : SourceLevel) :
    methods (m.fragments l) = m.properties.map Property.getterName ++ ["hashCode"] := by
  have hnames : m.properties.filterMap (methodName? ∘ Property.header) =
      m.properties.map Property.getterName := by
    rw [← List.filterMap_eq_map]
    exact List.filterMap_congr fun p hp => Property.methodName?_header (h p hp)
  have hhash : methodName? "public int hashCode() \x7b" = some "hashCode" := by decide
  rw [methods, headersOf_fragments, List.filterMap_append, List.filterMap_map, hnames]
  simp [hhash]

end Metadata

namespace ValueType

theorem space_not_mem_getterName (ht : t.Sound) (hp : p ∈ t.metadata.properties) :
    ' ' ∉ p.getterName.toList := by
  intro hspace
  have hnot : Identifier.isPart ' ' = false := by decide
  rw [isPart_of_mem_getterName ht hp ' ' hspace] at hnot
  cases hnot

theorem map_getterName_properties (t : ValueType) :
    t.metadata.properties.map Property.getterName = t.accessors.map Accessor.name := by
  rw [properties_eq_map, List.map_map]
  exact List.map_congr_left fun a _ => a.property_getterName _ _

end ValueType

namespace Manifest

variable {d : Draft} {m : Manifest} {ε σ : Type} [FeatureFamily ε σ] [DecidableEq ε]
  {r : Registry ε}

/-- The methods of a type of an accepted manifest are its accessors and the hash code. They have
different names unless an accessor is named as the hash code is. -/
theorem accepted_methods_nodup_iff (h : ofDraft d = .ok m) (ht : t ∈ m.types)
    (hr : (r.get? .sourceLevel).isSome) :
    ∃ fs, t.metadata.fragmentsFor r = .ok fs ∧
      t.metadata.render r = .ok (({} : Writer).emit fs).text ∧
      methods fs = t.accessors.map Accessor.name ++ ["hashCode"] ∧
      (t.accessors.map Accessor.name).Nodup ∧
      ((methods fs).Nodup ↔ ∀ a ∈ t.accessors, a.name ≠ "hashCode") := by
  obtain ⟨l, hl⟩ := Option.isSome_iff_exists.mp hr
  have hsound := (ofDraft_eq_ok_iff.mp h).2.types t ht
  have hmethods := Metadata.methods_fragments
    (fun p hp => ValueType.space_not_mem_getterName hsound hp) l
  rw [ValueType.map_getterName_properties] at hmethods
  refine ⟨_, Metadata.fragmentsFor_eq_ok hl _, Metadata.render_eq_ok hl _, hmethods,
    hsound.accessorNames, ?_⟩
  rw [hmethods, List.nodup_append]
  simp [hsound.accessorNames]

/-- The type `a.B` with the one accessor `int hashCode()`. -/
def hashCodeDraft : Draft :=
  ⟨none, [⟨⟨"a.B", ⟨17, 5⟩⟩, [],
    [⟨⟨"hashCode", ⟨50, 10⟩⟩, ⟨"int", ⟨68, 5⟩⟩, []⟩]⟩]⟩

def hashCodeType : ValueType := ⟨⟨"a", "B"⟩, [], [⟨"hashCode", "int", []⟩]⟩

theorem ofDraft_hashCodeDraft : ofDraft hashCodeDraft = .ok ⟨none, [hashCodeType]⟩ := rfl

theorem hashCodeType_methods : ofDraft hashCodeDraft = .ok ⟨none, [hashCodeType]⟩ ∧
    ∃ fs, hashCodeType.metadata.fragmentsFor (Registry.standard none) = .ok fs ∧
      methods fs = ["hashCode", "hashCode"] := by
  obtain ⟨fs, hfs, _, hmethods, _⟩ :=
    accepted_methods_nodup_iff ofDraft_hashCodeDraft List.mem_cons_self (r := Registry.standard none) rfl
  exact ⟨ofDraft_hashCodeDraft, fs, hfs, hmethods⟩

/-- Not every type of an accepted manifest has methods of different names. -/
theorem accepted_methods_clash : ¬ ∀ (d : Draft) (m : Manifest), ofDraft d = .ok m →
    ∀ t ∈ m.types, ∀ r : Registry Empty, (r.get? .sourceLevel).isSome →
      ∀ fs, t.metadata.fragmentsFor r = .ok fs → (methods fs).Nodup := by
  intro hdistinct
  have hnodup := hdistinct _ _ ofDraft_hashCodeDraft _ List.mem_cons_self
    (Registry.standard none) rfl _ rfl
  revert hnodup
  decide

end Manifest

end AccessorGen
