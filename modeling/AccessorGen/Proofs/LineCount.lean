import AccessorGen.Proofs.RenderedText
import Mathlib.Algebra.BigOperators.Group.List.Basic
import Mathlib.Algebra.GroupWithZero.Nat

/-! How many lines the members of a type take up. Each generated line is one line of the text,
unless a return type or a copied annotation brings line ends of its own. -/
namespace AccessorGen

namespace Code

variable {s u : String} {ls ls' : List String} {n n' : Nat}

def lineEnds (s : String) : Nat := s.toList.count '\n'

/-- A text of `n` lines, the last of which is ended as well. -/
structure TakesLines (s : String) (n : Nat) : Prop where
  lineEnds_eq : lineEnds s = n
  ended : s = "" ∨ ∃ u, s = u ++ "\n"

theorem TakesLines.unique (h : TakesLines s n) (h' : TakesLines s n') : n = n' :=
  h.lineEnds_eq.symm.trans h'.lineEnds_eq

@[simp] theorem lineEnds_append (s u : String) : lineEnds (s ++ u) = lineEnds s + lineEnds u := by
  rw [lineEnds, String.toList_append, List.count_append]
  rfl

theorem lineEnds_eq_zero_iff : lineEnds s = 0 ↔ '\n' ∉ s.toList :=
  List.count_eq_zero

/-- How many lines the given ones take up when they are printed. -/
def linesTaken (ls : List String) : Nat := (ls.map fun s => lineEnds s + 1).sum

@[simp] theorem linesTaken_nil : linesTaken [] = 0 := rfl

@[simp] theorem linesTaken_cons (s : String) (ls : List String) :
    linesTaken (s :: ls) = lineEnds s + 1 + linesTaken ls := by
  rw [linesTaken, List.map_cons, List.sum_cons, ← linesTaken]

@[simp] theorem linesTaken_append (ls ls' : List String) :
    linesTaken (ls ++ ls') = linesTaken ls + linesTaken ls' := by
  rw [linesTaken, List.map_append, List.sum_append, ← linesTaken, ← linesTaken]

theorem takesLines_ofLines (ls : List String) : TakesLines (ofLines ls) (linesTaken ls) := by
  induction ls with
  | nil => exact ⟨rfl, .inl rfl⟩
  | cons s ls ih =>
    have hend : lineEnds "\n" = 1 := by decide
    rw [ofLines_cons]
    constructor
    · rw [lineEnds_append, lineEnds_append, hend, ih.lineEnds_eq, linesTaken_cons]
    · rcases ih.ended with hnone | ⟨u, hu⟩
      · exact .inr ⟨s, by rw [hnone, String.append_empty]⟩
      · exact .inr ⟨s ++ "\n" ++ u, by rw [hu, String.append_assoc, String.append_assoc,
          String.append_assoc]⟩

/-- A blank line stands before each paragraph but the first. -/
theorem linesTaken_ofParagraphs (p : List String) (ps : List (List String)) :
    linesTaken (ofParagraphs (p :: ps)) =
      linesTaken p + (ps.map fun q => 1 + linesTaken q).sum := by
  have hblank : lineEnds "" = 0 := rfl
  rw [ofParagraphs_cons, linesTaken_append]
  congr 1
  induction ps with
  | nil => rfl
  | cons q ps ih =>
    rw [List.flatMap_cons, linesTaken_append, linesTaken_cons, ih, hblank, List.map_cons,
      List.sum_cons, Nat.zero_add]

theorem lineEnds_unit (i : Indent) : lineEnds i.unit = 0 := by
  fun_cases Indent.unit i <;> rfl

theorem lineEnds_indent (i : Indent) (level : Nat) :
    lineEnds (String.join (List.replicate level i.unit)) = 0 := by
  induction level with
  | zero => rfl
  | succ level ih =>
    rw [List.replicate_succ, String.join_cons, lineEnds_append, lineEnds_unit, ih]

end Code

open Code

namespace AnnotationLine

/-- The line ends in the annotation itself. A new annotation has none. -/
def breaks : AnnotationLine → Nat
  | copied literal => lineEnds literal
  | jsonProperty _ => 0

theorem lineEnds_toString (e : AnnotationLine) : lineEnds (toString e) = e.breaks := by
  cases e with
  | copied literal => rfl
  | jsonProperty name =>
    exact lineEnds_eq_zero_iff.mpr (ValueType.oneLine_jsonProperty name).newline_not_mem

/-- An annotation is written as one line, and one more for each line end that it holds. -/
theorem takesLines_addTo (e : AnnotationLine) (w : Writer) : ∃ added,
    (e.addTo w).text = w.text ++ added ∧ w.emit e = e.addTo w ∧
      TakesLines added (1 + e.breaks) := by
  have hindent := lineEnds_indent w.indent w.level
  refine ⟨ofLines [String.join (List.replicate w.level w.indent.unit) ++ toString e], ?_, rfl, ?_⟩
  · simp [addTo, Writer.line, ofLines, String.append_assoc]
  · have hlines := takesLines_ofLines
      [String.join (List.replicate w.level w.indent.unit) ++ toString e]
    rw [linesTaken_cons, linesTaken_nil, lineEnds_append, hindent, lineEnds_toString] at hlines
    rwa [show 1 + e.breaks = 0 + e.breaks + 1 + 0 by omega]

end AnnotationLine

namespace Property

/-- The line ends that the return type and the annotations bring with them. -/
def breaks (p : Property) : Nat :=
  lineEnds p.typeName + (p.accessorAnnotations.map AnnotationLine.breaks).sum

theorem linesTaken_annotations (es : List AnnotationLine) :
    linesTaken (es.map toString) = es.length + (es.map AnnotationLine.breaks).sum := by
  induction es with
  | nil => rfl
  | cons e es ih =>
    rw [List.map_cons, linesTaken_cons, ih, AnnotationLine.lineEnds_toString, List.length_cons,
      List.map_cons, List.sum_cons]
    omega

theorem linesTaken_overrideLines {p : Property} (hname : '\n' ∉ p.name.toList)
    (hgetter : '\n' ∉ p.getterName.toList) :
    linesTaken p.overrideLines = 4 + p.accessorAnnotations.length + p.breaks := by
  have hname := lineEnds_eq_zero_iff.mpr hname
  have hgetter := lineEnds_eq_zero_iff.mpr hgetter
  have hheader : lineEnds p.header = lineEnds p.typeName := by
    have hpublic : lineEnds "public " = 0 := by decide
    have hspace : lineEnds " " = 0 := by decide
    have hopening : lineEnds "() \x7b" = 0 := by decide
    simp only [header_eq, lineEnds_append, hpublic, hspace, hopening, hgetter]
    omega
  have hbody : lineEnds p.body = 0 := by
    have hreturn : lineEnds "  return " = 0 := by decide
    have hend : lineEnds ";" = 0 := by decide
    simp only [body_eq, lineEnds_append, hreturn, hend, hname]
  have hoverride : lineEnds "@Override" = 0 := by decide
  have hclose : lineEnds "\x7d" = 0 := by decide
  simp only [overrideLines, linesTaken_append, linesTaken_cons, linesTaken_nil,
    linesTaken_annotations, hheader, hbody, hoverride, hclose, breaks]
  omega

theorem breaks_eq_zero_iff {p : Property} : p.breaks = 0 ↔ '\n' ∉ p.typeName.toList ∧
    ∀ literal, .copied literal ∈ p.accessorAnnotations → '\n' ∉ literal.toList := by
  have hannotations : (∀ e ∈ p.accessorAnnotations, e.breaks = 0) ↔
      ∀ literal, .copied literal ∈ p.accessorAnnotations → '\n' ∉ literal.toList := by
    constructor
    · intro h literal he
      exact lineEnds_eq_zero_iff.mp (h _ he)
    · intro h e he
      cases e with
      | copied literal => exact lineEnds_eq_zero_iff.mpr (h literal he)
      | jsonProperty name => rfl
  rw [breaks, Nat.add_eq_zero_iff, lineEnds_eq_zero_iff, List.sum_eq_zero_iff_forall_eq_nat]
  simp [← hannotations]

end Property

namespace Metadata

variable {m : Metadata}

/-- Five lines for each property and one for each of its annotations, beside the title and the
hash code. -/
def lines (m : Metadata) : Nat :=
  6 + (m.properties.map fun p => 5 + p.accessorAnnotations.length).sum

theorem linesTaken_of_oneLine {ls : List String} (h : ∀ s ∈ ls, OneLine s) :
    linesTaken ls = ls.length := by
  induction ls with
  | nil => rfl
  | cons s ls ih =>
    have hs := lineEnds_eq_zero_iff.mpr (h s List.mem_cons_self).newline_not_mem
    rw [linesTaken_cons, hs, ih fun s hs => h s (List.mem_cons_of_mem _ hs), List.length_cons]
    omega

theorem linesTaken_paragraphs (m : Metadata) (htype : '\n' ∉ (toString m.typeName).toList)
    (hname : ∀ p ∈ m.properties, '\n' ∉ p.name.toList)
    (hgetter : ∀ p ∈ m.properties, '\n' ∉ p.getterName.toList) (l : SourceLevel) :
    linesTaken (ofParagraphs (m.paragraphs l)) =
      m.lines + (m.properties.map Property.breaks).sum := by
  have htitle : linesTaken [m.title] = 1 :=
    linesTaken_of_oneLine fun s hs => List.mem_singleton.mp hs ▸ oneLine_title htype
  have hhash : linesTaken (m.hashLines l) = 4 := linesTaken_of_oneLine fun s hs =>
    oneLine_hashLine hname hs
  have hoverrides : (m.properties.map fun p => 1 + linesTaken p.overrideLines) =
      m.properties.map fun p => 5 + p.accessorAnnotations.length + p.breaks := by
    refine List.map_congr_left fun p hp => ?_
    rw [Property.linesTaken_overrideLines (hname p hp) (hgetter p hp)]
    omega
  rw [paragraphs, linesTaken_ofParagraphs, htitle, List.map_append, List.sum_append, List.map_map,
    Function.comp_def, hoverrides, List.sum_map_add]
  simp only [List.map_cons, List.map_nil, List.sum_cons, List.sum_nil, hhash, lines]
  omega

theorem takesLines_text (m : Metadata) (htype : '\n' ∉ (toString m.typeName).toList)
    (hname : ∀ p ∈ m.properties, '\n' ∉ p.name.toList)
    (hgetter : ∀ p ∈ m.properties, '\n' ∉ p.getterName.toList) (l : SourceLevel) :
    TakesLines (({} : Writer).emit (m.fragments l)).text
      (m.lines + (m.properties.map Property.breaks).sum) := by
  rw [text_emit, ← m.linesTaken_paragraphs htype hname hgetter l]
  exact takesLines_ofLines _

/-- The properties alone can bring more lines than one for each that is generated. -/
theorem takesLines_lines_iff {code : String} (m : Metadata)
    (h : TakesLines code (m.lines + (m.properties.map Property.breaks).sum)) :
    TakesLines code m.lines ↔ ∀ p ∈ m.properties, '\n' ∉ p.typeName.toList ∧
      ∀ literal, .copied literal ∈ p.accessorAnnotations → '\n' ∉ literal.toList := by
  have hsum : (m.properties.map Property.breaks).sum = 0 ↔ ∀ p ∈ m.properties, p.breaks = 0 := by
    rw [List.sum_eq_zero_iff_forall_eq_nat, List.forall_mem_map]
  simp only [← Property.breaks_eq_zero_iff]
  rw [← hsum]
  constructor
  · intro hexact
    have hcount := hexact.unique h
    omega
  · intro hzero
    rwa [hzero, Nat.add_zero] at h

end Metadata

namespace Manifest

variable {d : Draft} {m : Manifest} {t : ValueType} {ε σ : Type} [FeatureFamily ε σ]
  [DecidableEq ε] {r : Registry ε}

/-- Names bring no line ends into the members of an accepted type, and neither do new annotations.
What is copied as it stands does: each line end in a return type or in a copied annotation makes
one more line. -/
theorem accepted_takesLines (h : ofDraft d = .ok m) (ht : t ∈ m.types)
    (hr : (r.get? .sourceLevel).isSome) : ∃ code, t.metadata.render r = .ok code ∧
      TakesLines code (t.metadata.lines + (t.metadata.properties.map Property.breaks).sum) ∧
      (TakesLines code t.metadata.lines ↔ ∀ p ∈ t.metadata.properties, '\n' ∉ p.typeName.toList ∧
        ∀ literal, .copied literal ∈ p.accessorAnnotations → '\n' ∉ literal.toList) ∧
      ∀ p ∈ t.metadata.properties, ∀ e ∈ p.accessorAnnotations, ∀ w : Writer, ∃ added,
        (e.addTo w).text = w.text ++ added ∧ w.emit e = e.addTo w ∧
          TakesLines added (1 + e.breaks) := by
  obtain ⟨l, hlevel⟩ := Option.isSome_iff_exists.mp hr
  have hsound := (ofDraft_eq_ok_iff.mp h).2.types t ht
  have hlines : TakesLines (({} : Writer).emit (t.metadata.fragments l)).text
      (t.metadata.lines + (t.metadata.properties.map Property.breaks).sum) := by
    refine t.metadata.takesLines_text ?_ (fun p hp => ?_) (fun p hp => ?_) l
    · exact ValueType.newline_not_mem_typeName (readable_of_accepted h ht)
    · exact ValueType.newline_not_mem_name hsound hp
    · exact ValueType.newline_not_mem_getterName hsound hp
  exact ⟨_, Metadata.render_eq_ok hlevel _, hlines, t.metadata.takesLines_lines_iff hlines,
    fun _ _ e _ w => e.takesLines_addTo w⟩

/-- The type `a.B`, with line ends in the return type and in the annotation of its accessor. -/
def brokenDraft : Draft :=
  ⟨none, [⟨⟨"a.B", ⟨0, 0⟩⟩, [⟨toString (AnnotationUse.marker JsonBinding.trigger), ⟨0, 0⟩⟩],
    [⟨⟨"getX", ⟨0, 0⟩⟩, ⟨"java.util.Map<String,\n  String>", ⟨0, 0⟩⟩,
      [⟨"@com.fasterxml.jackson.annotation.JsonProperty(\n  \"x\")", ⟨0, 0⟩⟩]⟩]⟩]⟩

def brokenType : ValueType :=
  ⟨⟨"a", "B"⟩, [.marker JsonBinding.trigger], [⟨"getX", "java.util.Map<String,\n  String>",
    [⟨jsonPropertyType, "@com.fasterxml.jackson.annotation.JsonProperty(\n  \"x\")"⟩]⟩]⟩

theorem ofDraft_brokenDraft : ofDraft brokenDraft = .ok ⟨none, [brokenType]⟩ := by
  decide +kernel

theorem brokenType_takesLines : ofDraft brokenDraft = .ok ⟨none, [brokenType]⟩ ∧
    brokenType.metadata.lines = 12 ∧
    ∃ code, brokenType.metadata.render (Registry.standard none) = .ok code ∧
      TakesLines code 14 := by
  obtain ⟨code, hcode, hlines, _⟩ :=
    accepted_takesLines ofDraft_brokenDraft List.mem_cons_self (r := Registry.standard none) rfl
  have hcount : brokenType.metadata.lines +
      (brokenType.metadata.properties.map Property.breaks).sum = 14 := by decide
  exact ⟨ofDraft_brokenDraft, by decide, code, hcode, hcount ▸ hlines⟩

/-- Not every type of an accepted manifest has members of that many lines. -/
theorem accepted_lines_broken : ¬ ∀ (d : Draft) (m : Manifest), ofDraft d = .ok m →
    ∀ t ∈ m.types, ∀ r : Registry Empty, (r.get? .sourceLevel).isSome →
      ∀ code, t.metadata.render r = .ok code → TakesLines code t.metadata.lines := by
  intro hexact
  have hlines := hexact _ _ ofDraft_brokenDraft _ List.mem_cons_self (Registry.standard none) rfl
    _ rfl
  have htext := brokenType.metadata.takesLines_text (by decide) (by decide) (by decide) .java6
  have hunbroken := (brokenType.metadata.takesLines_lines_iff htext).mp hlines
  exact (hunbroken _ List.mem_cons_self).1 (by decide)

end Manifest

end AccessorGen
