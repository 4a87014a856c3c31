import AccessorGen.Proofs.Printing
import AccessorGen.Proofs.Registration
import AccessorGen.Proofs.RenderedText

/-! The source level decides one statement of the members and nothing else: the one that computes
the hash code. That statement lists the properties. -/
namespace AccessorGen

namespace Text

variable {s p : List Char} {pieces : List (List Char)} {c : Char}

/-- The pieces of a text between the commas that have a space behind them. -/
def commaPieces : List Char → List (List Char)
  | [] => [[]]
  | ',' :: ' ' :: s => [] :: commaPieces s
  | c :: s => (commaPieces s).modifyHead (c :: ·)

theorem commaPieces_cons (h : c ≠ ',') :
    commaPieces (c :: s) = (commaPieces s).modifyHead (c :: ·) := by
  rw [commaPieces]
  rintro _ rfl _
  exact h rfl

theorem commaPieces_of_not_mem (h : ',' ∉ p) : commaPieces p = [p] := by
  induction p with
  | nil => rfl
  | cons c p ih =>
    rw [List.mem_cons, not_or] at h
    obtain ⟨hc, hp⟩ := h
    rw [commaPieces_cons (Ne.symm hc), ih hp]
    rfl

theorem commaPieces_append (h : ',' ∉ p) (s : List Char) :
    commaPieces (p ++ ',' :: ' ' :: s) = p :: commaPieces s := by
  induction p with
  | nil => rfl
  | cons c p ih =>
    rw [List.mem_cons, not_or] at h
    obtain ⟨hc, hp⟩ := h
    rw [List.cons_append, commaPieces_cons (Ne.symm hc), ih hp]
    rfl

/-- Pieces without commas are found again after they have been joined. -/
theorem commaPieces_intercalate (hne : pieces ≠ []) (h : ∀ p ∈ pieces, ',' ∉ p) :
    commaPieces ([',', ' '].intercalate pieces) = pieces := by
  induction pieces with
  | nil => exact absurd rfl hne
  | cons p ps ih =>
    obtain ⟨hp, hps⟩ := List.forall_mem_cons.mp h
    cases ps with
    | nil => rw [List.intercalate_singleton, commaPieces_of_not_mem hp]
    | cons q ps =>
      rw [List.intercalate_cons_cons, List.append_assoc, List.cons_append, List.singleton_append,
        commaPieces_append hp, ih (List.cons_ne_nil q ps) hps]

end Text

open Code

/-- The override of an accessor as it stands in the text, behind a blank line. -/
def Property.block (p : Property) : String := ofLines ("" :: p.overrideLines)

theorem SourceLevel.forVersion_eq_java6_iff {v : SourceVersion} :
    forVersion v = .java6 ↔ v.release = 6 := by
  have hsupported := v.supported
  rw [forVersion]
  split
  · simp only [true_iff]
    omega
  · split <;> simp <;> omega

namespace Registry

variable {ε σ : Type} [FeatureFamily ε σ] [DecidableEq ε] {fs : List (Feature ε)}

/-- Where the features of a run with or without a version get their values. -/
def sourceOf : Option SourceVersion → FeatureSource
  | some v => .environment ⟨v⟩
  | none => .testDefaults

theorem standard_eq_registered (version : Option SourceVersion) :
    standard version = (registered (sourceOf version) [.sourceLevel] ()).1 := by
  cases version <;> rfl

/-- Features that come before the source level, and their effects, have no part in its value. -/
theorem get?_registered_sourceLevel (h : .sourceLevel ∈ fs) (version : Option SourceVersion)
    (s : σ) : (registered (sourceOf version) fs s).1.get? .sourceLevel = some (targetLevel version) := by
  obtain ⟨pre, post, rfl, hnew⟩ := List.eq_append_cons_of_mem h
  rw [get?_registered_append hnew]
  cases version with
  | none => rfl
  | some v => rfl

end Registry

namespace Metadata

variable (m : Metadata) {l l' : SourceLevel}

/-- The members up to the statement that computes the hash code. -/
def beforeStatement : String :=
  m.title ++ "\n" ++ String.join (m.properties.map Property.block) ++
    "\n@Override\npublic int hashCode() \x7b\n  "

/-- The statement of the lowest level and that of all others. -/
theorem hashStatement_eq (l : SourceLevel) : m.hashStatement l = if l = .java6
    then "return java.util.Arrays.hashCode(new Object[] \x7b" ++ m.hashArguments ++ "\x7d);"
    else "return java.util.Objects.hash(" ++ m.hashArguments ++ ");" := by
  have hobjects : "return " ++ toString (⟨"java.util", "Objects"⟩ : QualifiedName) ++ ".hash(" =
      "return java.util.Objects.hash(" := by decide
  cases l with
  | java6 => rfl
  | java7 => exact congrArg (· ++ m.hashArguments ++ ");") hobjects
  | java8 => exact congrArg (· ++ m.hashArguments ++ ");") hobjects

theorem ofLines_hashLines (l : SourceLevel) : ofLines ("" :: m.hashLines l) =
    "\n@Override\npublic int hashCode() \x7b\n  " ++ m.hashStatement l ++ "\n\x7d\n" := by
  apply String.toList_injective
  simp [hashLines, ofLines]

theorem text_emit_eq (l : SourceLevel) : (({} : Writer).emit (m.fragments l)).text =
    m.beforeStatement ++ m.hashStatement l ++ "\n\x7d\n" := by
  have hblocks : ofLines ((m.properties.map Property.overrideLines).flatMap ("" :: ·)) =
      String.join (m.properties.map Property.block) := by
    rw [List.flatMap_map, ofLines_flatMap]
    rfl
  rw [text_emit, paragraphs, ofParagraphs_cons, List.flatMap_append, List.flatMap_singleton,
    ofLines_append, ofLines_append, hblocks, ofLines_hashLines, beforeStatement]
  simp [ofLines, String.append_assoc]

/-- The two statements differ in the class that they call. -/
theorem hashStatement_eq_iff :
    m.hashStatement l = m.hashStatement l' ↔ (l = .java6 ↔ l' = .java6) := by
  have hne (args : String) : "return java.util.Arrays.hashCode(new Object[] \x7b" ++ args ++
      "\x7d);" ≠ "return java.util.Objects.hash(" ++ args ++ ");" := by
    intro h
    simpa using congrArg String.toList h
  rw [hashStatement_eq, hashStatement_eq]
  by_cases hl : l = .java6 <;> by_cases hl' : l' = .java6 <;>
    simp [hl, hl', hne, Ne.symm (hne _)]

section Render

variable {ε σ ε' σ' : Type} [FeatureFamily ε σ] [DecidableEq ε] [FeatureFamily ε' σ']
  [DecidableEq ε'] {r : Registry ε} {r' : Registry ε'}

theorem render_eq_text (h : r.get? .sourceLevel = some l) :
    m.render r = .ok (m.beforeStatement ++ m.hashStatement l ++ "\n\x7d\n") := by
  rw [render_eq_ok h, text_emit_eq]

theorem render_eq_render_iff (h : r.get? .sourceLevel = some l)
    (h' : r'.get? .sourceLevel = some l') : ∃ code code', m.render r = .ok code ∧
      m.render r' = .ok code' ∧ (code = code' ↔ (l = .java6 ↔ l' = .java6)) := by
  refine ⟨_, _, m.render_eq_text h, m.render_eq_text h', ?_⟩
  rw [← m.hashStatement_eq_iff]
  simp

end Render

open Registry (registered)

/-- The text of the members hangs on the source level at one place. -/
structure ByLevel (m : Metadata) : Prop where
  /-- Around the statement stand the title, the overrides in the order of the properties and the
  opening of the method, and then what closes it. -/
  text : ∃ before after : String,
    before = m.title ++ "\n" ++ String.join (m.properties.map Property.block) ++
      "\n@Override\npublic int hashCode() \x7b\n  " ∧
    ∀ {ε σ : Type} [FeatureFamily ε σ] [DecidableEq ε] (r : Registry ε) (l : SourceLevel),
      r.get? .sourceLevel = some l → m.render r = .ok (before ++ (if l = .java6
        then "return java.util.Arrays.hashCode(new Object[] \x7b" ++ m.hashArguments ++ "\x7d);"
        else "return java.util.Objects.hash(" ++ m.hashArguments ++ ");") ++ after)
  /-- Releases above 6 give one text between them, and 6 gives another, whatever else is
  registered. -/
  versions : ∀ {ε σ : Type} [FeatureFamily ε σ] [DecidableEq ε] (v w : SourceVersion)
    (fs gs : List (Feature ε)) (s s' : σ), .sourceLevel ∈ fs → .sourceLevel ∈ gs →
      ∃ code code', m.render (registered (.environment ⟨v⟩) fs s).1 = .ok code ∧
        m.render (registered (.environment ⟨w⟩) gs s').1 = .ok code' ∧
        (code = code' ↔ v.release = 6 ∧ w.release = 6 ∨ 6 < v.release ∧ 6 < w.release)
  /-- Without a version the text is that of the lowest release. -/
  testDefaults : ∀ {ε σ : Type} [FeatureFamily ε σ] [DecidableEq ε] (fs gs : List (Feature ε))
    (s s' : σ), .sourceLevel ∈ fs → .sourceLevel ∈ gs →
      m.render (registered .testDefaults fs s).1 =
        m.render (registered (.environment ⟨.minimum⟩) gs s').1

theorem byLevel (m : Metadata) : m.ByLevel where
  text := by
    refine ⟨_, "\n\x7d\n", rfl, fun r l h => ?_⟩
    rw [← hashStatement_eq]
    exact m.render_eq_text h
  versions := by
    intro ε σ _ _ v w fs gs s s' hfs hgs
    have hv := Registry.get?_registered_sourceLevel hfs (some v) s
    have hw := Registry.get?_registered_sourceLevel hgs (some w) s'
    obtain ⟨code, code', hcode, hcode', hiff⟩ := m.render_eq_render_iff hv hw
    refine ⟨code, code', hcode, hcode', ?_⟩
    rw [hiff, targetLevel, targetLevel, SourceLevel.forVersion_eq_java6_iff,
      SourceLevel.forVersion_eq_java6_iff]
    have hv6 := v.supported
    have hw6 := w.supported
    omega
  testDefaults := by
    intro ε σ _ _ fs gs s s' hfs hgs
    have hdefault := Registry.get?_registered_sourceLevel hfs none s
    have hminimum := Registry.get?_registered_sourceLevel hgs (some .minimum) s'
    exact (m.render_eq_text hdefault).trans (m.render_eq_text hminimum).symm

end Metadata

namespace ValueType

variable {t : ValueType}

theorem map_name_properties (t : ValueType) :
    t.metadata.properties.map Property.name = t.propertyNames := by
  rw [properties_eq_map, List.map_map, propertyNames_eq_map]
  exact List.map_congr_left fun a _ => a.property_name _ _

theorem comma_not_mem_name (ht : t.Sound) {p : Property} (hp : p ∈ t.metadata.properties) :
    ',' ∉ p.name.toList := by
  intro hmem
  rcases mem_name ht hp _ hmem with hpart | hdot
  · revert hpart
    decide
  · revert hdot
    decide

theorem commaPieces_hashArguments (ht : t.Sound) (hne : t.metadata.properties ≠ []) :
    (Text.commaPieces t.metadata.hashArguments.toList).map String.ofList =
      t.metadata.properties.map Property.name := by
  have hcomma : ∀ name ∈ (t.metadata.properties.map Property.name).map String.toList,
      ',' ∉ name := by
    simp only [List.map_map, List.mem_map, Function.comp_apply]
    rintro _ ⟨p, hp, rfl⟩
    exact comma_not_mem_name ht hp
  rw [Metadata.hashArguments, String.toList_intercalate]
  have hjoin : ", ".toList = [',', ' '] := rfl
  rw [hjoin, Text.commaPieces_intercalate (by simpa using hne) hcomma]
  simp

end ValueType

/-- The source level decides one statement of the members. In an accepted manifest, the arguments of
that statement are the properties in their order, each of them once. -/
theorem Metadata.render_by_level (m : Metadata) : m.ByLevel ∧
    (∀ version, Registry.standard version =
      (Registry.registered (Registry.sourceOf version) [.sourceLevel] ()).1) ∧
    ∀ d manifest t, Manifest.ofDraft d = .ok manifest → t ∈ manifest.types → m = t.metadata →
      (m.properties.map Property.name).Nodup ∧
      (m.properties ≠ [] → (Text.commaPieces m.hashArguments.toList).map String.ofList =
        m.properties.map Property.name) ∧
      (m.properties = [] → m.hashArguments = "") := by
  refine ⟨m.byLevel, Registry.standard_eq_registered, ?_⟩
  rintro d manifest t h ht rfl
  have hsound := (Manifest.ofDraft_eq_ok_iff.mp h).2.types t ht
  refine ⟨?_, ValueType.commaPieces_hashArguments hsound, ?_⟩
  · rw [ValueType.map_name_properties]
    exact hsound.propertyNames
  · intro hnil
    rw [Metadata.hashArguments, hnil]
    rfl

end AccessorGen
