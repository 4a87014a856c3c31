import AccessorGen.Proofs.BindingPolicy
import AccessorGen.Proofs.MethodNames
import AccessorGen.Proofs.Regeneration

/-! The text of the members holds all that they were made from. It falls into lines, the lines into
paragraphs at the blank ones, and a paragraph into the annotations and the texts of a property. -/
namespace AccessorGen

open Code

/-- No text of the property breaks its line, and no annotation leaves its line blank. -/
structure Property.Legible (p : Property) : Prop where
  name : '\n' ∉ p.name.toList
  getterName : '\n' ∉ p.getterName.toList ∧ ' ' ∉ p.getterName.toList
  typeName : '\n' ∉ p.typeName.toList
  annotations : ∀ e ∈ p.accessorAnnotations, OneLine (toString e)

structure Metadata.Legible (m : Metadata) : Prop where
  typeName : '\n' ∉ (toString m.typeName).toList
  properties : ∀ p ∈ m.properties, p.Legible

variable {p p' : Property} {m m' : Metadata} {l : SourceLevel} {s : String}

namespace Property

theorem oneLine_header (h : p.Legible) : OneLine p.header := by
  have hpublic : OneLine "public " := by decide
  have htype := hpublic.append h.typeName
  have hgetter := (htype.append (u := " ") (by decide)).append h.getterName.1
  rw [header_eq]
  exact hgetter.append (by decide)

theorem oneLine_body (h : p.Legible) : OneLine p.body := by
  have hreturn : OneLine "  return " := by decide
  rw [body_eq]
  exact (hreturn.append h.name).append (by decide)

theorem oneLine_of_mem (h : p.Legible) (hs : s ∈ p.overrideLines) : OneLine s := by
  rw [overrideLines, List.cons_append, List.mem_cons, List.mem_append, List.mem_map] at hs
  simp only [List.mem_cons, List.not_mem_nil, or_false] at hs
  rcases hs with rfl | ⟨e, he, rfl⟩ | rfl | rfl | rfl
  · decide
  · exact h.annotations e he
  · exact oneLine_header h
  · exact oneLine_body h
  · decide

/-- The name of the accessor ends where its line does, so the return type before it may be any
text. -/
theorem texts_eq_of_overrideLines (h : p.Legible) (h' : p'.Legible)
    (heq : p.overrideLines = p'.overrideLines) : p.texts = p'.texts := by
  obtain ⟨hannotations, hlines⟩ := List.append_inj' heq rfl
  have htexts := (List.cons.inj hannotations).2
  obtain ⟨hheader, hbody⟩ : p.header = p'.header ∧ p.body = p'.body := by simpa using hlines
  have hname : p.name = p'.name := by
    rw [body_eq, body_eq] at hbody
    simpa [String.append_assoc] using hbody
  have hgetter : p.getterName = p'.getterName := by
    have hmethod := methodName?_header h.getterName.2
    rw [hheader, methodName?_header h'.getterName.2] at hmethod
    exact (Option.some.inj hmethod).symm
  have htype : p.typeName = p'.typeName := by
    rw [header_eq, header_eq, hgetter] at hheader
    simpa [String.append_assoc] using hheader
  exact texts_eq_iff.mpr ⟨hname, hgetter, htype, htexts⟩

end Property

namespace Metadata

theorem newline_not_mem_hashArguments (h : ∀ p ∈ m.properties, '\n' ∉ p.name.toList) :
    '\n' ∉ m.hashArguments.toList := by
  intro hmem
  rw [hashArguments, String.toList_intercalate] at hmem
  rcases Text.mem_of_mem_intercalate hmem with hmem | ⟨piece, hpiece, hmem⟩
  · revert hmem
    decide
  · simp only [List.mem_map] at hpiece
    obtain ⟨_, ⟨p, hp, rfl⟩, rfl⟩ := hpiece
    exact h p hp hmem

/-- The arguments stand between two texts that the source level alone decides. -/
theorem exists_hashStatement_eq (l : SourceLevel) : ∃ before after : String,
    '\n' ∉ before.toList ∧ '\n' ∉ after.toList ∧
      ∀ m : Metadata, m.hashStatement l = before ++ m.hashArguments ++ after := by
  have hobjects : '\n' ∉
      ("return " ++ toString (⟨"java.util", "Objects"⟩ : QualifiedName) ++ ".hash(").toList := by
    decide
  cases l with
  | java6 =>
    exact ⟨"return java.util.Arrays.hashCode(new Object[] \x7b", "\x7d);", by decide, by decide,
      fun _ => rfl⟩
  | java7 => exact ⟨_, ");", hobjects, by decide, fun _ => rfl⟩
  | java8 => exact ⟨_, ");", hobjects, by decide, fun _ => rfl⟩

theorem oneLine_hashLine (h : ∀ p ∈ m.properties, '\n' ∉ p.name.toList)
    (hs : s ∈ m.hashLines l) : OneLine s := by
  rw [hashLines] at hs
  simp only [List.mem_cons, List.not_mem_nil, or_false] at hs
  rcases hs with rfl | rfl | rfl | rfl
  · decide
  · decide
  · obtain ⟨before, after, hbefore, hafter, hstatement⟩ := exists_hashStatement_eq l
    have harguments := newline_not_mem_append hbefore (newline_not_mem_hashArguments h)
    have hindent : OneLine "  " := by decide
    rw [hstatement]
    exact hindent.append (newline_not_mem_append harguments hafter)
  · decide

theorem oneLine_title (h : '\n' ∉ (toString m.typeName).toList) : OneLine m.title := by
  have hopening : OneLine "/** Accessors of \x7b@link " := by decide
  rw [title_eq]
  exact (hopening.append h).append (by decide)

theorem oneLine_paragraph (h : m.Legible) {paragraph : List String}
    (hparagraph : paragraph ∈ m.paragraphs l) (hs : s ∈ paragraph) : OneLine s := by
  rw [paragraphs, List.mem_cons, List.mem_append, List.mem_map, List.mem_singleton] at hparagraph
  rcases hparagraph with rfl | ⟨p, hp, rfl⟩ | rfl
  · rw [List.mem_singleton.mp hs]
    exact oneLine_title h.typeName
  · exact Property.oneLine_of_mem (h.properties p hp) hs
  · exact oneLine_hashLine (fun p hp => (h.properties p hp).name) hs

theorem newline_not_mem_line (h : m.Legible) :
    ∀ s ∈ ofParagraphs (m.paragraphs l), '\n' ∉ s.toList := by
  intro s hs
  rcases mem_ofParagraphs hs with rfl | ⟨paragraph, hparagraph, hs⟩
  · decide
  · exact (oneLine_paragraph h hparagraph hs).newline_not_mem

theorem empty_not_mem_paragraph (h : m.Legible) : ∀ paragraph ∈ m.paragraphs l, "" ∉ paragraph := by
  intro paragraph hparagraph hempty
  exact (oneLine_paragraph h hparagraph hempty).ne_empty rfl

theorem paragraphs_inj (h : m.Legible) (h' : m'.Legible)
    (heq : (({} : Writer).emit (m.fragments l)).text =
      (({} : Writer).emit (m'.fragments l)).text) : m.paragraphs l = m'.paragraphs l := by
  rw [text_emit, text_emit] at heq
  have hlines := ofLines_inj (newline_not_mem_line h) (newline_not_mem_line h') heq
  exact ofParagraphs_inj (empty_not_mem_paragraph h) (empty_not_mem_paragraph h')
    (List.cons_ne_nil _ _) (List.cons_ne_nil _ _) hlines

/-- The last paragraph is the hash code, whatever the accessors before it are called. -/
theorem texts_eq_of_paragraphs (h : m.Legible) (h' : m'.Legible)
    (heq : m.paragraphs l = m'.paragraphs l) : m.texts = m'.texts := by
  obtain ⟨htitle, hrest⟩ := List.cons.inj heq
  have hname : toString m.typeName = toString m'.typeName := by
    have htitle : m.title = m'.title := List.singleton_inj.mp htitle
    rw [title_eq, title_eq] at htitle
    simpa [String.append_assoc] using htitle
  obtain ⟨hoverrides, _⟩ := List.append_inj' hrest (by simp)
  have hproperties := Manifest.map_eq_map_of_map_eq_map hoverrides fun p hp p' hp' =>
    Property.texts_eq_of_overrideLines (h.properties p hp) (h'.properties p' hp')
  exact texts_eq_iff.mpr ⟨hname, hproperties⟩

end Metadata

namespace ValueType

variable {t t' : ValueType}

/-- Whatever is taken from an accessor as it is written stays on its line. -/
structure SingleLine (t : ValueType) : Prop where
  returnTypes : ∀ a ∈ t.accessors, '\n' ∉ a.returnType.toList
  annotations : ∀ a ∈ t.accessors, ∀ u ∈ a.annotations, '\n' ∉ u.literal.toList

theorem newline_ne_of_isPart {c : Char} (h : Identifier.isPart c = true) : c ≠ '\n' := by
  rintro rfl
  revert h
  decide

theorem newline_not_mem_typeName (h : t.Readable) : '\n' ∉ (toString t.name).toList := by
  intro hmem
  rcases QualifiedName.mem_toString_of_parse h.name _ hmem with hdot | hpart
  · revert hdot
    decide
  · exact newline_ne_of_isPart hpart rfl

theorem newline_not_mem_name (ht : t.Sound) (hp : p ∈ t.metadata.properties) :
    '\n' ∉ p.name.toList := by
  intro hmem
  rcases mem_name ht hp _ hmem with hpart | hdot
  · exact newline_ne_of_isPart hpart rfl
  · revert hdot
    decide

theorem newline_not_mem_getterName (ht : t.Sound) (hp : p ∈ t.metadata.properties) :
    '\n' ∉ p.getterName.toList := by
  intro hmem
  exact newline_ne_of_isPart (isPart_of_mem_getterName ht hp _ hmem) rfl

theorem literal_ne_empty {u : AnnotationUse} (h : AnnotationUse.parse (toString u) = .ok u) :
    u.literal ≠ "" := by
  intro hempty
  have hfault : AnnotationUse.parse "" = .error .missingAt := by decide
  have htext : toString u = "" := hempty
  rw [htext, hfault] at h
  cases h

theorem oneLine_jsonProperty (name : String) :
    OneLine (toString (AnnotationLine.jsonProperty name)) := by
  have htype : '\n' ∉ (toString jsonPropertyType).toList := by decide
  have hname := StringLiteral.newline_not_mem_encode name.toList
  rw [AnnotationLine.toString_jsonProperty]
  constructor
  · simp [htype, hname]
  · simp

theorem oneLine_due (ht : t.Readable) (hl : t.SingleLine) {a : Accessor} (ha : a ∈ t.accessors)
    {active : Bool} {name : String} {e : AnnotationLine} (he : a.due active name = some e) :
    OneLine (toString e) := by
  rcases JsonBinding.decideFor_cases (Accessor.decideFor_of_due he) with
    ⟨u, hfind, rfl⟩ | ⟨_, rfl⟩
  · have hu := (AnnotationUse.type_of_find? hfind).1
    exact ⟨hl.annotations a ha u hu, literal_ne_empty (ht.accessors a ha u hu)⟩
  · exact oneLine_jsonProperty name

theorem legible_property (hs : t.Sound) (ht : t.Readable) (hl : t.SingleLine)
    (hp : p ∈ t.metadata.properties) : p.Legible where
  name := newline_not_mem_name hs hp
  getterName := ⟨newline_not_mem_getterName hs hp, space_not_mem_getterName hs hp⟩
  typeName := by
    obtain ⟨a, ha, rfl⟩ := mem_properties_iff.mp hp
    rw [Accessor.property_typeName]
    exact hl.returnTypes a ha
  annotations := by
    obtain ⟨a, ha, rfl⟩ := mem_properties_iff.mp hp
    intro e he
    rw [Accessor.property_accessorAnnotations, Option.mem_toList] at he
    exact oneLine_due ht hl ha he

theorem legible_metadata (hs : t.Sound) (ht : t.Readable) (hl : t.SingleLine) :
    t.metadata.Legible where
  typeName := newline_not_mem_typeName ht
  properties := fun _ hp => legible_property hs ht hl hp

theorem name_eq_of_toString (ht : t.Readable) (ht' : t'.Readable)
    (h : toString t.name = toString t'.name) : t.name = t'.name := by
  have hname := ht.name
  rw [h, ht'.name] at hname
  exact (Except.ok.inj hname).symm

end ValueType

namespace Manifest

variable {d d' : Draft} {m m' : Manifest} {t t' : ValueType} {ε σ : Type} [FeatureFamily ε σ]
  [DecidableEq ε] {r : Registry ε}

theorem legible_of_accepted (h : ofDraft d = .ok m) (ht : t ∈ m.types) (hl : t.SingleLine) :
    t.metadata.Legible := by
  have hsound := (ofDraft_eq_ok_iff.mp h).2.types t ht
  exact ValueType.legible_metadata hsound (readable_of_accepted h ht) hl

/-- The members of accepted types are printed alike only if the types have the same name and, one
by one, properties of the same texts. -/
theorem rendered_eq_iff_writtenAlike (h : ofDraft d = .ok m) (ht : t ∈ m.types)
    (h' : ofDraft d' = .ok m') (ht' : t' ∈ m'.types) (hl : t.SingleLine) (hl' : t'.SingleLine)
    (hr : (r.get? .sourceLevel).isSome) : ∃ code code' : String,
      t.metadata.render r = .ok code ∧ t'.metadata.render r = .ok code' ∧
        (code = code' ↔ t.metadata.WrittenAlike t'.metadata) := by
  obtain ⟨l, hlevel⟩ := Option.isSome_iff_exists.mp hr
  refine ⟨_, _, Metadata.render_eq_ok hlevel _, Metadata.render_eq_ok hlevel _, ?_⟩
  constructor
  · intro hcode
    have hlegible := legible_of_accepted h ht hl
    have hlegible' := legible_of_accepted h' ht' hl'
    have hparagraphs := Metadata.paragraphs_inj hlegible hlegible' hcode
    have htexts := Metadata.texts_eq_of_paragraphs hlegible hlegible' hparagraphs
    obtain ⟨hname, hproperties⟩ := Metadata.texts_eq_iff.mp htexts
    have hread := readable_of_accepted h ht
    have hread' := readable_of_accepted h' ht'
    exact ⟨ValueType.name_eq_of_toString hread hread' hname, hproperties⟩
  · intro halike
    have hfragments := Metadata.fragments_congr halike.texts_eq l
    exact congrArg (fun fs => (({} : Writer).emit fs).text) hfragments

/-- The accessor is due a new annotation. -/
def freshType : ValueType := ⟨⟨"a", "B"⟩, [.marker JsonBinding.trigger], [⟨"getX", "int", []⟩]⟩

theorem freshType_rendered :
    ofDraft (written ⟨none, [freshType]⟩) = .ok ⟨none, [freshType]⟩ ∧
      ofDraft (written ⟨none, [freshType.adopted]⟩) = .ok ⟨none, [freshType.adopted]⟩ ∧
      freshType.metadata ≠ freshType.adopted.metadata ∧
      freshType.metadata.WrittenAlike freshType.adopted.metadata := by
  have h : ofDraft (written ⟨none, [freshType]⟩) = .ok ⟨none, [freshType]⟩ := by
    decide +kernel
  have h' : ofDraft (written ⟨none, [freshType.adopted]⟩) = .ok ⟨none, [freshType.adopted]⟩ := by
    decide +kernel
  have hl : freshType.SingleLine := ⟨by decide, by decide⟩
  have hl' : freshType.adopted.SingleLine := ⟨by decide, by decide⟩
  obtain ⟨code, code', hcode, hcode', hiff⟩ := rendered_eq_iff_writtenAlike h List.mem_cons_self h'
    List.mem_cons_self hl hl' (r := Registry.standard none) rfl
  have hsame : freshType.metadata.render (Registry.standard none) =
      freshType.adopted.metadata.render (Registry.standard none) := rfl
  have halike : code = code' := by
    rw [hcode, hcode'] at hsame
    exact Except.ok.inj hsame
  exact ⟨h, h', by decide, hiff.mp halike⟩

end Manifest

end AccessorGen
