import AccessorGen.Json.AsText
import AccessorGen.Proofs.Identifier
import AccessorGen.Proofs.Text

/-! What a dotted name has to be in order to be read, what it is refused for, and its text once it
has been read. -/
namespace AccessorGen.QualifiedName

variable {s : String} {n : QualifiedName} {p cs : List Char} {pieces : List (List Char)}
  {e : ParseError}

theorem segmentFault?_eq_none_iff : segmentFault? s p = none ↔ isSegment p = true := by
  cases p with
  | nil => simp [segmentFault?, isSegment]
  | cons c p => simp [segmentFault?]

theorem ne_nil_of_isSegment (h : isSegment p = true) : p ≠ [] := by
  rintro rfl
  cases h

theorem isPart_of_isSegment (h : isSegment p = true) : ∀ c ∈ p, Identifier.isPart c = true := by
  cases p with
  | nil => simp
  | cons c p =>
    obtain ⟨hc, hp⟩ := Bool.and_eq_true_iff.mp h
    exact List.forall_mem_cons.mpr ⟨Identifier.isPart_of_isStart hc, List.all_eq_true.mp hp⟩

theorem not_mem_of_isSegment (h : isSegment p = true) : '.' ∉ p := by
  intro hdot
  have hnot : Identifier.isPart '.' = false := by decide
  rw [isPart_of_isSegment h '.' hdot] at hnot
  cases hnot

theorem parse_eq_ok_iff : parse s = .ok n ↔
    (∀ p ∈ Text.segments '.' s.toList, isSegment p = true) ∧
      n = ofSegments (Text.segments '.' s.toList) := by
  unfold parse
  split
  next hempty =>
    have hs : s = "" := by simpa using hempty
    subst s
    simp [Text.segments, isSegment]
  next =>
    dsimp only
    cases hf : (Text.segments '.' s.toList).findSome? (segmentFault? s) with
    | some fault =>
      obtain ⟨p, hp, hfault⟩ := List.exists_of_findSome?_eq_some hf
      have hbad : isSegment p ≠ true := by
        intro hseg
        rw [segmentFault?_eq_none_iff.mpr hseg] at hfault
        cases hfault
      simp only [reduceCtorEq, false_iff, not_and]
      intro hall
      exact absurd (hall p hp) hbad
    | none =>
      have hall : ∀ p ∈ Text.segments '.' s.toList, isSegment p = true := by
        intro p hp
        exact segmentFault?_eq_none_iff.mp (List.findSome?_eq_none_iff.mp hf p hp)
      rw [and_iff_right hall, Except.ok.injEq]
      exact eq_comm

theorem ofSegments_concat (package : List (List Char)) (name : List Char) :
    ofSegments (package ++ [name]) =
      ⟨String.ofList (['.'].intercalate package), String.ofList name⟩ := by
  simp [ofSegments]

/-- The text of a name joins its pieces; without a package there is nothing to join. -/
theorem toString_ofSegments (hne : pieces ≠ []) (h : ∀ p ∈ pieces, p ≠ []) :
    toString (ofSegments pieces) = String.ofList (['.'].intercalate pieces) := by
  obtain ⟨package, name, rfl⟩ := (List.eq_nil_or_concat' pieces).resolve_left hne
  rw [ofSegments_concat]
  change QualifiedName.toString _ = _
  rw [QualifiedName.toString]
  cases package with
  | nil => simp
  | cons p package =>
    obtain ⟨c, p, rfl⟩ := List.exists_cons_of_ne_nil (h p (by simp))
    rw [Text.intercalate_concat (List.cons_ne_nil (c :: p) package), if_neg (by simp)]
    apply String.toList_injective
    simp

/-- The text of a name that was read is the text it was read from. -/
theorem toString_of_parse (h : parse s = .ok n) : toString n = s := by
  obtain ⟨hall, rfl⟩ := parse_eq_ok_iff.mp h
  rw [toString_ofSegments Text.segments_ne_nil (fun p hp => ne_nil_of_isSegment (hall p hp)),
    Text.intercalate_segments, String.ofList_toList]

theorem mem_toString_of_parse (h : parse s = .ok n) :
    ∀ c ∈ (toString n).toList, c = '.' ∨ Identifier.isPart c = true := by
  intro c hc
  have hpieces : ['.'].intercalate (Text.segments '.' s.toList) = s.toList :=
    Text.intercalate_segments
  rw [toString_of_parse h, ← hpieces] at hc
  obtain hdot | ⟨piece, hpiece, hc⟩ := Text.mem_of_mem_intercalate hc
  · exact .inl (List.mem_singleton.mp hdot)
  · exact .inr (isPart_of_isSegment ((parse_eq_ok_iff.mp h).1 piece hpiece) c hc)

theorem simpleName_of_parse (h : parse s = .ok n) (hp : n.package = "") : n.simpleName = s := by
  have hs := toString_of_parse h
  change QualifiedName.toString n = s at hs
  simpa [QualifiedName.toString, hp] using hs

/-- A letter, `_` or `$`, and behind it any number of letters, digits, `_` and `$`. -/
def Segment (p : List Char) : Prop :=
  ∃ c rest, p = c :: rest ∧ (Unicode.isAlphabetic c ∨ c = '_' ∨ c = '$') ∧
    ∀ d ∈ rest, Unicode.isAlphanumeric d ∨ d = '_' ∨ d = '$'

/-- The dotted texts, each with the segments that its dots join. -/
inductive Dotted : List Char → List (List Char) → Prop
  | last {p : List Char} (h : Segment p) : Dotted p [p]
  | join {p cs : List Char} {ps : List (List Char)} (h : Segment p) (hcs : Dotted cs ps) :
      Dotted (p ++ '.' :: cs) (p :: ps)

/-- The leftmost piece between the dots of a text that is no segment. -/
def FirstBad (s : String) (p : List Char) : Prop :=
  ∃ before after, s.toList.splitOn '.' = before ++ p :: after ∧
    (∀ q ∈ before, Segment q) ∧ ¬ Segment p

/-- The names that dotted texts are read as. -/
structure WellFormed (n : QualifiedName) : Prop where
  simpleName : Segment n.simpleName.toList
  package : n.package = "" ∨ ∃ segments, Dotted n.package.toList segments

theorem segment_iff : Segment p ↔ isSegment p = true := by
  cases p with
  | nil => simp [Segment, isSegment]
  | cons c p => simp [Segment, isSegment, Identifier.isStart, Identifier.isPart, or_assoc]

theorem dotted_iff : Dotted cs pieces ↔
    pieces ≠ [] ∧ (∀ p ∈ pieces, Segment p) ∧ cs = ['.'].intercalate pieces := by
  constructor
  · intro h
    induction h with
    | last h => simp [h]
    | @join p cs ps h _ ih =>
      obtain ⟨hne, hall, rfl⟩ := ih
      obtain ⟨q, ps, rfl⟩ := List.exists_cons_of_ne_nil hne
      refine ⟨List.cons_ne_nil _ _, List.forall_mem_cons.mpr ⟨h, hall⟩, ?_⟩
      rw [List.intercalate_cons_cons]
      simp
  · rintro ⟨hne, hall, rfl⟩
    induction pieces with
    | nil => exact absurd rfl hne
    | cons p ps ih =>
      obtain ⟨hp, hps⟩ := List.forall_mem_cons.mp hall
      cases ps with
      | nil =>
        rw [List.intercalate_singleton]
        exact .last hp
      | cons q ps =>
        rw [List.intercalate_cons_cons, List.append_assoc]
        exact .join hp (ih (List.cons_ne_nil q ps) hps)

/-- The segments of a dotted text are its pieces, since no dot stands in a segment. -/
theorem dotted_iff_segments : Dotted cs pieces ↔
    (∀ p ∈ Text.segments '.' cs, isSegment p = true) ∧ pieces = Text.segments '.' cs := by
  rw [dotted_iff]
  constructor
  · rintro ⟨hne, hall, rfl⟩
    have hdot : ∀ p ∈ pieces, '.' ∉ p :=
      fun p hp => not_mem_of_isSegment (segment_iff.mp (hall p hp))
    rw [Text.segments_eq_splitOn, List.splitOn_intercalate '.' hdot hne]
    exact ⟨fun p hp => segment_iff.mp (hall p hp), rfl⟩
  · rintro ⟨hall, rfl⟩
    exact ⟨Text.segments_ne_nil, fun p hp => segment_iff.mpr (hall p hp),
      Text.intercalate_segments.symm⟩

theorem Dotted.unique {pieces' : List (List Char)} (h : Dotted cs pieces)
    (h' : Dotted cs pieces') : pieces = pieces' :=
  (dotted_iff_segments.mp h).2.trans (dotted_iff_segments.mp h').2.symm

theorem parse_eq_ok_iff_dotted : parse s = .ok n ↔
    ∃ pieces, Dotted s.toList pieces ∧ n = ofSegments pieces := by
  simp only [parse_eq_ok_iff, dotted_iff_segments]
  constructor
  · rintro ⟨hall, rfl⟩
    exact ⟨_, ⟨hall, rfl⟩, rfl⟩
  · rintro ⟨_, ⟨hall, rfl⟩, rfl⟩
    exact ⟨hall, rfl⟩

theorem exists_parse_iff :
    (∃ n, parse s = .ok n) ↔ ∃ segments, Dotted s.toList segments := by
  simp only [parse_eq_ok_iff_dotted]
  constructor
  · rintro ⟨_, segments, h, _⟩
    exact ⟨segments, h⟩
  · rintro ⟨segments, h⟩
    exact ⟨_, segments, h, rfl⟩

/-- The last segment is the simple name, and the others make up the package. -/
theorem parts_of_parse {package : List (List Char)} {name : List Char} (hn : parse s = .ok n)
    (h : Dotted s.toList (package ++ [name])) :
    n.package = String.ofList (['.'].intercalate package) ∧ n.simpleName = String.ofList name := by
  obtain ⟨segments, hsegments, rfl⟩ := parse_eq_ok_iff_dotted.mp hn
  rw [hsegments.unique h, ofSegments_concat]
  exact ⟨rfl, rfl⟩

theorem parse_inj {s' : String} {n' : QualifiedName} (hn : parse s = .ok n)
    (hn' : parse s' = .ok n') : n = n' ↔ s = s' := by
  constructor
  · rintro rfl
    rw [← toString_of_parse hn, ← toString_of_parse hn']
  · rintro rfl
    rw [hn] at hn'
    exact Except.ok.inj hn'

theorem Dotted.ne_nil (h : Dotted cs pieces) : cs ≠ [] := by
  cases h with
  | last hp => exact ne_nil_of_isSegment (segment_iff.mp hp)
  | join _ _ => simp

theorem Dotted.concat {package name : List Char} {segments : List (List Char)}
    (h : Dotted package segments) (hname : Segment name) :
    Dotted (package ++ '.' :: name) (segments ++ [name]) := by
  induction h with
  | last hp => exact .join hp (.last hname)
  | join hp _ ih =>
    rw [List.append_assoc]
    exact .join hp ih

theorem wellFormed_of_parse (h : parse s = .ok n) : n.WellFormed := by
  obtain ⟨pieces, hpieces, rfl⟩ := parse_eq_ok_iff_dotted.mp h
  obtain ⟨hne, hall, _⟩ := dotted_iff.mp hpieces
  obtain ⟨package, name, rfl⟩ := (List.eq_nil_or_concat' pieces).resolve_left hne
  obtain ⟨hpackage, hname⟩ := List.forall_mem_append.mp hall
  rw [ofSegments_concat]
  refine ⟨by simpa using hname, ?_⟩
  by_cases hnil : package = []
  · exact .inl (by simp [hnil])
  · exact .inr ⟨package, dotted_iff.mpr ⟨hnil, hpackage, by simp⟩⟩

/-- The text of a name is read as the name itself, wherever the name comes from. -/
theorem parse_toString_of_wellFormed (h : n.WellFormed) : parse (toString n) = .ok n := by
  obtain ⟨package, name⟩ := n
  obtain ⟨hname, rfl | ⟨segments, hpackage⟩⟩ := h
  · exact parse_eq_ok_iff_dotted.mpr ⟨[name.toList], .last hname, by simp [ofSegments]⟩
  · have htext : (toString (⟨package, name⟩ : QualifiedName)).toList =
        package.toList ++ '.' :: name.toList := by
      change (QualifiedName.toString _).toList = _
      have hne : package ≠ "" := by simpa using hpackage.ne_nil
      simp [QualifiedName.toString, hne]
    have hdotted := htext ▸ hpackage.concat hname
    refine parse_eq_ok_iff_dotted.mpr ⟨segments ++ [name.toList], hdotted, ?_⟩
    rw [ofSegments_concat, ← (dotted_iff.mp hpackage).2.2, String.ofList_toList,
      String.ofList_toList]

theorem ofJson_toJson_of_wellFormed (h : n.WellFormed) : ofJson n.toJson = .ok n := by
  have hread : ofJson n.toJson = (parse (toString n)).mapError .refused := rfl
  rw [hread, parse_toString_of_wellFormed h]
  rfl

theorem FirstBad.not_segment (h : FirstBad s p) : ¬ Segment p := by
  obtain ⟨_, _, _, _, hp⟩ := h
  exact hp

theorem FirstBad.of_empty (h : FirstBad "" p) : p = [] := by
  obtain ⟨before, after, hpieces, _, _⟩ := h
  have hmem : p ∈ before ++ p :: after := by simp
  rw [← hpieces] at hmem
  simpa using hmem

theorem segmentFault?_eq_some_iff : segmentFault? s p = some e ↔
    p = [] ∧ e = .emptySegment s ∨
      p ≠ [] ∧ ¬ Segment p ∧ e = .invalidSegment s (String.ofList p) := by
  rw [segment_iff, segmentFault?, eq_comm (a := e), eq_comm (a := e)]
  cases p with
  | nil => simp
  | cons c p => cases isSegment (c :: p) <;> simp

/-- The first fault that is found is that of the leftmost bad piece. -/
theorem findSome?_segmentFault?_iff :
    (Text.segments '.' s.toList).findSome? (segmentFault? s) = some e ↔
      ∃ p, FirstBad s p ∧ segmentFault? s p = some e := by
  have hnone (p : List Char) : segmentFault? s p = none ↔ Segment p :=
    segmentFault?_eq_none_iff.trans segment_iff.symm
  rw [List.findSome?_eq_some_iff, Text.segments_eq_splitOn]
  constructor
  · rintro ⟨before, p, after, hpieces, hfault, hbefore⟩
    have hbad : ¬ Segment p := by
      rw [← hnone p, hfault]
      exact Option.some_ne_none e
    exact ⟨p, ⟨before, after, hpieces, fun q hq => (hnone q).mp (hbefore q hq), hbad⟩, hfault⟩
  · rintro ⟨p, ⟨before, after, hpieces, hbefore, _⟩, hfault⟩
    exact ⟨before, p, after, hpieces, hfault, fun q hq => (hnone q).mpr (hbefore q hq)⟩

theorem parse_eq_error_iff (hs : s ≠ "") : parse s = .error e ↔
    ∃ p, FirstBad s p ∧ segmentFault? s p = some e := by
  rw [← findSome?_segmentFault?_iff, parse, if_neg (by simpa using hs)]
  dsimp only
  cases (Text.segments '.' s.toList).findSome? (segmentFault? s) with
  | none => simp
  | some fault => simp

theorem parse_empty : parse "" = .error .empty := rfl

theorem parse_empty_iff : parse s = .error .empty ↔ s = "" := by
  constructor
  · intro h
    by_contra hs
    obtain ⟨p, _, hfault⟩ := (parse_eq_error_iff hs).mp h
    simp [segmentFault?_eq_some_iff] at hfault
  · rintro rfl
    exact parse_empty

theorem parse_emptySegment_iff {text : String} : parse s = .error (.emptySegment text) ↔
    text = s ∧ s ≠ "" ∧ FirstBad s [] := by
  by_cases hs : s = ""
  · simp [hs, parse_empty]
  rw [parse_eq_error_iff hs]
  simp [segmentFault?_eq_some_iff, and_comm, hs]

theorem parse_invalidSegment_iff {text segment : String} :
    parse s = .error (.invalidSegment text segment) ↔
      text = s ∧ segment ≠ "" ∧ FirstBad s segment.toList := by
  by_cases hs : s = ""
  · subst hs
    simp only [parse_empty, Except.error.injEq, reduceCtorEq, false_iff]
    rintro ⟨_, hne, h⟩
    exact hne (String.toList_eq_nil_iff.mp h.of_empty)
  rw [parse_eq_error_iff hs]
  simp only [segmentFault?_eq_some_iff, reduceCtorEq, and_false, false_or,
    ParseError.invalidSegment.injEq]
  constructor
  · rintro ⟨p, h, hne, _, rfl, rfl⟩
    exact ⟨rfl, by simpa using hne, by rwa [String.toList_ofList]⟩
  · rintro ⟨rfl, hne, h⟩
    exact ⟨segment.toList, h, by simpa using hne, h.not_segment, rfl, by simp⟩

/-- Names are read from the dotted texts and from no others, and their text is the one that they
are read from. What is refused is refused for its leftmost bad piece. -/
theorem parse_by_segments (s : String) :
    ((∃ n, parse s = .ok n) ↔ ∃ segments, Dotted s.toList segments) ∧
    (∀ n package name, parse s = .ok n → Dotted s.toList (package ++ [name]) →
      n.package = String.ofList (['.'].intercalate package) ∧
        n.simpleName = String.ofList name) ∧
    (∀ n, parse s = .ok n → n.WellFormed ∧ toString n = s ∧ n.toJson = .string s) ∧
    (∀ s' n n', parse s = .ok n → parse s' = .ok n' → (n = n' ↔ s = s')) ∧
    (∀ n : QualifiedName, n.WellFormed →
      parse (toString n) = .ok n ∧ ofJson n.toJson = .ok n) ∧
    (parse s = .error .empty ↔ s = "") ∧
    (∀ text, parse s = .error (.emptySegment text) ↔ text = s ∧ s ≠ "" ∧ FirstBad s []) ∧
    ∀ text segment, parse s = .error (.invalidSegment text segment) ↔
      text = s ∧ segment ≠ "" ∧ FirstBad s segment.toList := by
  refine ⟨exists_parse_iff, fun _ _ _ => parts_of_parse, fun n hn => ?_,
    fun _ _ _ => parse_inj, fun n hn => ?_, parse_empty_iff, fun _ => parse_emptySegment_iff,
    fun _ _ => parse_invalidSegment_iff⟩
  · have htext := toString_of_parse hn
    exact ⟨wellFormed_of_parse hn, htext, congrArg Json.string htext⟩
  · exact ⟨parse_toString_of_wellFormed hn, ofJson_toJson_of_wellFormed hn⟩

end AccessorGen.QualifiedName
