import AccessorGen.Proofs.Layout
import AccessorGen.Proofs.RunOutcomes

/-! What `generate` prints is made of one block for each type, and depends on nothing but the types
that are asked for and, unless it is a report, on the source level. -/
namespace AccessorGen

/-- The members of a type are whole lines. -/
theorem ValueType.exists_code_eq_ofLines (t : ValueType) (l : SourceLevel) :
    ∃ ls, t.code l = Code.ofLines ls := by
  let w : Code.Writer := {}
  have hcode : t.code l = "" ++ Code.ofLines _ :=
    congrArg Code.Writer.text (w.emit_eq_write (t.metadata.fragments l))
  exact ⟨_, hcode.trans String.empty_append⟩

namespace Manifest

variable {d : Draft} {m m' : Manifest} {text : Spanned String} {v : SourceVersion}

theorem find?_congr (h : m'.types = m.types) (name : String) : m'.find? name = m.find? name := by
  rw [find?, find?, h]

/-- The source version has no part in whether the types are accepted. -/
theorem ofDraft_set_source (h : ofDraft d = .ok m) (hv : SourceVersion.parse text.value = .ok v) :
    ofDraft { d with source := some text } = .ok { m with sourceVersion := some v } := by
  obtain ⟨⟨_, htypes⟩, ⟨hsound, hnodup⟩⟩ := ofDraft_eq_ok_iff.mp h
  exact ofDraft_eq_ok_iff.mpr ⟨⟨.some hv, htypes⟩, ⟨hsound, hnodup⟩⟩

/-- Fields whose names stand in order are read as they stand. -/
theorem fieldsOf_of_sorted {kind : Toml.TableKind} {entries : List (String × Toml.Value)}
    (h : (entries.map Prod.fst).Pairwise (· ≤ ·)) :
    fieldsOf (.table kind entries) = .ok (.named entries) := by
  rw [fieldsOf, List.mergeSort_of_pairwise]
  simpa [List.pairwise_map] using h

theorem parse_of_sorted {text : String} {document : Toml.Table}
    (hdocument : Toml.parse? text = some document)
    (hsorted : (document.entries.map Prod.fst).Pairwise (· ≤ ·))
    (hread : readNamed ["environment", "types"] Draft.readField {} document.entries = .ok d)
    (file : String) : parse text file = (ofDraft d).mapError (.faulty file) := by
  have hdraft : Draft.ofTable document = .ok d := by
    rw [Draft.ofTable, Toml.Table.toValue, fieldsOf_of_sorted hsorted]
    exact hread
  simp only [parse, hdocument, hdraft]

end Manifest

namespace CommandLine

/-- The text that is printed for the given types. -/
def generated (json : Bool) (l : SourceLevel) (ts : List ValueType) : String :=
  if json then (Json.array (ts.map fun t => t.metadata.toJson)).pretty ++ "\n"
  else "\n".intercalate (ts.map (ValueType.block l))

theorem generated_source (l : SourceLevel) (ts : List ValueType) :
    generated false l ts = "\n".intercalate (ts.map (ValueType.block l)) := rfl

theorem generated_report (l : SourceLevel) (ts : List ValueType) :
    generated true l ts = (Json.array (ts.map fun t => t.metadata.toJson)).pretty ++ "\n" := rfl

variable {files files' : Files} {path path' : String} {m m' : Manifest} {args args' : List String}
  {source source' : Option SourceVersion} {type : Option String} {json : Bool}
  {ts : List ValueType} {failure : Failure}

theorem outcome_generate (hm : Manifest.parseFile path (files path) = .ok m)
    (hargs : parse args = .ok (.generate path source type json))
    (hts : selectTypes m path type = .ok ts) :
    outcome files args = ⟨0, generated json (targetLevel (source.or m.sourceVersion)) ts⟩ := by
  cases json with
  | true =>
    rw [outcome_of_print hargs (run_generate_json hm hts), metadataReport, List.map_map]
    rfl
  | false =>
    rw [outcome_of_print hargs (run_generate hm hts)]
    rfl

/-- For its outcome a run needs nothing of its manifest but the types, and the source version if
source is printed. -/
theorem outcome_generate_congr (hm : Manifest.parseFile path (files path) = .ok m)
    (hm' : Manifest.parseFile path' (files' path') = .ok m') (htypes : m'.types = m.types)
    (hsource : json = false → source'.or m'.sourceVersion = source.or m.sourceVersion)
    (hargs : parse args = .ok (.generate path source type json))
    (hargs' : parse args' = .ok (.generate path' source' type json)) :
    outcome files args = outcome files' args' := by
  have htext (ts : List ValueType) :
      generated json (targetLevel (source.or m.sourceVersion)) ts =
        generated json (targetLevel (source'.or m'.sourceVersion)) ts := by
    cases json with
    | true => rfl
    | false => rw [hsource rfl]
  cases type with
  | none =>
    rw [outcome_generate hm hargs rfl, outcome_generate hm' hargs' rfl, htypes, htext]
  | some name =>
    have hfind : m'.find? name = m.find? name := Manifest.find?_congr htypes name
    cases hname : m.find? name with
    | some t =>
      rw [outcome_generate hm hargs (selectTypes_of_find? hname path),
        outcome_generate hm' hargs' (selectTypes_of_find? (hfind.trans hname) path'), htext]
    | none =>
      have hno := selectTypes_of_not_found hname path
      have hno' := selectTypes_of_not_found (hfind.trans hname) path'
      rw [outcome_of_fail hargs (run_generate_error hm hno),
        outcome_of_fail hargs' (run_generate_error hm' hno')]
      rfl

/-- What can be said of all runs of `generate` on an accepted manifest. -/
structure Generates (files : Files) (path : String) (m : Manifest) : Prop where
  /-- One block for each type, with blank lines between them. -/
  blocks : ∀ args source, parse args = .ok (.generate path source none false) →
    outcome files args = ⟨0, "\n".intercalate
      (m.types.map (ValueType.block (targetLevel (source.or m.sourceVersion))))⟩
  /-- A type that is asked for is printed as it is among the others. -/
  block : ∀ args source name t, parse args = .ok (.generate path source (some name) false) →
    m.find? name = some t →
    outcome files args = ⟨0, t.block (targetLevel (source.or m.sourceVersion))⟩
  /-- A block is a line with the name of the type and the rendered members behind it, which are
  whole lines too. -/
  rendered : ∀ (t : ValueType) source, ∃ code ls,
    t.metadata.render (resolveFeatures source m.sourceVersion) = .ok code ∧
    t.block (targetLevel (source.or m.sourceVersion)) =
      "// " ++ toString t.name ++ "\n" ++ code ∧
    code = Code.ofLines ls
  /-- A version on the command line does what it does in the manifest, in place of the one there. -/
  override : ∀ files' path' m' v, Manifest.parseFile path' (files' path') = .ok m' →
    m' = { m with sourceVersion := some v } → ∀ args args' type json,
    parse args = .ok (.generate path (some v) type json) →
    parse args' = .ok (.generate path' none type json) →
    outcome files args = outcome files' args'
  /-- Any version can be written in the manifest, whatever version it has or if it has none. -/
  settable : ∀ (d : Manifest.Draft) text v, Manifest.ofDraft d = .ok m →
    SourceVersion.parse text.value = .ok v →
    Manifest.ofDraft { d with source := some text } = .ok { m with sourceVersion := some v }
  /-- A report lists the metadata of the types in their order. -/
  report : ∀ args source, parse args = .ok (.generate path source none true) →
    outcome files args = ⟨0, (Json.array (m.types.map fun t => t.metadata.toJson)).pretty ++ "\n"⟩
  reportOne : ∀ args source name t, parse args = .ok (.generate path source (some name) true) →
    m.find? name = some t →
    outcome files args = ⟨0, (Json.array [t.metadata.toJson]).pretty ++ "\n"⟩
  /-- No version has a part in a report. -/
  reportAlike : ∀ files' path' m', Manifest.parseFile path' (files' path') = .ok m' →
    m'.types = m.types → ∀ args args' source source' type,
    parse args = .ok (.generate path source type true) →
    parse args' = .ok (.generate path' source' type true) →
    outcome files args = outcome files' args'

/-- Source is generated type by type, at a level that the command line decides before the manifest,
and reports do not depend on the level. -/
theorem generate_compositional (hm : Manifest.parseFile path (files path) = .ok m) :
    Generates files path m where
  blocks := by
    intro args source hargs
    rw [outcome_generate hm hargs rfl, generated_source]
  block := by
    intro args source name t hargs hname
    rw [outcome_generate hm hargs (selectTypes_of_find? hname path), generated_source,
      List.map_singleton, String.intercalate_singleton]
  rendered := fun t source => by
    obtain ⟨ls, hls⟩ := t.exists_code_eq_ofLines (targetLevel (source.or m.sourceVersion))
    exact ⟨_, ls, t.render_eq_code (Registry.get?_standard _), rfl, hls⟩
  override := by
    rintro files' path' _ v hm' rfl args args' type json hargs hargs'
    exact outcome_generate_congr hm hm' rfl (fun _ => by simp) hargs hargs'
  settable := by
    intro d text v hd hv
    exact Manifest.ofDraft_set_source hd hv
  report := by
    intro args source hargs
    rw [outcome_generate hm hargs rfl, generated_report]
  reportOne := by
    intro args source name t hargs hname
    rw [outcome_generate hm hargs (selectTypes_of_find? hname path), generated_report,
      List.map_singleton]
  reportAlike := by
    intro files' path' m' hm' htypes args args' source source' type hargs hargs'
    exact outcome_generate_congr hm hm' htypes (fun h => by cases h) hargs hargs'

/-- Two types for a source version. -/
def twoTypesJava8 : String :=
  "environment.source = '8'\ntypes = [['a.B', [], [['getX', 'int']]], ['c.D']]\n"

/-- The same types in one manifest without the version, and in another with it. -/
def twoManifests : Files := fun path =>
  if path = Manifest.defaultPath then .ok "types = [['a.B', [], [['getX', 'int']]], ['c.D']]\n"
  else .ok twoTypesJava8

def twoTypes : Manifest :=
  ⟨none, [⟨⟨"a", "B"⟩, [], [⟨"getX", "int", []⟩]⟩, ⟨⟨"c", "D"⟩, [], []⟩]⟩

theorem parseFile_twoTypes :
    Manifest.parseFile Manifest.defaultPath (twoManifests Manifest.defaultPath) = .ok twoTypes := by
  decide +kernel

def twoTypesDraft : Manifest.Draft :=
  ⟨some ⟨"8", ⟨21, 3⟩⟩, [⟨⟨"a.B", ⟨35, 5⟩⟩, [], [⟨⟨"getX", ⟨48, 6⟩⟩, ⟨"int", ⟨56, 5⟩⟩, []⟩]⟩,
    ⟨⟨"c.D", ⟨67, 5⟩⟩, [], []⟩]⟩

theorem parseFile_twoTypes_java8 : Manifest.parseFile "8.toml" (twoManifests "8.toml") =
    .ok { twoTypes with sourceVersion := some java8 } := by
  -- Its two fields are in order, so they need not be sorted to be read.
  have hread : (Toml.parse? twoTypesJava8).map (fun document => (document.entries.map Prod.fst,
      Manifest.readNamed ["environment", "types"] Manifest.Draft.readField {} document.entries)) =
      some (["environment", "types"], .ok twoTypesDraft) := by
    decide +kernel
  obtain ⟨document, hdocument, hread⟩ := Option.map_eq_some_iff.mp hread
  obtain ⟨hfields, hread⟩ := Prod.mk.inj hread
  have hsorted : (document.entries.map Prod.fst).Pairwise (· ≤ ·) := by
    rw [hfields]
    decide
  have hdraft : Manifest.ofDraft twoTypesDraft =
      .ok { twoTypes with sourceVersion := some java8 } := by
    decide +kernel
  have hparse := Manifest.parse_of_sorted hdocument hsorted hread "8.toml"
  rw [hdraft] at hparse
  exact hparse

theorem twoTypes_generated : ∃ first second,
    outcome twoManifests ["generate"] = ⟨0, first ++ "\n" ++ second⟩ ∧
    outcome twoManifests ["generate", "--type", "D"] = ⟨0, second⟩ ∧
    outcome twoManifests ["generate", "--source", "8"] =
      outcome twoManifests ["generate", "-m", "8.toml"] ∧
    outcome twoManifests ["generate", "--json", "--source", "8"] =
      outcome twoManifests ["generate", "--json"] := by
  have hgenerates := generate_compositional parseFile_twoTypes
  refine ⟨_, _, hgenerates.blocks _ none rfl, hgenerates.block _ none "D" _ rfl rfl, ?_, ?_⟩
  · exact hgenerates.override _ _ _ java8 parseFile_twoTypes_java8 rfl _ _ none false rfl rfl
  · exact hgenerates.reportAlike _ _ _ parseFile_twoTypes rfl _ _ (some java8) none none rfl rfl

end CommandLine

end AccessorGen
