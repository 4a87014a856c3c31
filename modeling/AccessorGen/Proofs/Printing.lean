import AccessorGen.CommandLine.Run
import AccessorGen.Proofs.Lines
import AccessorGen.Proofs.WrittenMetadata

/-! What the commands print, as one text for each. A command fails before it has printed anything,
or it does not fail. Its log is left out. -/
namespace AccessorGen

/-- The level that source is generated for. Without a version it is the lowest. -/
def targetLevel : Option SourceVersion → SourceLevel
  | some v => SourceLevel.forVersion v
  | none => .java6

theorem Registry.get?_standard (version : Option SourceVersion) :
    (Registry.standard version).get? .sourceLevel = some (targetLevel version) := by
  cases version <;> rfl

theorem Registry.toList_standard (version : Option SourceVersion) :
    (Registry.standard version).toList =
      [("source level", toString (targetLevel version))] := by
  cases version <;> rfl

namespace ValueType

/-- The members of a type at a source level. -/
def code (l : SourceLevel) (t : ValueType) : String :=
  (({} : Code.Writer).emit (t.metadata.fragments l)).text

/-- The members of a type under a comment with its name. -/
def block (l : SourceLevel) (t : ValueType) : String :=
  "// " ++ toString t.name ++ "\n" ++ t.code l

variable {t : ValueType} {l : SourceLevel}

theorem render_eq_code {ε σ : Type} [FeatureFamily ε σ] [DecidableEq ε] {r : Registry ε}
    (h : r.get? .sourceLevel = some l) : t.metadata.render r = .ok (t.code l) :=
  Metadata.render_eq_ok h _

end ValueType

namespace CommandLine

open Session

variable {files : Files}

@[simp] theorem expectRegistered_ok {α : Type} (a : α) : expectRegistered (.ok a) = pure a := rfl

section Source

variable {ε σ : Type} [FeatureFamily ε σ] [DecidableEq ε] {r : Registry ε} {m : Metadata}
  {ms : List Metadata} {block source : String} {blocks : List String}

/-- The members of one type under a comment with its name. -/
def generatedBlock (r : Registry ε) (m : Metadata) : Except Unregistered String :=
  return s!"// {m.typeName}\n" ++ (← m.render r)

def generatedSource (r : Registry ε) (ms : List Metadata) : Except Unregistered String :=
  return "\n".intercalate (← ms.mapM (generatedBlock r))

theorem printMembers_of_generatedBlock (h : generatedBlock r m = .ok block) :
    printMembers r m = print block := by
  cases hcode : m.render r with
  | error e =>
    rw [generatedBlock, hcode] at h
    cases h
  | ok code =>
    rw [generatedBlock, hcode] at h
    cases h
    rw [printMembers, hcode, expectRegistered_ok, pure_bind, printLine_bind_print]
    rfl

theorem printNth_zero (h : generatedBlock r m = .ok block) : printNth r m 0 = print block := by
  rw [printNth, printMembers_of_generatedBlock h]
  exact if_neg (Nat.lt_irrefl 0)

theorem printNth_succ (h : generatedBlock r m = .ok block) (i : Nat) :
    printNth r m (i + 1) = print ("\n" ++ block) := by
  rw [printNth, printMembers_of_generatedBlock h, if_pos i.succ_pos, printLine_bind_print,
    String.empty_append]

/-- From the second type on, each stands behind a blank line. -/
theorem forM_printNth (h : List.Forall₂ (fun m block => generatedBlock r m = .ok block) ms blocks)
    (i : Nat) :
    ((ms.zipIdx (i + 1)).forM fun (m, i) => printNth r m i) =
      print (String.join (blocks.map ("\n" ++ ·))) := by
  induction h generalizing i with
  | nil => rfl
  | cons hblock _ ih =>
    rw [List.zipIdx_cons, List.map_cons, String.join_cons, forM_cons, ih]
    dsimp only
    rw [printNth_succ hblock, print_bind_print]

theorem intercalate_newline (s : String) (ss : List String) :
    "\n".intercalate (s :: ss) = s ++ String.join (ss.map ("\n" ++ ·)) := by
  induction ss generalizing s with
  | nil => simp
  | cons u ss ih =>
    rw [String.intercalate_cons_cons, ih, List.map_cons, String.join_cons]
    simp only [String.append_assoc]

/-- The blank lines stand between the types, whatever the types are. -/
theorem printSource_of_generatedSource (h : generatedSource r ms = .ok source) :
    printSource r ms = print source := by
  cases hblocks : ms.mapM (generatedBlock r) with
  | error e =>
    rw [generatedSource, hblocks] at h
    cases h
  | ok blocks =>
    rw [generatedSource, hblocks] at h
    cases h
    cases Manifest.mapM_eq_ok_iff.mp hblocks with
    | nil => rfl
    | cons hblock hrest =>
      rw [printSource, List.zipIdx_cons, intercalate_newline, forM_cons, forM_printNth hrest]
      dsimp only
      rw [printNth_zero hblock, print_bind_print]

end Source

theorem generatedSource_standard (version : Option SourceVersion) (ts : List ValueType) :
    generatedSource (Registry.standard version) (ts.map ValueType.metadata) =
      .ok ("\n".intercalate (ts.map (ValueType.block (targetLevel version)))) := by
  have hblock (t : ValueType) : generatedBlock (Registry.standard version) t.metadata =
      .ok (t.block (targetLevel version)) := by
    rw [generatedBlock, t.render_eq_code (Registry.get?_standard version)]
    rfl
  have hblocks : (ts.map ValueType.metadata).mapM (generatedBlock (Registry.standard version)) =
      .ok (ts.map (ValueType.block (targetLevel version))) := by
    rw [List.mapM_map]
    exact Manifest.mapM_eq_ok_map fun t _ => hblock t
  rw [generatedSource, hblocks]
  rfl

theorem sourceLevel_standard (version : Option SourceVersion) :
    sourceLevel (Registry.standard version) = pure (targetLevel version) := by
  cases version <;> rfl

/-- What is told of a source level: its name, and for each capability whether it is there. -/
def levelReport (l : SourceLevel) : String :=
  unlines (entryLine ("source level", toString l) :: "" :: "Capabilities:" ::
    Capability.all.map (capabilityLine l))

theorem forM_printLine {α : Type} (l : List α) (line : α → String) :
    (l.forM fun a => printLine (line a) : Session Failure Unit) = print (unlines (l.map line)) := by
  rw [unlines, List.map_map]
  exact forM_print l fun a => line a ++ "\n"

theorem unlines_cons (s : String) (ss : List String) :
    unlines (s :: ss) = s ++ "\n" ++ unlines ss :=
  Code.ofLines_cons s ss

/-- What is told of the features that a version gives. -/
def featuresReport (version : Option SourceVersion) : String :=
  titleOf (Registry.standard version).source ++ "\n" ++ levelReport (targetLevel version)

theorem printFeatures_eq (version : Option SourceVersion) :
    printFeatures (Registry.standard version) = print (featuresReport version) := by
  have hlevel := forM_printLine (Registry.standard version).toList entryLine
  rw [Registry.toList_standard] at hlevel
  have hcapabilities := forM_printLine Capability.all (capabilityLine (targetLevel version))
  have hnil : unlines [] = "" := rfl
  simp only [printFeatures, Registry.toList_standard, hlevel, sourceLevel_standard,
    pure_bind, hcapabilities, printLine_bind_print, print_bind_print, featuresReport,
    levelReport, List.map_cons, List.map_nil, unlines_cons, hnil, String.empty_append,
    String.append_assoc]

section Commands

variable {args : List String} {c : Command} {path text : String} {m : Manifest}
  {ts : List ValueType} {failure : Failure}

/-- How a run ends, and what it has printed. -/
def outcome (files : Files) (args : List String) : Outcome :=
  .ofResult (run files args)

theorem parse_of_parseRequest {r : Request} (h : parseRequest args = .ok r) :
    parse args = .ok r.command := by
  rw [parse, h]
  rfl

theorem parse_eq_ok_iff : parse args = .ok c ↔ ∃ r, parseRequest args = .ok r ∧ r.command = c := by
  constructor
  · intro h
    cases hr : parseRequest args with
    | error why =>
      rw [parse, hr] at h
      cases h
    | ok r =>
      rw [parse_of_parseRequest hr] at h
      exact ⟨r, rfl, Except.ok.inj h⟩
  · rintro ⟨r, hr, rfl⟩
    exact parse_of_parseRequest hr

theorem run_of_stopped {why : Stop} (h : parse args = .error why) :
    run files args = print why.text >>= fun _ => fail (.stopped why) := by
  cases hr : parseRequest args with
  | ok r =>
    rw [parse_of_parseRequest hr] at h
    cases h
  | error why' =>
    rw [parse, hr] at h
    cases h
    rw [run, hr]

theorem muted_run_request (files : Files) (r : Request) :
    (r.run files).muted = (r.command.run files).muted := by
  rw [Request.run]
  split
  · rfl
  · rfl

/-- A run is that of its command, but for the log. -/
theorem muted_run (h : parse args = .ok c) : (run files args).muted = (c.run files).muted := by
  obtain ⟨r, hr, rfl⟩ := parse_eq_ok_iff.mp h
  rw [run, hr]
  exact muted_run_request files r

/-- The log has no part in the outcome. -/
@[simp] theorem ofResult_muted (s : Session Failure Unit) :
    Outcome.ofResult s.muted = Outcome.ofResult s := rfl

theorem outcome_of_print (h : parse args = .ok c) (hprint : (c.run files).muted = print text) :
    outcome files args = ⟨0, text⟩ := by
  rw [outcome, ← ofResult_muted, muted_run h, hprint]
  rfl

theorem outcome_of_fail (h : parse args = .ok c) (hfail : (c.run files).muted = fail failure) :
    outcome files args = ⟨failure.exitCode, ""⟩ := by
  rw [outcome, ← ofResult_muted, muted_run h, hfail]
  rfl

theorem readManifest_eq_ok (h : Manifest.parseFile path (files path) = .ok m) :
    readManifest files path = .ok m := by
  rw [readManifest, h]
  rfl

theorem readManifest_eq_error {e : Manifest.Error}
    (h : Manifest.parseFile path (files path) = .error e) :
    readManifest files path = .error (.manifest e) := by
  rw [readManifest, h]
  rfl

theorem selectTypes_of_find? {name : String} {t : ValueType} (h : m.find? name = some t)
    (path : String) : selectTypes m path (some name) = .ok [t] := by
  rw [selectTypes, h]

theorem selectTypes_of_not_found {name : String} (h : m.find? name = none) (path : String) :
    selectTypes m path (some name) = .error (.noSuchType name path) := by
  rw [selectTypes, h]

theorem muted_loadManifest (h : Manifest.parseFile path (files path) = .ok m) :
    (loadManifest files path).muted = pure m := by
  rw [loadManifest, readManifest_eq_ok h, lift_ok, pure_bind, muted_bind, muted_note, pure_bind,
    muted_pure]

theorem muted_loadManifest_error {e : Manifest.Error}
    (h : Manifest.parseFile path (files path) = .error e) :
    (loadManifest files path).muted = fail (.manifest e) := by
  rw [loadManifest, readManifest_eq_error h, lift_error, fail_bind, muted_fail]

theorem muted_analyzeTypes (ts : List ValueType) :
    (analyzeTypes ts).muted = pure (ts.map ValueType.metadata) := by
  rw [analyzeTypes, muted_bind, muted_note, pure_bind, muted_pure]

theorem muted_loadFeatures (flag manifest : Option SourceVersion) :
    (loadFeatures flag manifest).muted = pure (Registry.standard (flag.or manifest)) := by
  rw [loadFeatures, muted_bind, muted_note, pure_bind, muted_pure, resolveFeatures]

theorem run_check (h : Manifest.parseFile path (files path) = .ok m) :
    ((Command.check path).run files).muted = print (checkReport path m) := by
  rw [Command.run, muted_bind, muted_loadManifest h, pure_bind, muted_print]

theorem run_generate_json {source : Option SourceVersion} {type : Option String}
    (h : Manifest.parseFile path (files path) = .ok m) (hts : selectTypes m path type = .ok ts) :
    ((Command.generate path source type true).run files).muted =
      print (metadataReport (ts.map ValueType.metadata) ++ "\n") := by
  rw [Command.run, muted_bind, muted_loadManifest h, pure_bind, hts, lift_ok, pure_bind, muted_bind,
    muted_analyzeTypes, pure_bind]
  rfl

theorem run_generate {source : Option SourceVersion} {type : Option String}
    (h : Manifest.parseFile path (files path) = .ok m) (hts : selectTypes m path type = .ok ts) :
    ((Command.generate path source type false).run files).muted =
      print ("\n".intercalate
        (ts.map (ValueType.block (targetLevel (source.or m.sourceVersion))))) := by
  rw [Command.run, muted_bind, muted_loadManifest h, pure_bind, hts, lift_ok, pure_bind, muted_bind,
    muted_analyzeTypes, pure_bind, if_neg Bool.false_ne_true, muted_bind, muted_loadFeatures,
    pure_bind, printSource_of_generatedSource (generatedSource_standard _ ts), muted_print]

theorem run_generate_error {source : Option SourceVersion} {type : Option String} {json : Bool}
    (h : Manifest.parseFile path (files path) = .ok m)
    (hts : selectTypes m path type = .error failure) :
    ((Command.generate path source type json).run files).muted = fail failure := by
  rw [Command.run, muted_bind, muted_loadManifest h, pure_bind, hts, lift_error, fail_bind,
    muted_fail]

theorem run_features {source : Option SourceVersion}
    (h : Manifest.parseFile path (files path) = .ok m) :
    ((Command.features (some path) source).run files).muted =
      print (featuresReport (source.or m.sourceVersion)) := by
  simp only [Command.run, muted_bind, muted_loadManifest h, muted_loadFeatures, pure_bind,
    printFeatures_eq, muted_print]

/-- Without a path no manifest is read, not even the one with the usual name. -/
theorem run_features_none (source : Option SourceVersion) :
    ((Command.features none source).run files).muted = print (featuresReport source) := by
  simp only [Command.run, muted_bind, muted_loadFeatures, pure_bind, Option.or_none,
    printFeatures_eq, muted_print]

end Commands

end CommandLine

end AccessorGen
