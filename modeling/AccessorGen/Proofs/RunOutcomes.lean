import AccessorGen.Proofs.Printing
import AccessorGen.Proofs.Verbosity

/-! When a command succeeds. One that does not has printed nothing. -/
namespace AccessorGen.CommandLine

open Session

/-- The manifest that a command reads is accepted, and holds the type that is asked for. -/
def Command.Loads (files : Files) : Command → Prop
  | check path => ∃ m, Manifest.parseFile path (files path) = .ok m
  | generate path _ type _ =>
    ∃ m, Manifest.parseFile path (files path) = .ok m ∧ ∀ name ∈ type, (m.find? name).isSome
  | features path _ => ∀ p ∈ path, ∃ m, Manifest.parseFile p (files p) = .ok m

variable {files : Files} {path : String} {type : Option String} {args : List String} {c : Command}
  {m : Manifest}

theorem exists_selectTypes (h : ∀ name ∈ type, (m.find? name).isSome) (path : String) :
    ∃ ts, selectTypes m path type = .ok ts := by
  cases type with
  | none => exact ⟨m.types, rfl⟩
  | some name =>
    obtain ⟨t, ht⟩ := Option.isSome_iff_exists.mp (h name rfl)
    exact ⟨[t], selectTypes_of_find? ht path⟩

theorem exists_noSuchType (h : ¬∀ name ∈ type, (m.find? name).isSome) (path : String) :
    ∃ name, selectTypes m path type = .error (.noSuchType name path) := by
  cases type with
  | none => exact absurd (fun _ hname => by cases hname) h
  | some name =>
    cases hfind : m.find? name with
    | none => exact ⟨name, selectTypes_of_not_found hfind path⟩
    | some t =>
      refine absurd (fun name' hname => ?_) h
      cases hname
      rw [hfind, Option.isSome_some]

theorem Command.run_of_loads (h : c.Loads files) :
    ∃ text, (c.run files).muted = print text := by
  cases c with
  | check path =>
    obtain ⟨m, hm⟩ := h
    exact ⟨_, run_check hm⟩
  | generate path source type json =>
    obtain ⟨m, hm, htype⟩ := h
    obtain ⟨ts, hts⟩ := exists_selectTypes htype path
    cases json with
    | true => exact ⟨_, run_generate_json hm hts⟩
    | false => exact ⟨_, run_generate hm hts⟩
  | features path source =>
    cases path with
    | none => exact ⟨_, run_features_none source⟩
    | some path =>
      obtain ⟨m, hm⟩ := h path rfl
      exact ⟨_, run_features hm⟩

theorem loadManifest_of_not_accepted (h : ¬∃ m, Manifest.parseFile path (files path) = .ok m) :
    ∃ e, (loadManifest files path).muted = fail (.manifest e) := by
  cases hparse : Manifest.parseFile path (files path) with
  | ok m => exact absurd ⟨m, hparse⟩ h
  | error e => exact ⟨e, muted_loadManifest_error hparse⟩

/-- The first failure ends the run, and nothing is printed before it. -/
theorem Command.run_of_not_loads (h : ¬c.Loads files) :
    ∃ e, (c.run files).muted = fail e ∧ e.exitCode = 1 := by
  cases c with
  | check path =>
    obtain ⟨e, he⟩ := loadManifest_of_not_accepted h
    exact ⟨.manifest e, by rw [run, muted_bind, he, fail_bind], rfl⟩
  | generate path source type json =>
    by_cases hm : ∃ m, Manifest.parseFile path (files path) = .ok m
    · obtain ⟨m, hm⟩ := hm
      obtain ⟨name, hname⟩ := exists_noSuchType (fun hfound => h ⟨m, hm, hfound⟩) path
      exact ⟨.noSuchType name path, run_generate_error hm hname, rfl⟩
    · obtain ⟨e, he⟩ := loadManifest_of_not_accepted hm
      exact ⟨.manifest e, by rw [run, muted_bind, he, fail_bind], rfl⟩
  | features path source =>
    cases path with
    | none => exact absurd (fun _ hp => by cases hp) h
    | some path =>
      have hm : ¬∃ m, Manifest.parseFile path (files path) = .ok m := by
        intro hm
        refine h fun p hp => ?_
        cases hp
        exact hm
      obtain ⟨e, he⟩ := loadManifest_of_not_accepted hm
      refine ⟨.manifest e, ?_, rfl⟩
      simp only [run, muted_bind, he, fail_bind]

/-- A command prints one text and succeeds, or it fails with nothing printed. -/
theorem outcome_cases (files : Files) (h : parse args = .ok c) :
    (c.Loads files ∧ ∃ text, (run files args).result = .ok () ∧ outcome files args = ⟨0, text⟩) ∨
      (¬c.Loads files ∧ ∃ e, (run files args).result = .error e ∧ e.exitCode = 1 ∧
        outcome files args = ⟨1, ""⟩) := by
  have hresult : (run files args).result = (c.run files).muted.result := by
    rw [← muted_run h, result_muted]
  by_cases hloads : c.Loads files
  · obtain ⟨text, hprint⟩ := c.run_of_loads hloads
    refine .inl ⟨hloads, text, ?_, outcome_of_print h hprint⟩
    rw [hresult, hprint]
    rfl
  · obtain ⟨e, hfail, hexit⟩ := c.run_of_not_loads hloads
    refine .inr ⟨hloads, e, ?_, hexit, ?_⟩
    · rw [hresult, hfail]
      rfl
    · rw [outcome_of_fail h hfail, hexit]

theorem exitCode_eq_zero_iff (files : Files) (h : parse args = .ok c) :
    (outcome files args).exitCode = 0 ↔ c.Loads files := by
  rcases outcome_cases files h with ⟨hloads, _, _, hend⟩ | ⟨hloads, _, _, _, hend⟩
  · simp [hend, hloads]
  · simp [hend, hloads]

/-- With one more request for a log the same command is run, and the log is all that may differ. -/
theorem run_of_louder (files : Files) {quiet loud : List String} (hlouder : Louder quiet loud)
    (h : parse loud = .ok c) : parse quiet = .ok c ∧ run files loud = c.run files ∧
      (run files quiet = run files loud ∨ run files quiet = (run files loud).muted) := by
  obtain ⟨r', hloud, rfl⟩ := parse_eq_ok_iff.mp h
  obtain ⟨r, hquiet, hcommand, hverbose⟩ := follows_parseRequest hlouder r' hloud
  have hrun : run files loud = r'.command.run files := by
    rw [run, hloud]
    exact if_pos hverbose
  refine ⟨parse_eq_ok_iff.mpr ⟨r, hquiet, hcommand⟩, hrun, ?_⟩
  rw [hrun, run, hquiet, ← hcommand]
  by_cases hr : r.verbose = true
  · exact .inl (if_pos hr)
  · exact .inr (if_neg hr)

/-- Arguments that ask for the same have the same run, but for the log. -/
theorem muted_run_congr {args' : List String} (h : parse args = parse args') :
    (run files args).muted = (run files args').muted := by
  cases hparse : parse args with
  | ok c => rw [muted_run hparse, muted_run (h.symm.trans hparse)]
  | error why => rw [run_of_stopped hparse, run_of_stopped (h.symm.trans hparse)]

/-- Every command ends with 0 or with 1. It succeeds where the manifest that it reads is accepted
and holds the type that is asked for, whatever else it is asked, and nothing is printed where it
fails. Asking for a log changes none of this: the log is all that differs then. -/
theorem command_outcomes (files : Files) :
    (∀ args c, parse args = .ok c →
      ((outcome files args).exitCode = 0 ∨ (outcome files args).exitCode = 1) ∧
      (∀ e, (run files args).result ≠ .error (.unregistered e)) ∧
      ((outcome files args).exitCode = 1 → (outcome files args).stdout = "")) ∧
    (∀ args path, (parse args = .ok (.check path) ∨
        (∃ source json, parse args = .ok (.generate path source none json)) ∨
        ∃ source, parse args = .ok (.features (some path) source)) →
      ((outcome files args).exitCode = 0 ↔ ∃ m, Manifest.parseFile path (files path) = .ok m)) ∧
    (∀ args path source name json, parse args = .ok (.generate path source (some name) json) →
      ((outcome files args).exitCode = 0 ↔
        ∃ m, Manifest.parseFile path (files path) = .ok m ∧ (m.find? name).isSome)) ∧
    (∀ args source, parse args = .ok (.features none source) →
      (outcome files args).exitCode = 0) ∧
    (∀ quiet loud c, Louder quiet loud → parse loud = .ok c →
      parse quiet = .ok c ∧ outcome files quiet = outcome files loud ∧
      run files loud = c.run files ∧
      (run files quiet = run files loud ∨ run files quiet = (run files loud).muted)) ∧
    ∀ name rest, name.toList.head? ≠ some '-' →
      outcome files ("-v" :: name :: rest) = outcome files (name :: rest) ∧
      (run files ("-v" :: name :: rest)).muted = (run files (name :: rest)).muted := by
  refine ⟨fun args c h => ?_, ?_, ?_, ?_, fun quiet loud c hlouder h => ?_, ?_⟩
  · rcases outcome_cases files h with ⟨_, text, hok, hend⟩ | ⟨_, e, herror, hexit, hend⟩
    · rw [hok, hend]
      exact ⟨.inl rfl, nofun, nofun⟩
    · rw [herror, hend]
      refine ⟨.inr rfl, ?_, fun _ => rfl⟩
      rintro unregistered ⟨⟩
      cases hexit
  · rintro args path (h | ⟨source, json, h⟩ | ⟨source, h⟩)
    · exact exitCode_eq_zero_iff files h
    · simpa [Command.Loads] using exitCode_eq_zero_iff files h
    · simpa [Command.Loads] using exitCode_eq_zero_iff files h
  · intro args path source name json h
    simpa [Command.Loads] using exitCode_eq_zero_iff files h
  · intro args source h
    exact (exitCode_eq_zero_iff files h).mpr fun _ hpath => by cases hpath
  · obtain ⟨hquiet, hrun, hlog⟩ := run_of_louder files hlouder h
    have houtcome : outcome files quiet = outcome files loud := by
      rcases hlog with hlog | hlog
      · rw [outcome, outcome, hlog]
      · rw [outcome, outcome, hlog, ofResult_muted]
    exact ⟨hquiet, houtcome, hrun, hlog⟩
  · intro name rest hname
    have hmuted : (run files ("-v" :: name :: rest)).muted = (run files (name :: rest)).muted :=
      muted_run_congr (parse_verbose hname rest)
    refine ⟨?_, hmuted⟩
    rw [outcome, outcome, ← ofResult_muted, hmuted, ofResult_muted]

/-- There is a manifest under the usual name, and no other file. -/
def oneManifest : Files := fun path =>
  if path = Manifest.defaultPath then .ok "[environment]\nsource = \"8\"\n" else .error .notFound

def java8 : SourceVersion := ⟨8, by decide, by decide⟩

theorem parseFile_oneManifest :
    Manifest.parseFile Manifest.defaultPath (oneManifest Manifest.defaultPath) =
      .ok ⟨some java8, []⟩ := by
  decide +kernel

theorem oneManifest_outcomes :
    (outcome oneManifest ["generate", "--json"]).exitCode = 0 ∧
    outcome oneManifest ["check"] = outcome oneManifest ["check", "--verbose"] ∧
    outcome oneManifest ["-v", "check"] = outcome oneManifest ["check"] ∧
    outcome oneManifest ["generate", "--type", "B"] = ⟨1, ""⟩ ∧
    (outcome oneManifest ["features", "--manifest", "other.toml"]).exitCode = 1 ∧
    (run oneManifest ["check"]).log = [] ∧
    (run oneManifest ["check", "--verbose"]).log =
      [.parsedManifest Manifest.defaultPath 0 (some java8)] := by
  obtain ⟨hall, hmanifest, htype, _, hverbose, hfront⟩ := command_outcomes oneManifest
  have hgenerate : parse ["generate", "--json"] =
      .ok (.generate Manifest.defaultPath none none true) := rfl
  have hcheck : parse ["check", "--verbose"] = .ok (.check Manifest.defaultPath) := rfl
  have hone : parse ["generate", "--type", "B"] =
      .ok (.generate Manifest.defaultPath none (some "B") false) := rfl
  have hfeatures : parse ["features", "--manifest", "other.toml"] =
      .ok (.features (some "other.toml") none) := rfl
  obtain ⟨_, hquiet, hloud, _⟩ := hverbose _ _ _ (.skip "check" (.long [])) hcheck
  refine ⟨?_, hquiet, (hfront "check" [] (by decide)).1, ?_, ?_, rfl, ?_⟩
  · exact (hmanifest _ _ (.inr (.inl ⟨none, true, hgenerate⟩))).mpr ⟨_, parseFile_oneManifest⟩
  · have hno : (outcome oneManifest ["generate", "--type", "B"]).exitCode ≠ 0 := by
      intro hexit
      obtain ⟨m, hm, hfound⟩ := (htype _ _ _ _ _ hone).mp hexit
      rw [parseFile_oneManifest] at hm
      cases hm
      cases hfound
    obtain ⟨hexit, _, hempty⟩ := hall _ _ hone
    have hexit := hexit.resolve_left hno
    rw [← hexit, ← hempty hexit]
  · refine (hall _ _ hfeatures).1.resolve_left fun hexit => ?_
    obtain ⟨m, hm⟩ := (hmanifest _ _ (.inr (.inr ⟨none, hfeatures⟩))).mp hexit
    cases hm
  · rw [hloud, Command.run, loadManifest, readManifest_eq_ok parseFile_oneManifest]
    rfl

end AccessorGen.CommandLine
