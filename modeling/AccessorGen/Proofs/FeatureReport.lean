import AccessorGen.Proofs.RunOutcomes

/-! Whether the features that are shown are those that source is generated with. The two commands
take the same options, but they do not read the same manifest where none is named. -/
namespace AccessorGen

theorem SourceLevel.mem_all (l : SourceLevel) : l ∈ SourceLevel.all := by
  cases l <;> decide

namespace CommandLine

/-- A source level is reported by its name and by the marks of all capabilities. -/
def Reports (text : String) (l : SourceLevel) : Prop :=
  ∃ source, text = titleOf source ++ "\n" ++ levelReport l

theorem titleOf_mem (source : FeatureSource) :
    titleOf source ∈ [titleOf .testDefaults, titleOf (.environment {})] := by
  cases source with
  | environment env => exact .tail _ (.head _)
  | testDefaults => exact .head _

/-- Levels are told apart by what is reported of them. -/
theorem Reports.unique {text : String} {l l' : SourceLevel} (h : Reports text l)
    (h' : Reports text l') : l = l' := by
  -- There are two titles and three levels, and so six reports.
  have hdistinct : ∀ title ∈ [titleOf .testDefaults, titleOf (.environment {})],
      ∀ title' ∈ [titleOf .testDefaults, titleOf (.environment {})],
      ∀ l ∈ SourceLevel.all, ∀ l' ∈ SourceLevel.all,
      title ++ "\n" ++ levelReport l = title' ++ "\n" ++ levelReport l' → l = l' := by
    decide +kernel
  obtain ⟨source, rfl⟩ := h
  obtain ⟨source', h'⟩ := h'
  exact hdistinct _ (titleOf_mem source) _ (titleOf_mem source') _ (SourceLevel.mem_all l) _
    (SourceLevel.mem_all l') h'

theorem reports_featuresReport (version : Option SourceVersion) :
    Reports (featuresReport version) (targetLevel version) :=
  ⟨_, rfl⟩

theorem reports_featuresReport_iff {version : Option SourceVersion} {l : SourceLevel} :
    Reports (featuresReport version) l ↔ l = targetLevel version := by
  constructor
  · intro h
    exact h.unique (reports_featuresReport version)
  · rintro rfl
    exact reports_featuresReport version

variable {files : Files} {gen feat : List String} {manifest : Option String}
  {source : Option SourceVersion} {type : Option String} {json : Bool} {m : Manifest}

/-- What is shown of the features where the manifest of `generate` is accepted. The manifest has a
part in it only where it is named. -/
theorem outcome_features
    (hm : Manifest.parseFile (manifest.getD Manifest.defaultPath)
      (files (manifest.getD Manifest.defaultPath)) = .ok m)
    (hfeat : parse feat = .ok (.features manifest source)) :
    outcome files feat =
      ⟨0, featuresReport (source.or (manifest.bind fun _ => m.sourceVersion))⟩ := by
  cases manifest with
  | none =>
    rw [outcome_of_print hfeat (run_features_none source), Option.bind_none, Option.or_none]
  | some path => exact outcome_of_print hfeat (run_features hm)

theorem targetLevel_or_eq_iff (source configured : Option SourceVersion) :
    targetLevel (source.or configured) = targetLevel source ↔
      source.isSome ∨ targetLevel (source.or configured) = .java6 := by
  cases source with
  | none => simp [targetLevel]
  | some v => simp

/-- Where source is generated, the features are shown that it is generated with exactly if one of
the two options is given, or if the level is the lowest anyway. Without options the lowest is
shown. -/
theorem features_report_iff
    (hgen : parse gen = .ok (.generate (manifest.getD Manifest.defaultPath) source type json))
    (hfeat : parse feat = .ok (.features manifest source))
    (hexit : (outcome files gen).exitCode = 0) :
    ∃ (m : Manifest) (ts : List ValueType) (l : SourceLevel),
      Manifest.parseFile (manifest.getD Manifest.defaultPath)
        (files (manifest.getD Manifest.defaultPath)) = .ok m ∧
      selectTypes m (manifest.getD Manifest.defaultPath) type = .ok ts ∧
      (resolveFeatures source m.sourceVersion).get? .sourceLevel = some l ∧
      (json = false → (outcome files gen).stdout = "\n".intercalate (ts.map (ValueType.block l))) ∧
      (outcome files feat).exitCode = 0 ∧
      (Reports (outcome files feat).stdout l ↔ manifest.isSome ∨ source.isSome ∨ l = .java6) ∧
      (manifest = none → source = none → Reports (outcome files feat).stdout .java6) := by
  obtain ⟨m, hm, htype⟩ := (exitCode_eq_zero_iff files hgen).mp hexit
  obtain ⟨ts, hts⟩ := exists_selectTypes htype (manifest.getD Manifest.defaultPath)
  have hshown := outcome_features hm hfeat
  refine ⟨m, ts, targetLevel (source.or m.sourceVersion), hm, hts, Registry.get?_standard _, ?_, ?_,
    ?_, ?_⟩
  · rintro rfl
    rw [outcome_of_print hgen (run_generate hm hts)]
  · rw [hshown]
  · rw [hshown, reports_featuresReport_iff]
    cases manifest with
    | none =>
      simpa using targetLevel_or_eq_iff source m.sourceVersion
    | some path => simp
  · rintro rfl rfl
    rw [hshown]
    exact reports_featuresReport none

theorem oneManifest_features :
    (outcome oneManifest ["generate"]).exitCode = 0 ∧
      Reports (outcome oneManifest ["features", "--source", "1.8"]).stdout .java8 ∧
      Reports (outcome oneManifest ["features"]).stdout .java6 := by
  have hgen : parse ["generate"] = .ok (.generate Manifest.defaultPath none none false) := rfl
  have hfeat : parse ["features"] = .ok (.features none none) := rfl
  have hexit := (exitCode_eq_zero_iff oneManifest hgen).mpr ⟨_, parseFile_oneManifest, nofun⟩
  obtain ⟨_, _, _, _, _, _, _, _, _, hlowest⟩ := features_report_iff hgen hfeat hexit
  refine ⟨hexit, ?_, hlowest rfl rfl⟩
  have hgen : parse ["generate", "--source", "1.8"] =
      .ok (.generate Manifest.defaultPath (some java8) none false) := rfl
  have hfeat : parse ["features", "--source", "1.8"] = .ok (.features none (some java8)) := rfl
  have hexit := (exitCode_eq_zero_iff oneManifest hgen).mpr ⟨_, parseFile_oneManifest, nofun⟩
  obtain ⟨m, _, l, _, _, hlevel, _, _, hreports, _⟩ := features_report_iff hgen hfeat hexit
  obtain rfl : SourceLevel.java8 = l := Option.some.inj hlevel
  exact hreports.mpr (.inr (.inl rfl))

/-- Without options the features that are shown are not always those of generated source. -/
theorem features_report_not_exact : ¬∀ (files : Files) (gen feat : List String)
    (manifest : Option String) (source : Option SourceVersion) (type : Option String) (json : Bool)
    (m : Manifest) (l : SourceLevel),
    parse gen = .ok (.generate (manifest.getD Manifest.defaultPath) source type json) →
    parse feat = .ok (.features manifest source) → (outcome files gen).exitCode = 0 →
    Manifest.parseFile (manifest.getD Manifest.defaultPath)
      (files (manifest.getD Manifest.defaultPath)) = .ok m →
    (resolveFeatures source m.sourceVersion).get? .sourceLevel = some l →
    Reports (outcome files feat).stdout l := by
  intro hexact
  have hgen : parse ["generate"] = .ok (.generate Manifest.defaultPath none none false) := rfl
  have hfeat : parse ["features"] = .ok (.features none none) := rfl
  have hexit := (exitCode_eq_zero_iff oneManifest hgen).mpr ⟨_, parseFile_oneManifest, nofun⟩
  have hjava8 := hexact oneManifest _ _ none none none false _ .java8 hgen hfeat hexit
    parseFile_oneManifest rfl
  rw [outcome_of_print hfeat (run_features_none none)] at hjava8
  cases reports_featuresReport_iff.mp hjava8

end CommandLine

end AccessorGen
