import AccessorGen.Feature.Registry

/-! What a registry holds after any registrations. Each feature is asked for its value when it comes
first, and never again. -/
namespace AccessorGen

variable {ε σ : Type} [FeatureFamily ε σ]

/-- A feature is asked for a value. -/
inductive Call (ε : Type) where
  | resolve (f : Feature ε) (env : Environment)
  | testDefault (f : Feature ε)

/-- How a source asks a feature for its value. -/
def FeatureSource.call : FeatureSource → Feature ε → Call ε
  | environment env, f => .resolve f env
  | testDefaults, f => .testDefault f

namespace Registry

/-- As `valueFrom`, with a record of the calls that are made. -/
def recordedValue (source : FeatureSource) (f : Feature ε) :
    StateT (List (Call ε)) (StateM σ) f.Value :=
  match source with
  | .environment env => do
    modify (· ++ [.resolve f env])
    f.resolve env
  | .testDefaults => do
    modify (· ++ [.testDefault f])
    return f.testDefault

def features (r : Registry ε) : List (Feature ε) := r.entries.map FeatureEntry.feature

def add (r : Registry ε) (es : List (FeatureEntry ε)) : Registry ε :=
  { r with entries := r.entries ++ es }

@[simp] theorem features_add (r : Registry ε) (es : List (FeatureEntry ε)) :
    (r.add es).features = r.features ++ es.map FeatureEntry.feature :=
  List.map_append

section Monad

variable {m : Type → Type} [Monad m] {value : (f : Feature ε) → m f.Value} {r : Registry ε}
  {f : Feature ε}

/-- The entry of a feature, with a value that is asked for. -/
def entryBy (value : (f : Feature ε) → m f.Value) (f : Feature ε) : m (FeatureEntry ε) := do
  return ⟨f, ← value f⟩

variable [DecidableEq ε]

/-- Registers a feature with a value from anywhere. -/
def registerBy (value : (f : Feature ε) → m f.Value) (r : Registry ε) (f : Feature ε) :
    m (Registry ε) :=
  if r.entries.any (·.feature = f) then pure r
  else do return r.add [← entryBy value f]

theorem any_feature_iff : r.entries.any (·.feature = f) = true ↔ f ∈ r.features := by
  simp [features]

theorem registerBy_of_mem (h : f ∈ r.features) : registerBy value r f = pure r := by
  rw [registerBy, if_pos (any_feature_iff.mpr h)]

theorem registerBy_of_not_mem (h : f ∉ r.features) :
    registerBy value r f = do return r.add [← entryBy value f] := by
  rw [registerBy, if_neg (mt any_feature_iff.mp h)]

variable [LawfulMonad m]

/-- Of the features that are not there yet, each is asked for a value once, in the order in which
they come. -/
theorem foldlM_registerBy (fs : List (Feature ε)) (r : Registry ε) :
    fs.foldlM (registerBy value) r = do
      return r.add (← (fs.removeAll r.features).eraseDups.mapM (entryBy value)) := by
  induction fs generalizing r with
  | nil => simp [List.removeAll, add]
  | cons f fs ih =>
    rw [List.foldlM_cons]
    by_cases hf : f ∈ r.features
    · have hrest : (f :: fs).removeAll r.features = fs.removeAll r.features := by
        simp [List.removeAll, hf]
      rw [registerBy_of_mem hf, pure_bind, ih, hrest]
    · have hrest : (f :: fs).removeAll r.features = f :: fs.removeAll r.features := by
        simp [List.removeAll, hf]
      have hnext (e : FeatureEntry ε) (he : e.feature = f) :
          fs.removeAll (r.add [e]).features =
            (fs.removeAll r.features).filter fun g => !g == f := by
        rw [List.removeAll, List.removeAll, List.filter_filter]
        refine List.filter_congr fun g _ => ?_
        by_cases hg : g = f <;> simp [he, hg]
      rw [registerBy_of_not_mem hf, hrest, List.eraseDups_cons, List.mapM_cons]
      simp only [entryBy, ih, hnext, bind_assoc, pure_bind]
      simp [add]

end Monad

theorem run_mapM_recordedValue (source : FeatureSource) (l : List (Feature ε))
    (log : List (Call ε)) : (l.mapM (entryBy (recordedValue source))).run log = do
      return (← l.mapM (entryBy (valueFrom source)), log ++ l.map source.call) := by
  have hvalue (f : Feature ε) (log : List (Call ε)) : (recordedValue source f).run log = do
      return (← valueFrom source f, log ++ [source.call f]) := by
    cases source with
    | environment env => rfl
    | testDefaults => rfl
  induction l generalizing log with
  | nil => simp
  | cons f l ih =>
    rw [List.mapM_cons, List.mapM_cons, entryBy, entryBy]
    simp [hvalue, ih]

theorem map_feature_mapM (value : (f : Feature ε) → StateM σ f.Value) (l : List (Feature ε))
    (s : σ) : ((l.mapM (entryBy value)).run s).1.map FeatureEntry.feature = l := by
  induction l generalizing s with
  | nil => rfl
  | cons f l ih =>
    rw [List.mapM_cons]
    exact congrArg (f :: ·) (ih ((value f).run s).2)

section Run

variable [DecidableEq ε] {source : FeatureSource} {fs gs pre post : List (Feature ε)}
  {f : Feature ε} {es : List (FeatureEntry ε)} {s : σ}

theorem register_eq (r : Registry ε) (f : Feature ε) :
    r.register f = registerBy (valueFrom r.source) r f := rfl

/-- The source of a registry stays what it is. -/
theorem registerAll_eq (r : Registry ε) (fs : List (Feature ε)) :
    r.registerAll fs = fs.foldlM (registerBy (valueFrom r.source)) r := by
  induction fs generalizing r with
  | nil => rfl
  | cons f fs ih =>
    have hstep : r.registerAll (f :: fs) =
        registerBy (valueFrom r.source) r f >>= fun r' => r'.registerAll fs := by
      rw [← register_eq]
      exact List.foldlM_cons
    rw [hstep, List.foldlM_cons]
    by_cases hf : f ∈ r.features
    · rw [registerBy_of_mem hf, pure_bind, pure_bind, ih]
    · rw [registerBy_of_not_mem hf, bind_assoc, bind_assoc]
      refine bind_congr fun e => ?_
      rw [pure_bind, pure_bind, ih]
      rfl

theorem registerAll_eq_add (r : Registry ε) (fs : List (Feature ε)) :
    r.registerAll fs = do
      return r.add (← (fs.removeAll r.features).eraseDups.mapM (entryBy (valueFrom r.source))) := by
  rw [registerAll_eq, foldlM_registerBy]

/-- Registers the features with a record of the calls for their values. -/
def recordAll (source : FeatureSource) (fs : List (Feature ε)) :
    StateT (List (Call ε)) (StateM σ) (Registry ε) :=
  fs.foldlM (registerBy (recordedValue source)) (empty source)

theorem removeAll_features_empty (source : FeatureSource) (fs : List (Feature ε)) :
    fs.removeAll (empty source).features = fs := by
  simp [empty, features, List.removeAll]

/-- The record does not change what is registered, and it lists each distinct feature once. -/
theorem run_recordAll (source : FeatureSource) (fs : List (Feature ε)) (log : List (Call ε)) :
    (recordAll source fs).run log = do
      return (← (empty source).registerAll fs, log ++ fs.eraseDups.map source.call) := by
  rw [recordAll, foldlM_registerBy, registerAll_eq_add, removeAll_features_empty]
  simp [run_mapM_recordedValue, empty]

/-- The registry that is built from a source by registering features, and the state that this
leaves behind. -/
def registered (source : FeatureSource) (fs : List (Feature ε)) (s : σ) : Registry ε × σ :=
  ((empty source).registerAll fs).run s

theorem registered_eq (source : FeatureSource) (fs : List (Feature ε)) (s : σ) :
    ∃ es s', (fs.eraseDups.mapM (entryBy (valueFrom source))).run s = (es, s') ∧
      registered source fs s = (⟨source, es⟩, s') := by
  refine ⟨_, _, rfl, ?_⟩
  rw [registered, registerAll_eq_add, removeAll_features_empty]
  rfl

theorem features_registered (source : FeatureSource) (fs : List (Feature ε)) (s : σ) :
    (registered source fs s).1.features = fs.eraseDups := by
  obtain ⟨es, s', hrun, hregistered⟩ := registered_eq source fs s
  have hfeatures := map_feature_mapM (valueFrom source) fs.eraseDups s
  rw [hrun] at hfeatures
  rw [hregistered]
  exact hfeatures

/-- What a feature is given as its value where the given features came before it. -/
def valueAfter (source : FeatureSource) (pre : List (Feature ε)) (f : Feature ε) (s : σ) :
    f.Value :=
  ((valueFrom source f).run (registered source pre s).2).1

/-- The first registration of a feature adds its entry, and what follows adds others behind it. -/
theorem registered_append_cons (source : FeatureSource) (hf : f ∉ pre) (post : List (Feature ε))
    (s : σ) : ∃ es,
    (registered source (pre ++ f :: post) s).1 =
      (registered source pre s).1.add (⟨f, valueAfter source pre f s⟩ :: es) := by
  have hsplit : (empty source).registerAll (pre ++ f :: post) =
      (empty source).registerAll pre >>= fun r => r.registerAll (f :: post) :=
    List.foldlM_append
  have hrun : registered source (pre ++ f :: post) s =
      ((registered source pre s).1.registerAll (f :: post)).run (registered source pre s).2 := by
    rw [registered, hsplit]
    rfl
  have hsource : (registered source pre s).1.source = source := by
    obtain ⟨es, s', _, hregistered⟩ := registered_eq source pre s
    rw [hregistered]
  have hnew : (f :: post).removeAll (registered source pre s).1.features =
      f :: post.removeAll (registered source pre s).1.features := by
    simp [List.removeAll, features_registered, List.mem_eraseDups, hf]
  rw [hrun, registerAll_eq_add, hnew, List.eraseDups_cons, List.mapM_cons, hsource]
  exact ⟨_, rfl⟩

theorem lookup_eq_none_iff : lookup f es = none ↔ f ∉ es.map FeatureEntry.feature := by
  induction es with
  | nil => simp [lookup]
  | cons e es ih =>
    rw [lookup]
    by_cases hf : e.feature = f
    · simp [hf]
    · simp [hf, ih, Ne.symm hf]

theorem lookup_append_cons (hf : f ∉ es.map FeatureEntry.feature) (v : f.Value)
    (es' : List (FeatureEntry ε)) : lookup f (es ++ ⟨f, v⟩ :: es') = some v := by
  induction es with
  | nil => simp [lookup]
  | cons e es ih =>
    rw [List.map_cons, List.mem_cons, not_or] at hf
    rw [List.cons_append, lookup, dif_neg (Ne.symm hf.1), ih hf.2]

theorem get?_registered_append (hf : f ∉ pre) (post : List (Feature ε)) (s : σ) :
    (registered source (pre ++ f :: post) s).1.get? f = some (valueAfter source pre f s) := by
  obtain ⟨es, hregistered⟩ := registered_append_cons source hf post s
  have hnew : f ∉ (registered source pre s).1.features := by
    rw [features_registered, List.mem_eraseDups]
    exact hf
  rw [get?, hregistered, add]
  exact lookup_append_cons hnew _ es

theorem toList_registered_append (hf : f ∉ pre) (post : List (Feature ε)) (s : σ) :
    (registered source (pre ++ f :: post) s).1.toList[pre.eraseDups.length]? =
      some (f.name, f.display (valueAfter source pre f s)) := by
  obtain ⟨es, hregistered⟩ := registered_append_cons source hf post s
  have hlength : (registered source pre s).1.entries.length = pre.eraseDups.length := by
    rw [← features_registered source pre s, features, List.length_map]
  rw [toList, hregistered, add, List.getElem?_map, ← hlength]
  simp [FeatureEntry.display]

theorem get?_registered_eq_none_iff : (registered source fs s).1.get? f = none ↔ f ∉ fs := by
  rw [get?, lookup_eq_none_iff, ← features, features_registered, List.mem_eraseDups]

theorem eraseDups_append_singleton (fs : List (Feature ε)) (f : Feature ε) :
    (fs ++ [f]).eraseDups = fs.eraseDups ++ if f ∈ fs then [] else [f] := by
  by_cases hf : f ∈ fs
  · simp [List.eraseDups_append, List.removeAll, hf]
  · simp [List.eraseDups_append, List.removeAll, hf, List.eraseDups_cons]

theorem eraseDups_append_of_subset (h : ∀ g ∈ gs, g ∈ fs) :
    (fs ++ gs).eraseDups = fs.eraseDups := by
  have hnone : gs.removeAll fs = [] := by simpa [List.removeAll] using h
  simp [List.eraseDups_append, hnone]

theorem registered_append_of_subset (source : FeatureSource) (h : ∀ g ∈ gs, g ∈ fs) (s : σ) :
    registered source (fs ++ gs) s = registered source fs s := by
  rw [registered, registered, registerAll_eq_add, registerAll_eq_add, removeAll_features_empty,
    removeAll_features_empty, eraseDups_append_of_subset h]

/-- As `registered`, with the calls that were made for values. -/
def recorded (source : FeatureSource) (fs : List (Feature ε)) (s : σ) :
    (Registry ε × List (Call ε)) × σ :=
  ((recordAll source fs).run []).run s

theorem recorded_eq (source : FeatureSource) (fs : List (Feature ε)) (s : σ) :
    recorded source fs s = (((registered source fs s).1, fs.eraseDups.map source.call),
      (registered source fs s).2) := by
  rw [recorded, run_recordAll]
  rfl

/-- What holds of the registry that is built from a source by registering features. -/
structure FirstWins (source : FeatureSource) (fs : List (Feature ε)) (s : σ) : Prop where
  source_eq : (registered source fs s).1.source = source
  /-- The distinct features stand in the order in which they came. -/
  features : (registered source fs s).1.entries.map FeatureEntry.feature = fs.eraseDups
  length : (registered source fs s).1.entries.length = fs.eraseDups.length
  /-- Each of them was called once, in the way of the source and in the same order. There were no
  other calls. -/
  calls : recorded source fs s = (((registered source fs s).1, fs.eraseDups.map source.call),
    (registered source fs s).2)
  /-- The call is made where a feature comes first. -/
  callsNext : ∀ f, (recorded source (fs ++ [f]) s).1.2 =
    (recorded source fs s).1.2 ++ if f ∈ fs then [] else [source.call f]
  /-- What the call gave then is kept with its text, whatever came later. -/
  value : ∀ pre f post, fs = pre ++ f :: post → f ∉ pre →
    (registered source fs s).1.get? f = some (valueAfter source pre f s) ∧
    (registered source fs s).1.toList[pre.eraseDups.length]? =
      some (f.name, f.display (valueAfter source pre f s))
  found : ∀ f ∈ fs, ∃ v, (registered source fs s).1.get? f = some v ∧
    (registered source fs s).1.get f = .ok v
  /-- A feature that nobody registered is named when it is asked for. -/
  missing : ∀ f ∉ fs, (registered source fs s).1.get? f = none ∧
    ∃ e, (registered source fs s).1.get f = .error e ∧
      e.message = "feature '" ++ f.name ++ "' was not registered before generation started"
  /-- Features that are there can be registered again without effect. -/
  again : ∀ gs, (∀ g ∈ gs, g ∈ fs) → registered source (fs ++ gs) s = registered source fs s ∧
    recorded source (fs ++ gs) s = recorded source fs s

/-- A registry holds each feature with the value of its first registration, for which alone it was
called. -/
theorem first_registration_wins (source : FeatureSource) (fs : List (Feature ε)) (s : σ) :
    FirstWins source fs s where
  source_eq := by
    obtain ⟨es, s', _, hregistered⟩ := registered_eq source fs s
    rw [hregistered]
  features := features_registered source fs s
  length := by rw [← features_registered source fs s, features, List.length_map]
  calls := recorded_eq source fs s
  callsNext := by
    intro f
    rw [recorded_eq, recorded_eq, eraseDups_append_singleton, List.map_append]
    split <;> rfl
  value := by
    rintro pre f post rfl hf
    exact ⟨get?_registered_append hf post s, toList_registered_append hf post s⟩
  found := by
    intro f hf
    obtain ⟨v, hget⟩ := Option.ne_none_iff_exists'.mp fun hnone =>
      get?_registered_eq_none_iff.mp hnone hf
    exact ⟨v, hget, by rw [get, hget]⟩
  missing := by
    intro f hf
    have hget : (registered source fs s).1.get? f = none := get?_registered_eq_none_iff.mpr hf
    exact ⟨hget, ⟨f.name⟩, by rw [get, hget], rfl⟩
  again := by
    intro gs hgs
    have hregistered := registered_append_of_subset source hgs s
    refine ⟨hregistered, ?_⟩
    rw [recorded_eq, recorded_eq, hregistered, eraseDups_append_of_subset hgs]

end Run

end Registry

end AccessorGen
