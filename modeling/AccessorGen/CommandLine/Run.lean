import AccessorGen.CommandLine.Arguments
import AccessorGen.CommandLine.Session
import AccessorGen.Members

/-! What the commands print. -/

namespace AccessorGen.CommandLine

open Session

/-- The text of each file. -/
abbrev Files := String → Except Manifest.FileError String

inductive Failure where
  | stopped (why : Stop)
  | manifest (error : Manifest.Error)
  | noSuchType (name path : String)
  | unregistered (error : Unregistered)
  deriving DecidableEq, Repr

/-- How a run ends, and what it has printed. -/
structure Outcome where
  exitCode : Nat
  stdout : String
  deriving DecidableEq, Repr

def readManifest (files : Files) (path : String) : Except Failure Manifest :=
  (Manifest.parseFile path (files path)).mapError .manifest

/-- A count with its noun. -/
def counted (n : Nat) (noun : String) : String :=
  s!"{n} {noun}" ++ if n = 1 then "" else "s"

def unlines (lines : List String) : String :=
  String.join (lines.map (· ++ "\n"))

/-- The source level of a run: the flag's goes before the manifest's. -/
def resolveFeatures (flag manifest : Option SourceVersion) : Registry Empty :=
  Registry.standard (flag.or manifest)

def checkReport (path : String) (m : Manifest) : String :=
  let level := match m.sourceVersion with
    | some v => toString v
    | none => "not configured (test defaults)"
  let types := counted m.types.length "value type"
  let describe (t : ValueType) : String :=
    let accessors := counted t.accessors.length "accessor"
    let binding := if JsonBinding.isActive t then ", jackson" else ""
    s!"    {t.name} ({accessors}{binding})"
  unlines <|
    [s!"✓ {path} is valid", "", s!"  source level: {level}", "", s!"  {types}:"] ++
      m.types.map describe

/-- A feature that nobody registered ends the run at once. -/
def expectRegistered {α : Type} (answer : Except Unregistered α) : Session Failure α :=
  answer.mapError Failure.unregistered

def sourceLevel (r : Registry Empty) : Session Failure SourceLevel :=
  expectRegistered (r.get .sourceLevel)

section

variable {ε σ : Type} [FeatureFamily ε σ] [DecidableEq ε]

/-- Prints the members of one type under a comment with its name. -/
def printMembers (r : Registry ε) (m : Metadata) : Session Failure Unit := do
  printLine s!"// {m.typeName}"
  print (← expectRegistered (m.render r))

/-- Prints the members of one of several types. All but the first stand behind a blank line. -/
def printNth (r : Registry ε) (m : Metadata) (i : Nat) : Session Failure Unit := do
  if 0 < i then printLine ""
  printMembers r m

def printSource (r : Registry ε) (ms : List Metadata) : Session Failure Unit :=
  ms.zipIdx.forM fun (m, i) => printNth r m i

end

def metadataReport (ms : List Metadata) : String :=
  (Json.array (ms.map Metadata.toJson)).pretty

/-- The types that are asked for: all of them, or the one with the given name. -/
def selectTypes (m : Manifest) (path : String) : Option String → Except Failure (List ValueType)
  | none => .ok m.types
  | some name =>
    match m.find? name with
    | some t => .ok [t]
    | none => .error (.noSuchType name path)

/-- The mark tells whether the level supports the capability. -/
def capabilityLine (l : SourceLevel) (c : Capability) : String :=
  let mark := if l.supports c then "✓" else "✗"
  s!"  {mark} {c.name} (from {c.introducedIn})"

def titleOf : FeatureSource → String
  | .environment _ => "Features (resolved from environment):"
  | .testDefaults => "Features (test defaults):"

def entryLine (entry : String × String) : String := s!"  {entry.1}: {entry.2}"

def printFeatures (r : Registry Empty) : Session Failure Unit := do
  printLine (titleOf r.source)
  r.toList.forM fun entry => printLine (entryLine entry)
  printLine ""
  printLine "Capabilities:"
  let level ← sourceLevel r
  Capability.all.forM fun c => printLine (capabilityLine level c)

/-- Reads a manifest and tells the log. -/
def loadManifest (files : Files) (path : String) : Session Failure Manifest := do
  let m ← readManifest files path
  note [.parsedManifest path m.types.length m.sourceVersion]
  return m

/-- Derives the metadata of each type and tells the log. -/
def analyzeTypes (types : List ValueType) : Session Failure (List Metadata) := do
  note (types.flatMap analysisEvents)
  return types.map ValueType.metadata

/-- Resolves the features and tells the log. -/
def loadFeatures (flag manifest : Option SourceVersion) : Session Failure (Registry Empty) := do
  note (resolutionEvents (flag.or manifest))
  return resolveFeatures flag manifest

/-- What a command does. It reads its manifest before it prints anything. -/
def Command.run (files : Files) : Command → Session Failure Unit
  | check path => do
    let m ← loadManifest files path
    print (checkReport path m)
  | generate path source type json => do
    let m ← loadManifest files path
    let types ← selectTypes m path type
    let ms ← analyzeTypes types
    if json then printLine (metadataReport ms)
    else printSource (← loadFeatures source m.sourceVersion) ms
  | features path source => do
    let configured ← match path with
      | some path => do pure (← loadManifest files path).sourceVersion
      | none => pure none
    printFeatures (← loadFeatures source configured)

/-- Runs a command. Its log is kept only where it is wanted. -/
def Request.run (files : Files) (r : Request) : Session Failure Unit :=
  if r.verbose then r.command.run files else (r.command.run files).muted

def versionText : String := "buildr 0.1.0\n"

def helpText : String := unlines [
  "Generate Java builder accessors from TOML value type descriptions",
  "",
  "Usage: buildr [-v] <COMMAND>",
  "",
  "Commands:",
  "  check [-m PATH]",
  "  generate [-m PATH] [--source VERSION] [--type NAME] [--json]",
  "  features [-m PATH] [--source VERSION]"]

/-- What people are told about a failure. -/
def Failure.report : Failure → String
  | stopped .usage => helpText
  | stopped .help => ""
  | stopped .version => ""
  | manifest error =>
    let help := error.help?.map fun advice => s!"help: {advice}"
    unlines <| s!"{error.code}: {error.message}" :: (error.detail?.toList ++ help.toList)
  | noSuchType name path => s!"no value type named '{name}' in {path}\n"
  | unregistered error => error.message ++ "\n"

/-- What is printed where no command is run. -/
def Stop.text : Stop → String
  | usage => ""
  | help => helpText
  | version => versionText

/-- Runs the command that the arguments ask for. -/
def run (files : Files) (args : List String) : Session Failure Unit :=
  match parseRequest args with
  | .ok request => request.run files
  | .error why => do
    print why.text
    fail (.stopped why)

/-- The number that tells how a run has failed. Whoever asks for help or the version gets it. -/
def Failure.exitCode : Failure → Nat
  | stopped .help => 0
  | stopped .version => 0
  | stopped .usage => 2
  | manifest _ => 1
  | noSuchType .. => 1
  | unregistered _ => 101

def Outcome.ofResult (s : Session Failure Unit) : Outcome :=
  match s.result with
  | .ok () => ⟨0, s.stdout⟩
  | .error failure => ⟨failure.exitCode, s.stdout⟩

end AccessorGen.CommandLine
