import AccessorGen.Manifest

/-! What the arguments of the command line ask for. -/

namespace AccessorGen.CommandLine

inductive Command where
  /-- Validate a manifest. -/
  | check (manifest : String)
  /-- Print the members of its types, or with `json` what is known about them. -/
  | generate (manifest : String) (source : Option SourceVersion) (type : Option String)
    (json : Bool)
  /-- Show the features that generating would have. -/
  | features (manifest : Option String) (source : Option SourceVersion)

/-- A command, and whether its log is wanted. -/
structure Request where
  verbose : Bool
  command : Command

/-- Why no command is run. -/
inductive Stop where
  | usage
  | help
  | version
  deriving DecidableEq, Repr

inductive Flag where
  | verbose
  | help
  | version
  | manifest
  | source
  | type
  | json
  deriving DecidableEq, Repr

namespace Flag

def long : Flag → String
  | verbose => "verbose"
  | help => "help"
  | version => "version"
  | manifest => "manifest"
  | source => "source"
  | type => "type"
  | json => "json"

def short? : Flag → Option Char
  | verbose => some 'v'
  | help => some 'h'
  | version => some 'V'
  | manifest => some 'm'
  | _ => none

def takesValue : Flag → Bool
  | manifest => true
  | source => true
  | type => true
  | _ => false

end Flag

/-- The flags met so far on one level of the command line, before the command or after it. -/
structure Given where
  verbose : Bool := false
  json : Bool := false
  manifest : Option String := none
  source : Option SourceVersion := none
  type : Option String := none

/-- Adds a flag with its value. No flag is given twice, a path is never empty, and a source version
has to be readable. -/
def Given.add (g : Given) (flag : Flag) (value : String) : Except Stop Given :=
  match flag with
  | .help => .error .help
  | .version => .error .version
  | .verbose => if g.verbose then .error .usage else .ok { g with verbose := true }
  | .json => if g.json then .error .usage else .ok { g with json := true }
  | .manifest =>
    if g.manifest.isSome || value.isEmpty then .error .usage
    else .ok { g with manifest := some value }
  | .source =>
    match g.source, SourceVersion.parse value with
    | none, .ok v => .ok { g with source := some v }
    | _, _ => .error .usage
  | .type => if g.type.isSome then .error .usage else .ok { g with type := some value }

/-- Reads short flags written together. A flag that takes a value has the rest for it, and waits for
the next argument if nothing is left. -/
def readShort (known : List Flag) (g : Given) : List Char → Except Stop (Given × Option Flag)
  | [] => .ok (g, none)
  | c :: rest =>
    match known.find? (·.short? = some c) with
    | none => .error .usage
    | some flag =>
      if flag.takesValue then
        match rest with
        | [] => .ok (g, some flag)
        | '=' :: value => do return (← g.add flag (String.ofList value), none)
        | value => do return (← g.add flag (String.ofList value), none)
      else do readShort known (← g.add flag "") rest

/-- Reads a long flag, from after its two dashes. -/
def readLong (known : List Flag) (g : Given) (s : List Char) : Except Stop (Given × Option Flag) :=
  let (name, value) := s.span (· ≠ '=')
  match known.find? (·.long = String.ofList name), value with
  | none, _ => .error .usage
  | some flag, [] =>
    if flag.takesValue then .ok (g, some flag) else do return (← g.add flag "", none)
  | some flag, _ :: value =>
    if flag.takesValue then do return (← g.add flag (String.ofList value), none) else .error .usage

/-- What an argument looks like. -/
inductive Word where
  /-- Two dashes and nothing else. -/
  | separator
  /-- A long flag, from after its two dashes. -/
  | long (flag : List Char)
  /-- Short flags, from after their dash. -/
  | short (first : Char) (flags : List Char)
  | plain

def Word.of : List Char → Word
  | ['-', '-'] => .separator
  | '-' :: '-' :: flag => .long flag
  | '-' :: first :: flags => .short first flags
  | _ => .plain

/-- Reads the flags of one level. Answers them with the arguments from the first on that is no flag.
A flag that waits for its value has the next argument, unless that looks like a flag too. Behind two
dashes nothing is accepted. -/
def readFlags (known : List Flag) (g : Given) (waiting : Option Flag) :
    List String → Except Stop (Given × List String)
  | [] => if waiting.isSome then throw .usage else return (g, [])
  | arg :: rest => do
    match waiting, Word.of arg.toList with
    | none, .plain => return (g, arg :: rest)
    | some flag, .plain => readFlags known (← g.add flag arg) none rest
    | some _, _ => throw .usage
    | none, .separator => if rest.isEmpty then return (g, []) else throw .usage
    | none, .long flag =>
      let (g, waiting) ← readLong known g flag
      readFlags known g waiting rest
    | none, .short first flags =>
      let (g, waiting) ← readShort known g (first :: flags)
      readFlags known g waiting rest

/-- Reads the flags of a command, which takes no other arguments. -/
def readCommandFlags (known : List Flag) (args : List String) : Except Stop Given := do
  match ← readFlags (known ++ [.verbose, .help]) {} none args with
  | (g, []) => return g
  | _ => throw .usage

inductive CommandName where
  | check
  | generate
  | features
  | help
  deriving DecidableEq, Repr

namespace CommandName

def all : List CommandName := [check, generate, features, help]

def text : CommandName → String
  | check => "check"
  | generate => "generate"
  | features => "features"
  | help => "help"

def read? (s : String) : Option CommandName := all.find? (·.text = s)

end CommandName

/-- Reads a command by its name. -/
def readCommand (name : String) (args : List String) : Except Stop Request := do
  match CommandName.read? name with
  | some .check =>
    let g ← readCommandFlags [.manifest] args
    return ⟨g.verbose, .check (g.manifest.getD Manifest.defaultPath)⟩
  | some .generate =>
    let g ← readCommandFlags [.manifest, .source, .type, .json] args
    return ⟨g.verbose,
      .generate (g.manifest.getD Manifest.defaultPath) g.source g.type g.json⟩
  | some .features =>
    let g ← readCommandFlags [.manifest, .source] args
    return ⟨g.verbose, .features g.manifest g.source⟩
  | some .help =>
    match args with
    | [] => throw .help
    | [about] => throw (if (CommandName.read? about).isSome then .help else .usage)
    | _ => throw .usage
  | none => throw .usage

/-- What the arguments ask for. A log may be asked for before the name of the command or after
it. -/
def parseRequest (args : List String) : Except Stop Request := do
  match ← readFlags [.verbose, .help, .version] {} none args with
  | (g, name :: rest) =>
    let request ← readCommand name rest
    return { request with verbose := g.verbose || request.verbose }
  | (_, []) => throw .usage

/-- The command that the arguments ask for, with a log or without. -/
def parse (args : List String) : Except Stop Command :=
  (parseRequest args).map Request.command

end AccessorGen.CommandLine
