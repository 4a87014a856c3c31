import AccessorGen.CommandLine.Run

/-! The program: reads the manifest that the command names, and prints what the command answers,
and what it logs and why it fails beside that. -/

open AccessorGen AccessorGen.CommandLine

/-- The manifest that a command reads. -/
def manifestPath? : Command → Option String
  | .check path => some path
  | .generate path .. => some path
  | .features path _ => path

def readTextFile (path : String) : IO (Except Manifest.FileError String) := do
  try
    match String.fromUTF8? (← IO.FS.readBinFile path) with
    | some text => return .ok text
    | none => return .error .notText
  catch _ => return .error .notFound

def main (args : List String) : IO UInt32 := do
  let files : Files ← match parse args with
    | .error _ => pure fun _ => .error .notFound
    | .ok command =>
      match manifestPath? command with
      | none => pure fun _ => .error .notFound
      | some path => do
        let content ← readTextFile path
        pure fun _ => content
  let session := run files args
  let outcome := Outcome.ofResult session
  IO.print outcome.stdout
  session.log.forM fun event => IO.eprintln event.line
  match session.result with
  | .error failure => IO.eprint failure.report
  | .ok _ => pure ()
  return outcome.exitCode.toUInt32
