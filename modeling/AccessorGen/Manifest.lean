import AccessorGen.Manifest.Checking
import AccessorGen.Manifest.Shape
import AccessorGen.Toml.Document

/-! Reading manifests from text. -/

namespace AccessorGen.Manifest

/-- The name that a manifest has by custom. -/
def defaultPath : String := "buildr.toml"

/-- Why the text of a file could not be had. -/
inductive FileError where
  | notFound
  | notText
  deriving DecidableEq, Repr

inductive Error where
  | unreadable (path : String) (cause : FileError)
  /-- Not a document, or one of the wrong shape. -/
  | malformed (cause : Option ShapeError)
  | faulty (file : String) (fault : Fault)
  deriving DecidableEq, Repr

namespace Error

def message : Error → String
  | unreadable path _ => s!"failed to read '{path}'"
  | malformed _ => "failed to parse manifest"
  | faulty _ fault => fault.message

def code : Error → String
  | unreadable .. => "buildr::io"
  | malformed _ => "buildr::parse_error"
  | faulty _ fault => fault.code

def help? : Error → Option String
  | unreadable .. => some "pass the manifest path with --manifest, or create ./buildr.toml"
  | malformed _ => none
  | faulty _ fault => fault.help?

/-- What is told about the shape of a manifest besides the message. -/
def detail? : Error → Option String
  | malformed cause => cause.bind ShapeError.detail?
  | _ => none

end Error

/-- Reads a manifest. Errors name `file` as the place of the text. -/
def parse (text file : String) : Except Error Manifest :=
  match Toml.parse? text with
  | none => .error (.malformed none)
  | some document =>
    match Draft.ofTable document with
    | .error cause => .error (.malformed (some cause))
    | .ok draft => (ofDraft draft).mapError (.faulty file)

/-- Reads the manifest at a path, with what reading the file gave. -/
def parseFile (path : String) (content : Except FileError String) : Except Error Manifest :=
  match content with
  | .error cause => .error (.unreadable path cause)
  | .ok text => parse text path

end AccessorGen.Manifest
