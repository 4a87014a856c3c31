import AccessorGen.Text

/-! The source version that a Java compiler is told to accept. -/

namespace AccessorGen

/-- A release number that knows annotation processing and fits in 32 bits. -/
structure SourceVersion where
  release : Nat
  supported : 6 ≤ release
  release_lt : release < UInt32.size
  deriving DecidableEq

namespace SourceVersion

instance : ToString SourceVersion := ⟨fun v => toString v.release⟩

instance : Ord SourceVersion := ⟨fun v w => compare v.release w.release⟩

def minimum : SourceVersion := ⟨6, by decide, by decide⟩

instance : Inhabited SourceVersion := ⟨minimum⟩

inductive ParseError where
  | invalid (text : String)
  | unsupported (release : Nat)
  deriving DecidableEq, Repr

def ParseError.message : ParseError → String
  | invalid text => s!"invalid source version '{text}', expected e.g. '1.7' or '8'"
  | unsupported release =>
    s!"source version {release} predates annotation processing (minimum is 6)"

/-- The version of a release that is known to fit in 32 bits. -/
def ofRelease (n : Nat) (h : n < UInt32.size) : Except ParseError SourceVersion :=
  if supported : 6 ≤ n then .ok ⟨n, supported, h⟩ else .error (.unsupported n)

/-- The value of a string of decimal digits. -/
def digitsValue (digits : List Char) : Nat :=
  digits.foldl (fun n c => 10 * n + (c.toNat - '0'.toNat)) 0

/-- Reads one or more digits, after a plus sign if there is one. -/
def number? (s : List Char) : Option Nat :=
  let digits := match s with
    | '+' :: rest => rest
    | _ => s
  if !digits.isEmpty && digits.all Char.isDigit then some (digitsValue digits) else none

/-- The number in a version's text: all of it, or what follows `1.` in the older spelling. -/
def releaseText? (s : List Char) : Option (List Char) :=
  match s with
  | '1' :: '.' :: minor => some minor
  | _ => if '.' ∈ s then none else some s

/-- Reads a version in either spelling, `1.7` or `7`. -/
def parse (text : String) : Except ParseError SourceVersion :=
  match (releaseText? text.toList).bind number? with
  | some n => if h : n < UInt32.size then ofRelease n h else .error (.invalid text)
  | none => .error (.invalid text)

end SourceVersion

end AccessorGen
