import AccessorGen.Code.Fragment

/-! Laying fragments out as indented lines. -/

namespace AccessorGen.Code

inductive Indent where
  | spaces (n : Nat)
  | tab
  deriving DecidableEq, Repr

/-- The text of one level. Only widths two, four and eight are kept; any other counts as two. -/
def Indent.unit : Indent → String
  | spaces 4 => "    "
  | spaces 8 => "        "
  | spaces _ => "  "
  | tab => "\t"

/-- Two spaces are the custom for Java. -/
instance : Inhabited Indent := ⟨.spaces 2⟩

/-- The text written so far, and the level of the next line. -/
structure Writer where
  indent : Indent := default
  level : Nat := 0
  text : String := ""

namespace Writer

def line (w : Writer) (s : String) : Writer :=
  { w with text := w.text ++ String.join (List.replicate w.level w.indent.unit) ++ s ++ "\n" }

/-- A blank line has no indentation. -/
def blank (w : Writer) : Writer :=
  { w with text := w.text ++ "\n" }

def deeper (w : Writer) : Writer :=
  { w with level := w.level + 1 }

/-- At the outermost level there is nothing to leave. -/
def shallower (w : Writer) : Writer :=
  { w with level := w.level - 1 }

def javadoc (w : Writer) (s : String) : Writer :=
  w.line ("/** " ++ s ++ " */")

mutual

def fragment (w : Writer) : Fragment → Writer
  | .line s => w.line s
  | .blank => w.blank
  | .block header body close =>
    let w := ((w.line header).deeper.fragments body).shallower
    match close with
    | some s => w.line s
    | none => w
  | .sequence parts => w.fragments parts
  | .javadoc s => w.javadoc s

def fragments (w : Writer) : List Fragment → Writer
  | [] => w
  | f :: fs => (w.fragment f).fragments fs

end

def emit {α : Type} [ToFragments α] (w : Writer) (a : α) : Writer :=
  w.fragments (toFragments a)

end Writer

end AccessorGen.Code
