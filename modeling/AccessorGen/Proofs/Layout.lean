import AccessorGen.Code.Writer
import AccessorGen.Proofs.Lines

/-! What fragments add to a text is settled before they are written: a list of lines, each with its
level counted from where the fragments stand. -/
namespace AccessorGen.Code

inductive Entry where
  | blank
  | line (depth : Nat) (text : String)
  deriving DecidableEq, Repr

namespace Entry

def deeper : Entry → Entry
  | blank => blank
  | line depth s => line (depth + 1) s

/-- The entry as a line, without its end. -/
def toText (unit : String) (level : Nat) : Entry → String
  | blank => ""
  | line depth s => String.join (List.replicate (level + depth) unit) ++ s

@[simp] theorem toText_deeper (unit : String) (level : Nat) (e : Entry) :
    e.deeper.toText unit level = e.toText unit (level + 1) := by
  cases e with
  | blank => rfl
  | line depth s => rw [deeper, toText, toText, Nat.add_right_comm, Nat.add_assoc]

/-- The entry as it stands in a text. Blank lines have no indentation. -/
def print (unit : String) (level : Nat) : Entry → String
  | blank => "\n"
  | line depth s => String.join (List.replicate (level + depth) unit) ++ s ++ "\n"

theorem toText_append_newline (unit : String) (level : Nat) (e : Entry) :
    e.toText unit level ++ "\n" = e.print unit level := by
  cases e with
  | blank => rfl
  | line depth s => rfl

end Entry

mutual

/-- The entries of a fragment. Those of a block's body are one level deeper. -/
def Fragment.entries : Fragment → List Entry
  | .line s => [.line 0 s]
  | .blank => [.blank]
  | .block header body close =>
    .line 0 header :: (entriesOf body).map Entry.deeper ++ (close.map (Entry.line 0)).toList
  | .sequence parts => entriesOf parts
  | .javadoc s => [.line 0 ("/** " ++ s ++ " */")]

def entriesOf : List Fragment → List Entry
  | [] => []
  | f :: fs => f.entries ++ entriesOf fs

end

theorem entriesOf_eq_flatMap (fs : List Fragment) : entriesOf fs = fs.flatMap Fragment.entries := by
  induction fs with
  | nil => rfl
  | cons f fs ih => rw [entriesOf, ih, List.flatMap_cons]

theorem entriesOf_append (fs gs : List Fragment) :
    entriesOf (fs ++ gs) = entriesOf fs ++ entriesOf gs := by
  simp only [entriesOf_eq_flatMap, List.flatMap_append]

theorem entriesOf_flatMap {α : Type} (f : α → List Fragment) (l : List α) :
    entriesOf (l.flatMap f) = l.flatMap fun a => entriesOf (f a) := by
  simp only [entriesOf_eq_flatMap, List.flatMap_assoc]

namespace Writer

variable {w : Writer} {es : List Entry}

/-- The writer after the given entries, at its own level. -/
def write (w : Writer) (es : List Entry) : Writer :=
  { w with text := w.text ++ ofLines (es.map (Entry.toText w.indent.unit w.level)) }

@[simp] theorem write_nil (w : Writer) : w.write [] = w := by
  simp [write, ofLines]

theorem write_append (w : Writer) (es es' : List Entry) :
    w.write (es ++ es') = (w.write es).write es' := by
  simp [write, ofLines, String.append_assoc]

theorem line_eq_write (w : Writer) (s : String) : w.line s = w.write [.line 0 s] := by
  simp [line, write, ofLines, Entry.toText, String.append_assoc]

theorem blank_eq_write (w : Writer) : w.blank = w.write [.blank] := by
  simp [blank, write, ofLines, Entry.toText]

/-- What is written one level deeper is written at the level itself with deeper entries. -/
theorem shallower_write_deeper (w : Writer) (es : List Entry) :
    (w.deeper.write es).shallower = w.write (es.map Entry.deeper) := by
  simp [shallower, deeper, write, Function.comp_def]

mutual

theorem fragment_eq_write : ∀ (w : Writer) (f : Fragment), w.fragment f = w.write f.entries
  | w, .line s => w.line_eq_write s
  | w, .blank => w.blank_eq_write
  | w, .block header body close => by
    have hbody : ((w.line header).deeper.fragments body).shallower =
        w.write (.line 0 header :: (entriesOf body).map Entry.deeper) := by
      rw [fragments_eq_write (w.line header).deeper body, shallower_write_deeper,
        line_eq_write, ← write_append, List.singleton_append]
    cases close with
    | none => simp [fragment, hbody, Fragment.entries]
    | some s =>
      simp only [fragment, hbody, Fragment.entries]
      rw [line_eq_write, ← write_append]
      rfl
  | w, .sequence parts => by
    rw [fragment, fragments_eq_write w parts, Fragment.entries]
  | w, .javadoc s => w.line_eq_write _

theorem fragments_eq_write :
    ∀ (w : Writer) (fs : List Fragment), w.fragments fs = w.write (entriesOf fs)
  | w, [] => (write_nil w).symm
  | w, f :: fs => by
    rw [fragments, fragment_eq_write w f, fragments_eq_write (w.write f.entries) fs, entriesOf,
      write_append]

end

theorem emit_eq_write {α : Type} [ToFragments α] (w : Writer) (a : α) :
    w.emit a = w.write (entriesOf (toFragments a)) :=
  w.fragments_eq_write _

theorem text_write (w : Writer) (es : List Entry) : (w.write es).text =
    w.text ++ String.join (es.map (Entry.print w.indent.unit w.level)) := by
  rw [write, ofLines, List.map_map]
  have hprint (e : Entry) : e.toText w.indent.unit w.level ++ "\n" =
      e.print w.indent.unit w.level := e.toText_append_newline _ _
  simp only [Function.comp_def, hprint]

/-- Fragments add their entries to the text and leave the writer's level and indentation as they
were, whatever these are. -/
theorem fragment_adds_entries (w : Writer) :
    (∀ f : Fragment, (w.fragment f).indent = w.indent ∧ (w.fragment f).level = w.level ∧
      (w.fragment f).text =
        w.text ++ String.join (f.entries.map (Entry.print w.indent.unit w.level))) ∧
    ∀ (α : Type) [ToFragments α] (a : α),
      (w.emit a).indent = w.indent ∧ (w.emit a).level = w.level ∧
      (w.emit a).text = w.text ++ String.join
        (((toFragments a).flatMap Fragment.entries).map (Entry.print w.indent.unit w.level)) := by
  constructor
  · intro f
    rw [fragment_eq_write]
    exact ⟨rfl, rfl, w.text_write f.entries⟩
  · intro α _ a
    rw [emit_eq_write, ← entriesOf_eq_flatMap]
    exact ⟨rfl, rfl, w.text_write (entriesOf (toFragments a))⟩

end Writer

end AccessorGen.Code
