import AccessorGen.AnnotationLine
import AccessorGen.Proofs.Layout
import Mathlib.Algebra.Ring.Int.Defs
import Mathlib.Order.Bounds.Basic

/-! Runs of steps on a writer. Each step only adds to the text, and leaving a level that is not
there is forgotten: the level is counted from the lowest point that the run has come to. -/
namespace AccessorGen.Code

/-- What can be done to a writer. -/
inductive Step : Type 1 where
  | line (s : String)
  | blank
  | javadoc (s : String)
  | deeper
  | shallower
  | fragment (f : Fragment)
  | emit {α : Type} [ToFragments α] (a : α)
  | annotate (e : AnnotationLine)

namespace Step

def apply (w : Writer) : Step → Writer
  | line s => w.line s
  | blank => w.blank
  | javadoc s => w.javadoc s
  | deeper => w.deeper
  | shallower => w.shallower
  | fragment f => w.fragment f
  | emit a => w.emit a
  | annotate e => e.addTo w

/-- Fragments come back to the level that they start from. -/
def shift : Step → Int
  | deeper => 1
  | shallower => -1
  | _ => 0

/-- The entries that a step adds, whatever has been written before. -/
def entries : Step → List Entry
  | line s => [.line 0 s]
  | blank => [.blank]
  | javadoc s => [.line 0 ("/** " ++ s ++ " */")]
  | deeper => []
  | shallower => []
  | fragment f => f.entries
  | emit a => (toFragments a).flatMap Fragment.entries
  | annotate e => [.line 0 (toString e)]

/-- The text that a step adds at a level. -/
def addition (unit : String) (level : Nat) (s : Step) : String :=
  String.join (s.entries.map (Entry.print unit level))

/-- The three ways to put an annotation on a line of its own. -/
inductive Writes (e : AnnotationLine) : Step → Prop
  | annotate : Writes e (annotate e)
  | emit : Writes e (emit e)
  | line : Writes e (fragment (.line (toString e)))

/-- A step moves the level or writes its entries, and never both. -/
theorem apply_cases (w : Writer) (s : Step) :
    (s.apply w = w.deeper ∧ s.shift = 1 ∧ s.entries = []) ∨
    (s.apply w = w.shallower ∧ s.shift = -1 ∧ s.entries = []) ∨
    (s.apply w = w.write s.entries ∧ s.shift = 0) := by
  cases s with
  | deeper => exact .inl ⟨rfl, rfl, rfl⟩
  | shallower => exact .inr (.inl ⟨rfl, rfl, rfl⟩)
  | line s => exact .inr (.inr ⟨w.line_eq_write s, rfl⟩)
  | blank => exact .inr (.inr ⟨w.blank_eq_write, rfl⟩)
  | javadoc s => exact .inr (.inr ⟨w.line_eq_write _, rfl⟩)
  | fragment f => exact .inr (.inr ⟨w.fragment_eq_write f, rfl⟩)
  | emit a =>
    have hwrite := w.emit_eq_write a
    rw [entriesOf_eq_flatMap] at hwrite
    exact .inr (.inr ⟨hwrite, rfl⟩)
  | annotate e => exact .inr (.inr ⟨w.line_eq_write _, rfl⟩)

theorem indent_apply (w : Writer) (s : Step) : (s.apply w).indent = w.indent := by
  rcases apply_cases w s with ⟨h, _⟩ | ⟨h, _⟩ | ⟨h, _⟩ <;> rw [h] <;> rfl

/-- At the outermost level there is none to leave. -/
theorem level_apply (w : Writer) (s : Step) :
    ((s.apply w).level : Int) = max 0 (w.level + s.shift) := by
  rcases apply_cases w s with ⟨h, hshift, _⟩ | ⟨h, hshift, _⟩ | ⟨h, hshift⟩
  · simp only [h, hshift, Writer.deeper]
    omega
  · simp only [h, hshift, Writer.shallower]
    omega
  · simp only [h, hshift, Writer.write]
    omega

theorem text_apply (w : Writer) (s : Step) :
    (s.apply w).text = w.text ++ s.addition w.indent.unit w.level := by
  rcases apply_cases w s with ⟨h, _, hnone⟩ | ⟨h, _, hnone⟩ | ⟨h, _⟩
  · simp [h, addition, hnone, Writer.deeper]
  · simp [h, addition, hnone, Writer.shallower]
  · rw [h, Writer.text_write, addition]

theorem Writes.apply_eq {e : AnnotationLine} {s : Step} (h : Writes e s) (w : Writer) :
    s.apply w = e.addTo w := by
  cases h <;> rfl

end Step

/-- The writer after some steps, from an empty text at the outermost level. -/
def run (i : Indent) (steps : List Step) : Writer := steps.foldl Step.apply { indent := i }

/-- How many steps go deeper, less those that go the other way. -/
def balance (steps : List Step) : Int := (steps.map Step.shift).sum

/-- The balances that a run comes to, before its first step and after each of them. -/
def balances (steps : List Step) : Set Int :=
  {b | ∃ k ≤ steps.length, balance (steps.take k) = b}

theorem run_append (i : Indent) (pre post : List Step) :
    run i (pre ++ post) = post.foldl Step.apply (run i pre) :=
  List.foldl_append

theorem run_concat (i : Indent) (steps : List Step) (s : Step) :
    run i (steps ++ [s]) = s.apply (run i steps) :=
  run_append i steps [s]

theorem balance_concat (steps : List Step) (s : Step) :
    balance (steps ++ [s]) = balance steps + s.shift := by
  simp [balance]

theorem balances_concat (steps : List Step) (s : Step) :
    balances (steps ++ [s]) = insert (balance (steps ++ [s])) (balances steps) := by
  ext b
  constructor
  · rintro ⟨k, hk, rfl⟩
    rcases Nat.lt_or_ge steps.length k with hlt | hle
    · have hall : (steps ++ [s]).length ≤ k := by
        rw [List.length_append]
        exact hlt
      exact .inl (congrArg balance (List.take_of_length_le hall))
    · exact .inr ⟨k, hle, by rw [List.take_append_of_le_length hle]⟩
  · rintro (rfl | ⟨k, hk, rfl⟩)
    · exact ⟨_, le_rfl, by rw [List.take_length]⟩
    · refine ⟨k, ?_, by rw [List.take_append_of_le_length hk]⟩
      rw [List.length_append]
      omega

theorem indent_run (i : Indent) (steps : List Step) : (run i steps).indent = i := by
  induction steps using List.reverseRecOn with
  | nil => rfl
  | append_singleton steps s ih => rw [run_concat, Step.indent_apply, ih]

/-- The level is how far the balance stands above the lowest one so far. A step that cannot be taken
lowers that one too, and so is forgotten. -/
theorem isLeast_balances (i : Indent) (steps : List Step) :
    IsLeast (balances steps) (balance steps - (run i steps).level) := by
  induction steps using List.reverseRecOn with
  | nil =>
    refine ⟨⟨0, le_rfl, rfl⟩, ?_⟩
    rintro b ⟨k, _, rfl⟩
    simp [run, balance]
  | append_singleton steps s ih =>
    have hstep := Step.level_apply (run i steps) s
    have hlowest : balance (steps ++ [s]) - (run i (steps ++ [s])).level =
        min (balance (steps ++ [s])) (balance steps - (run i steps).level) := by
      rw [run_concat, balance_concat, hstep]
      omega
    rw [hlowest, balances_concat]
    exact ih.insert _

theorem text_run_concat (i : Indent) (steps : List Step) (s : Step) :
    (run i (steps ++ [s])).text =
      (run i steps).text ++ s.addition i.unit (run i steps).level := by
  rw [run_concat, Step.text_apply, indent_run]

/-- Later steps only add to what is there. -/
theorem exists_text_run_append (i : Indent) (pre post : List Step) :
    ∃ later, (run i (pre ++ post)).text = (run i pre).text ++ later := by
  induction post using List.reverseRecOn with
  | nil => exact ⟨"", by simp⟩
  | append_singleton post s ih =>
    obtain ⟨later, hlater⟩ := ih
    refine ⟨later ++ s.addition i.unit (run i (pre ++ post)).level, ?_⟩
    rw [← List.append_assoc, text_run_concat, hlater, String.append_assoc]

/-- The texts that the steps add, each at the level that the steps before it have come to. -/
def additions (i : Indent) (steps : List Step) : List String :=
  steps.mapIdx fun k s => s.addition i.unit (run i (steps.take k)).level

theorem additions_concat (i : Indent) (steps : List Step) (s' : Step) :
    additions i (steps ++ [s']) =
      additions i steps ++ [s'.addition i.unit (run i steps).level] := by
  have hbefore : additions i steps = steps.mapIdx fun k s =>
      s.addition i.unit (run i ((steps ++ [s']).take k)).level := by
    apply List.mapIdx_eq_mapIdx_iff.mpr
    intro k hk
    rw [List.take_append_of_le_length (Nat.le_of_lt hk)]
  rw [hbefore, additions, List.mapIdx_concat, List.take_left]

theorem text_run (i : Indent) (steps : List Step) :
    (run i steps).text = String.join (additions i steps) := by
  induction steps using List.reverseRecOn with
  | nil => rfl
  | append_singleton steps s ih =>
    rw [text_run_concat, additions_concat, String.join_append, ih]
    simp

/-- What holds of every run that starts from an empty text at the outermost level. -/
structure Accumulates (i : Indent) (steps : List Step) : Prop where
  indent : (run i steps).indent = i
  /-- The lowest of all balances so far counts as the outermost level. -/
  level : ∃ lowest, IsLeast (balances steps) lowest ∧
    ((run i steps).level : Int) = balance steps - lowest
  text : (run i steps).text = String.join (additions i steps)
  /-- What is written stays, and a step adds to it what its level makes of it. -/
  appends : ∀ pre s post, steps = pre ++ s :: post →
    (run i (pre ++ [s])).text = (run i pre).text ++ s.addition i.unit (run i pre).level ∧
    ∃ later, (run i steps).text = (run i (pre ++ [s])).text ++ later
  /-- It makes no difference in which of the three ways an annotation is written. -/
  exchange : ∀ pre s post e s', steps = pre ++ s :: post → Step.Writes e s → Step.Writes e s' →
    run i (pre ++ s' :: post) = run i steps

/-- A run of steps adds one text after the other, and its level is how far it stands above the
lowest balance that it has come to. -/
theorem run_accumulates (i : Indent) (steps : List Step) : Accumulates i steps where
  indent := indent_run i steps
  level := by
    refine ⟨_, isLeast_balances i steps, ?_⟩
    omega
  text := text_run i steps
  appends := by
    rintro pre s post rfl
    refine ⟨text_run_concat i pre s, ?_⟩
    rw [List.append_cons]
    exact exists_text_run_append i (pre ++ [s]) post
  exchange := by
    rintro pre s post e s' rfl hs hs'
    rw [run_append, run_append, List.foldl_cons, List.foldl_cons, hs.apply_eq, hs'.apply_eq]

end AccessorGen.Code
