/-! Tables of code points, as runs with a constant stride. -/

namespace AccessorGen.Unicode

/-- The code points `first`, `first + stride`, … that do not pass `last`. -/
structure Run where
  first : Nat
  last : Nat
  stride : Nat

def Run.contains (r : Run) (n : Nat) : Bool :=
  r.first ≤ n && n ≤ r.last && (n - r.first) % r.stride == 0

/-- A run moved as a whole, its first code point to `target`. -/
structure Shift where
  run : Run
  target : Nat

def Shift.apply (s : Shift) (n : Nat) : Nat :=
  s.target + (n - s.run.first)

end AccessorGen.Unicode
