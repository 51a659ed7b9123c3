/-
TreePath.Text.Unicode.Run — sets of characters as runs of code points.

A property of the Unicode character database holds for stretches of neighbouring code points, or, in
the alphabets that interleave upper and lower case, for every second one. A `Run` is one such
stretch; a table is a list of runs. A `Shift` maps every character of a run by one distance.
-/

namespace TreePath.Text.Unicode

/-- The code points `first`, `first + step`, … up to `last`. -/
structure Run where
  first : Nat
  last : Nat
  step : Nat
deriving DecidableEq, Repr

namespace Run

/-- The code point belongs to the run. -/
def contains (r : Run) (n : Nat) : Bool :=
  r.first ≤ n && n ≤ r.last && (n - r.first) % r.step == 0

/-- The code point belongs to one of the runs. -/
def anyContains (table : List Run) (n : Nat) : Bool := table.any (·.contains n)

theorem anyContains_append (s t : List Run) (n : Nat) :
    anyContains (s ++ t) n = (anyContains s n || anyContains t n) := by
  simp [anyContains]

end Run

/-- Characters that all move by the same distance. -/
structure Shift where
  run : Run
  distance : Int
deriving DecidableEq, Repr

namespace Shift

/-- Where the first shift that covers the code point sends it; itself if none does. -/
def apply (table : List Shift) (n : Nat) : Nat :=
  match table.find? (·.run.contains n) with
  | some s => ((n : Int) + s.distance).toNat
  | none => n

end Shift

end TreePath.Text.Unicode
