/-
TreePath.Regex.Regular.Program — searching with regular patterns.

A pattern becomes a list of steps, in which a fork goes on at one of two places. A search follows
the preferred place first and comes back to the other one if that fails. What has been looked at
once (a step at a position) cannot lead to a match later if it has not done so before, so nothing
is looked at twice, and the number of steps and positions bounds the search. A loop ends where it
has consumed nothing, because there it would look at the same steps again.
-/
import Std.Data.TreeSet.Basic
import TreePath.Regex.Regular.Size

namespace TreePath.Regex.Regular

open TreePath.Text (CharSet)

/-- A step of a search. Places to go on at are given as distances from the step. -/
inductive Step where
  /-- Consumes one character of the set. -/
  | read (s : CharSet)
  | edge (e : Edge)
  /-- Goes on behind the step or at the distance; behind the step first if `onward`. -/
  | fork (distance : Int) (onward : Bool)
  | goto (distance : Int)
  /-- Notes the position. -/
  | mark (slot : Nat)
  | accept

/-! ## Steps of patterns -/

/-- Copies one after another. -/
def copies (n : Nat) (steps : List Step) : List Step := (List.replicate n steps).flatten

/-- Up to `n` copies. After each of them the rest may be left out. -/
def optional (steps : List Step) (greedy : Bool) : (n : Nat) → List Step
  | 0 => []
  | n + 1 =>
    .fork ((n + 1) * (steps.length + 1)) greedy :: (steps ++ optional steps greedy n)

/-- Once or more often. -/
def loop (steps : List Step) (greedy : Bool) : List Step :=
  steps ++ [.fork (-steps.length) (!greedy)]

/-- The steps of a pattern; behind the last one the pattern has matched. -/
def toSteps : Regular → List Step
  | empty => []
  | set s => [.read s]
  | edge e => [.edge e]
  | seq a b => toSteps a ++ toSteps b
  | alt a b =>
    let left := toSteps a
    let right := toSteps b
    .fork (left.length + 2) true :: (left ++ .goto (right.length + 1) :: right)
  | group none r => toSteps r
  | group (some n) r => .mark (2 * n) :: (toSteps r ++ [.mark (2 * n + 1)])
  | «repeat» r least most greedy =>
    let one := toSteps r
    match least, most with
    | 0, none => .fork (one.length + 2) greedy :: loop one greedy
    | least + 1, none => copies least one ++ loop one greedy
    | least, some most => copies least one ++ optional one greedy (most - least)

/-- A pattern that is ready for searches. -/
structure Program where
  steps : Array Step

/-- The steps of the simplified pattern, if its automata are small enough. -/
def program? (r : Regular) : Option Program :=
  if r.isSmall then some ⟨(r.simplify.toSteps ++ [Step.accept]).toArray⟩ else none

namespace Program

/-! ## Searching -/

/-- A way through the text so far. -/
structure Thread where
  step : Nat
  position : Nat
  /-- Positions that were noted, latest first. -/
  marks : List (Nat × Nat) := []

namespace Thread

/-- Goes on at a distance from the current step. -/
def jump (t : Thread) (distance : Int) : Thread :=
  { t with step := ((t.step : Int) + distance).toNat }

/-- Goes on behind the current step. -/
def onward (t : Thread) : Thread := { t with step := t.step + 1 }

/-- Where to go on after a step, best first. -/
def successors (text : Array Char) (t : Thread) : Step → List Thread
  | .read s =>
    match text[t.position]? with
    | some c => if s.contains c then [{ t.onward with position := t.position + 1 }] else []
    | none => []
  | .edge e => if e.holds text t.position then [t.onward] else []
  | .fork d true => [t.onward, t.jump d]
  | .fork d false => [t.jump d, t.onward]
  | .goto d => [t.jump d]
  | .mark slot => [{ t.onward with marks := (slot, t.position) :: t.marks }]
  | .accept => []

/-- What a group has matched. -/
def group? (t : Thread) (index : Nat) : Option Match := do
  return ⟨← t.marks.lookup (2 * index), ← t.marks.lookup (2 * index + 1)⟩

end Thread

/-- What has been looked at: the number of a step at a position. -/
abbrev Seen := Std.TreeSet Nat

/-- Follows the threads, best first, until one is accepted; at most `n` of them. -/
def explore (p : Program) (text : Array Char) :
    (n : Nat) → Seen → List Thread → Option Thread × Seen
  | 0, seen, _ => (none, seen)
  | _ + 1, seen, [] => (none, seen)
  | n + 1, seen, t :: rest =>
    let key := t.position * p.steps.size + t.step
    if seen.contains key then explore p text n seen rest
    else
      match p.steps[t.step]? with
      | some .accept => (some t, seen)
      | some step => explore p text n (seen.insert key) (t.successors text step ++ rest)
      | none => explore p text n seen rest

/-- No search follows more threads: each step at each position has at most two successors. -/
def searchBound (p : Program) (text : Array Char) : Nat :=
  2 * p.steps.size * (text.size + 1) + 2

/-- The end of the match that begins at the position, with its groups. -/
def matchAt? (p : Program) (text : Array Char) (position : Nat) : Option Thread :=
  (p.explore text (p.searchBound text) ∅ [{ step := 0, position }]).1

/-- The first match among `n` places to begin, from `start` on; with its beginning. -/
def searchFrom (p : Program) (text : Array Char) :
    (n : Nat) → (start : Nat) → Seen → Option (Nat × Thread)
  | 0, _, _ => none
  | n + 1, start, seen =>
    match p.explore text (p.searchBound text) seen [{ step := 0, position := start }] with
    | (some t, _) => some (start, t)
    | (none, seen) => searchFrom p text n (start + 1) seen

/-- The first match that begins at the position or behind it; with its beginning. -/
def search? (p : Program) (text : Array Char) (position : Nat) : Option (Nat × Thread) :=
  p.searchFrom text (text.size + 1 - position) position ∅

end Program

end TreePath.Regex.Regular
