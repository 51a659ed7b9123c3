/-
TreePath.Regex.Flags — the switches of patterns.

A pattern is given with flags, and may set them for parts of itself.
-/

namespace TreePath.Regex

/-- The switches of a pattern. -/
structure Flags where
  caseless : Bool := false
  multiline : Bool := false
  dotMatchesNewline : Bool := false
  /-- Repetitions are reluctant unless marked otherwise. -/
  swapGreed : Bool := false
  /-- White space and comments in the pattern are skipped. -/
  extended : Bool := false
deriving DecidableEq, Repr

namespace Flags

/-- The flags with the one of a letter set or cleared. -/
def set? (flags : Flags) (letter : Char) (on : Bool) : Option Flags :=
  match letter with
  | 'i' => some { flags with caseless := on }
  | 'm' => some { flags with multiline := on }
  | 's' => some { flags with dotMatchesNewline := on }
  | 'U' => some { flags with swapGreed := on }
  | 'x' => some { flags with extended := on }
  | 'u' => if on then some flags else none
  | _ => none

end Flags

end TreePath.Regex
