/-
TreePath.Regex.Edge — ends of texts and lines, and where matches stand.
-/

namespace TreePath.Regex

/-- A stretch of a text, from the position in front of its first character to the one behind its
last. -/
structure Match where
  start : Nat
  stop : Nat
deriving DecidableEq, Repr

/-- The characters of the stretch. -/
def Match.text (m : Match) (s : List Char) : List Char := (s.drop m.start).take (m.stop - m.start)

/-- A position at an end of the text or of one of its lines. -/
inductive Edge where
  | textStart
  | textEnd
  | lineStart
  | lineEnd
deriving DecidableEq, Repr

/-- The position is such an end. -/
def Edge.holds (text : Array Char) (position : Nat) : Edge → Bool
  | textStart => position == 0
  | textEnd => position == text.size
  | lineStart => position == 0 || text[position - 1]? == some '\n'
  | lineEnd => position == text.size || text[position]? == some '\n'

end TreePath.Regex
