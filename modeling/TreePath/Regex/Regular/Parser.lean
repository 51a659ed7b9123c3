/-
TreePath.Regex.Regular.Parser — reading regular patterns.

A pattern is alternatives of sequences of atoms, each with any number of repetitions behind it.
Flags set inside a group end with it. Patterns that nest too deep are refused.
-/
import TreePath.Regex.Regular.Bracket
import TreePath.Regex.Regular.Syntax

namespace TreePath.Regex.Regular

open TreePath.Text TreePath.Text.Unicode

namespace Parser

/-- What is left to read, and what has been seen. -/
structure State where
  rest : List Char
  flags : Flags
  /-- Groups opened so far. -/
  groupCount : Nat := 0
  groupNames : List (List Char) := []

abbrev Parse := StateT State Option

/-- Reads with a function that knows the flags. -/
def reading {α : Type} (f : Flags → List Char → Option (α × List Char)) : Parse α := fun st =>
  (f st.flags st.rest).map fun (a, rest) => (a, { st with rest })

def setRest (s : List Char) : Parse Unit := modify fun st => { st with rest := s }

/-- Skips white space and comments if the flags say so, and shows what is left. -/
def upcoming : Parse (List Char) := do
  modify fun st => { st with rest := next st.flags st.rest }
  return (← get).rest

/-! ## Repetition -/

/-- The greatest number of repetitions that can be written. -/
def maxCount : Nat := 4294967295

/-- The digits that come next, at most `n`; blanks may stand between them. -/
def digits (flags : Flags) : (n : Nat) → List Char → List Char × List Char
  | 0, s => ([], s)
  | n + 1, s =>
    match s with
    | c :: rest =>
      if isDigit c then
        let (more, rest) := digits flags n (next flags rest)
        (c :: more, rest)
      else ([], s)
    | [] => ([], [])

/-- A count in braces, with white space around it. -/
def count? (flags : Flags) (s : List Char) : Option (Nat × List Char) := do
  let s := s.dropWhile isWhiteSpace
  let (found, rest) := digits flags s.length s
  let n := digitsValue found
  if found.isEmpty || maxCount < n then none
  else return (n, next flags (rest.dropWhile isWhiteSpace))

/-- The bounds of a repetition in braces, whose opening one has been read. -/
def bounds (flags : Flags) (s : List Char) : Option ((Nat × Option Nat) × List Char) := do
  let (least, s) ← count? flags (next flags s)
  let (most, s) ← match s with
    | ',' :: s =>
      match next flags s with
      | '\x7d' :: s => some (none, '\x7d' :: s)
      | s => (count? flags s).map fun (n, s) => (some n, s)
    | s => some (some least, s)
  match s with
  | '\x7d' :: s => if most.any (· < least) then none else return ((least, most), next flags s)
  | _ => none

/-- The repetitions that follow a pattern, at most `n`. -/
def repeated : (n : Nat) → Regular → Parse Regular
  | 0, r => return r
  | n + 1, r => do
    let times (least : Nat) (most : Option Nat) (s : List Char) : Parse Regular := do
      let swap := (← get).flags.swapGreed
      match s with
      | '?' :: s =>
        setRest s
        repeated n (.repeat r least most swap)
      | s =>
        setRest s
        repeated n (.repeat r least most !swap)
    match ← upcoming with
    | '?' :: s => times 0 (some 1) s
    | '*' :: s => times 0 none s
    | '+' :: s => times 1 none s
    | '\x7b' :: s =>
      match bounds (← get).flags s with
      | some ((least, most), s) => times least most s
      | none => failure
    | _ => return r

/-! ## Groups -/

/-- Runs a parser and puts the flags back as they were. -/
def keepingFlags {α : Type} (p : Parse α) : Parse α := do
  let flags := (← get).flags
  let a ← p
  modify fun st => { st with flags }
  return a

/-- The inside of a group and its end. -/
def inside (inner : Parse Regular) : Parse Regular := do
  let r ← inner
  match ← upcoming with
  | ')' :: s =>
    setRest s
    return r
  | _ => failure

/-- A group that keeps what it matches. -/
def keeping (inner : Parse Regular) : Parse Regular := do
  let index := (← get).groupCount + 1
  modify fun st => { st with groupCount := index }
  return .group (some index) (← keepingFlags (inside inner))

/-- A character of the name of a group. -/
def isNamePart (first : Bool) (c : Char) : Bool :=
  c == '_' || (if first then isAlphabetic c
    else c == '.' || c == '[' || c == ']' || isAlphanumeric c)

/-- The name of a group, up to the closing angle bracket. No two groups have one name. -/
def groupName : Parse Unit := do
  let s := (← get).rest
  let found := s.takeWhile (· != '>')
  let wellFormed := match found with
    | [] => false
    | c :: more => isNamePart true c && more.all (isNamePart false)
  if !wellFormed || (← get).groupNames.contains found then failure
  match s.drop found.length with
  | _ :: s => modify fun st => { st with rest := s, groupNames := found :: st.groupNames }
  | [] => failure

/-- Flag letters up to a colon or a closing parenthesis. -/
def flagLetters (flags : Flags) (on : Bool) (seen : List Char) :
    List Char → Option (Flags × List Char)
  | '-' :: s => if on then flagLetters flags false seen s else none
  | c :: s =>
    if c == ':' || c == ')' then some (flags, c :: s)
    else if seen.contains c then none
    else (flags.set? c on).bind fun flags => flagLetters flags on (c :: seen) s
  | [] => none

/-- A group, whose opening parenthesis has been read; or nothing, if it sets flags for what
follows. -/
def group (inner : Parse Regular) : Parse (Option Regular) := do
  let s ← upcoming
  match s with
  | '?' :: 'P' :: '<' :: s =>
    setRest s
    groupName
    return some (← keeping inner)
  | '?' :: '<' :: s =>
    setRest s
    groupName
    return some (← keeping inner)
  | '?' :: s =>
    match flagLetters (← get).flags true [] s with
    | some (flags, colon :: rest) =>
      let letters := s.take (s.length - rest.length - 1)
      if letters.getLast? == some '-' then failure
      if colon == ':' then
        let r ← keepingFlags do
          modify fun st => { st with rest, flags }
          inside inner
        return some (.group none r)
      else
        if letters.isEmpty then failure
        modify fun st => { st with rest, flags }
        return none
    | _ => failure
  | _ => return some (← keeping inner)

/-! ## Levels -/

/-- A character that stands for itself. -/
def literal (flags : Flags) (c : Char) : Regular := .set (withoutCase flags (.singleton c))

/-- An atom, or nothing if flags are set; none of the signs that end a sequence come next. -/
def atom (inner : Parse Regular) : Parse (Option Regular) := do
  let s ← upcoming
  let flags := (← get).flags
  match s with
  | [] => failure
  | c :: s =>
    if ['?', '*', '+', '\x7b'].contains c then failure
    setRest s
    match c with
    | '.' =>
      let newline : CharSet := .singleton '\n'
      return some (.set (if flags.dotMatchesNewline then .all else newline.complement))
    | '^' => return some (.edge (if flags.multiline then .lineStart else .textStart))
    | '$' => return some (.edge (if flags.multiline then .lineEnd else .textEnd))
    | '(' => group inner
    | '[' => return some (.set (← reading readBracket))
    | '\\' =>
      match ← reading readEscape with
      | .char c => return some (literal flags c)
      | .set t => return some (.set t)
    | c => return some (literal flags c)

/-- The atoms of a sequence with their repetitions, at most `n`. -/
def pieces (inner : Parse Regular) : (n : Nat) → Parse (List Regular)
  | 0 => failure
  | n + 1 => do
    match ← upcoming with
    | [] | '|' :: _ | ')' :: _ => return []
    | s =>
      match ← atom inner with
      | some r =>
        let r ← repeated (s.length + 1) r
        return r :: (← pieces inner n)
      | none => pieces inner n

/-- Sequences with bars between them, at most `n`. -/
def branches (inner : Parse Regular) : (n : Nat) → Parse (List Regular)
  | 0 => failure
  | n + 1 => do
    let first := sequence (← pieces inner ((← get).rest.length + 1))
    match ← upcoming with
    | '|' :: s =>
      setRest s
      return first :: (← branches inner n)
    | _ => return [first]

/-- Alternatives. -/
def level (inner : Parse Regular) : Parse Regular := do
  return alternatives (← branches inner ((← get).rest.length + 1))

/-- Alternatives whose groups nest at most `n` deep. -/
def nested : (n : Nat) → Parse Regular
  | 0 => failure
  | n + 1 => level (nested n)

/-- How deep patterns may nest. -/
def maxDepth : Nat := 250

end Parser

/-- Reads a regular pattern. -/
def read? (flags : Flags) (pattern : List Char) : Option Regular :=
  match Parser.nested (Parser.maxDepth + 1) { rest := pattern, flags } with
  | some (r, st) => if st.rest.isEmpty && r.depth ≤ Parser.maxDepth then some r else none
  | none => none

end TreePath.Regex.Regular
