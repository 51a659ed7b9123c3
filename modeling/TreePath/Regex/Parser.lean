/-
TreePath.Regex.Parser — reading patterns.

A pattern is alternatives of sequences of pieces; a piece is an atom with an optional repetition.
Groups nest at most 63 deep, which is what the recursion runs on; within one level every piece takes
at least one character. Flags end with the group that names them; set on their own, they hold for
all that follows. What is in brackets is taken over as it stands, with its escapes made plain.
-/
import TreePath.Regex.Flags
import TreePath.Regex.Notation

namespace TreePath.Regex

open TreePath.Text TreePath.Text.Unicode

namespace Parser

/-- What is left to read, and what has been seen. -/
structure State where
  rest : List Char
  flags : Flags
  /-- Groups opened so far. -/
  groupCount : Nat := 0
  /-- Named groups, latest first. -/
  groupNames : List (List Char × Nat) := []
  /-- Groups closed so far, and how much they consume. -/
  extents : List (Nat × Extent) := []
  /-- Groups that are referred to. -/
  references : List Nat := []
  /-- Some group was referred to by a number alone. -/
  numbered : Bool := false
  /-- Numbers of groups stay below this bound. -/
  numberBound : Nat

abbrev Parse := StateT State Option

/-- What is left to read. -/
def rest : Parse (List Char) := return (← get).rest

def setRest (s : List Char) : Parse Unit := modify fun st => { st with rest := s }

/-- The next character, without reading it. -/
def peek : Parse (Option Char) := return (← rest).head?

/-- Reads the given text if it comes next. -/
def accept (text : String) : Parse Bool := do
  match stripStart text.toList (← rest) with
  | some s => do
    setRest s
    return true
  | none => return false

/-- Reads with `p`, and counts the characters that it takes. -/
def counted {α : Type} (p : Parse α) : Parse (α × Nat) := do
  let before := (← rest).length
  let a ← p
  return (a, before - (← rest).length)

/-- Reads parts that take at least one character each. -/
def bounded {α : Type} (p : Nat → Parse α) : Parse α := do
  p ((← rest).length + 1)

/-! ## White space and comments -/

/-- What follows a comment, whose start has been read. -/
def afterComment : List Char → Option (List Char)
  | [] => none
  | ')' :: s => some s
  | '\\' :: [] => none
  | '\\' :: _ :: s => afterComment s
  | _ :: s => afterComment s

/-- Skips comments, and white space where that is allowed; at most `n` of them. -/
def skipBlanks (extended : Bool) : (n : Nat) → List Char → Option (List Char)
  | 0, s => some s
  | n + 1, s =>
    match s with
    | '(' :: '?' :: '#' :: s =>
      match afterComment s with
      | some s => skipBlanks extended n s
      | none => none
    | '#' :: s =>
      if extended then skipBlanks extended n ((s.dropWhile (· != '\n')).drop 1) else some ('#' :: s)
    | c :: s =>
      if extended && (c == ' ' || c == '\r' || c == '\n' || c == '\t') then skipBlanks extended n s
      else some (c :: s)
    | [] => some []

/-- What follows all blanks in front of the text. -/
def behindBlanks (extended : Bool) (s : List Char) : Option (List Char) :=
  skipBlanks extended (s.length + 1) s

def skip : Parse Unit := do
  let s ← behindBlanks (← get).flags.extended (← rest)
  setRest s

/-! ## Numbers and names -/

/-- The greatest number that is read as one. -/
def maxNumber : Nat := 18446744073709551615

/-- A decimal number that is not too great, and what follows it. -/
def number? (s : List Char) : Option (Nat × List Char) :=
  let digits := s.takeWhile isDigit
  let n := digitsValue digits
  if digits.isEmpty || maxNumber < n then none else some (n, s.drop digits.length)

/-- The letters, digits and underscores that come next. -/
def identifier : Parse (List Char) := do
  let s ← rest
  let found := s.takeWhile fun c => isAlphanumeric c || c == '_'
  setRest (s.drop found.length)
  return found

/-- The name of a new group. -/
def newName (close : String) : Parse (List Char) := do
  let found ← identifier
  if found.isEmpty then failure
  if ← accept close then return found else failure

/-! ## References -/

/-- A reference to a group. -/
def referTo (index : Nat) : Parse Nat := do
  modify fun st => { st with references := index :: st.references }
  return index

/-- A reference to a group by a number alone. -/
def numberedReference : Parse Nat := do
  let (n, s) ← number? (← rest)
  let st ← get
  if st.numberBound ≤ n then failure
  setRest s
  modify fun st => { st with numbered := true }
  referTo n

/-- A reference relative to the groups opened so far, whose sign has been read: the first one in
front is the latest, the first one behind is the next. -/
def relativeReference (behind : Bool) : Parse Nat := do
  let (n, s) ← number? (← rest)
  setRest s
  let count := (← get).groupCount
  if behind then referTo (count + n)
  else if n ≤ count + 1 then referTo (if n = 0 then count else count + 1 - n)
  else failure

/-- A reference to a group by name, or by number in the place of a name; the number may have a sign
if it may be `relative`. -/
def namedReference (relative : Bool) (close : String) : Parse Nat := do
  let found ← identifier
  let index ←
    if found.isEmpty then
      if !relative then failure
      else if ← accept "-" then relativeReference false
      else if ← accept "+" then relativeReference true
      else failure
    else match (← get).groupNames.lookup found with
      | some index => referTo index
      | none =>
        match readNat found with
        | some n => if maxNumber < n then failure else referTo n
        | none => failure
  if ← accept close then return index else failure

/-- What the group has matched. -/
def referenceTo (index : Nat) : Parse Pattern := do
  let st ← get
  return .backreference index st.flags.caseless ((st.extents.lookup index).getD ⟨0, false⟩)

/-! ## Escapes -/

/-- What an escape stands for: a character, a set in regular notation, or a pattern. -/
inductive Escape where
  | char (c : Char) (caseless : Bool)
  | set (written : List Char) (caseless : Bool)
  | pattern (r : Pattern)

/-- Up to eight hexadecimal digits in braces, and what follows them. -/
def bracedDigits? (s : List Char) : Option (List Char × List Char) :=
  match s with
  | '\x7b' :: s =>
    let digits := s.takeWhile isHexDigit
    match s.drop digits.length with
    | '\x7d' :: s => if 1 ≤ digits.length && digits.length ≤ 8 then some (digits, s) else none
    | _ => none
  | _ => none

/-- Exactly `width` hexadecimal digits, or some in braces, and what follows them. -/
def hexDigits? (width : Nat) (s : List Char) : Option (List Char × List Char) :=
  let front := s.take width
  if front.length = width && front.all isHexDigit then some (front, s.drop width)
  else bracedDigits? s

/-- A character by the hexadecimal digits of its code point. -/
def hexCharacter (width : Nat) : Parse Escape := do
  let (digits, s) ← hexDigits? width (← rest)
  setRest s
  let n := hexDigitsValue digits
  if n < 0xD800 || (0xDFFF < n && n < 0x110000) then
    return .char (Char.ofNat n) (← get).flags.caseless
  else failure

/-- The name of a property as it stands, one letter or a text in braces, and what follows it. -/
def propertyName? (s : List Char) : Option (List Char × List Char) :=
  match s with
  | '\x7b' :: s =>
    (cutFirst '\x7d' s).map fun (found, s) => ('\x7b' :: found ++ ['\x7d'], s)
  | c :: s => some ([c], s)
  | [] => none

/-- A property. -/
def propertySet (letter : Char) : Parse Escape := do
  let caseless := (← get).flags.caseless
  let (found, s) ← propertyName? (← rest)
  setRest s
  return .set ('\\' :: letter :: found) caseless

/-- A word boundary. Braces behind it are kept for other boundaries. -/
def boundary (a : Anchor) : Parse Escape := do
  skip
  if (← peek) == some '\x7b' then failure else return .pattern (.anchor a)

/-- The letters that stand for a control character. -/
def controlEscapes : List (Char × Char) := [
  ('a', '\x07'), ('f', '\x0c'), ('n', '\n'), ('r', '\r'), ('t', '\t'), ('v', '\x0b'),
  ('e', '\x1b')]

/-- The letters that stand for themselves inside brackets. -/
def plainLetters : List Char := ['k', 'A', 'z', 'B', 'K', 'G']

/-- An escape that means the same inside brackets and outside. -/
def commonEscape (c : Char) (bracketed : Bool) : Parse Escape := do
  match c with
  | 'h' => return .set "[0-9A-Fa-f]".toList false
  | 'H' => return .set "[^0-9A-Fa-f]".toList false
  | 'x' => hexCharacter 2
  | 'u' => hexCharacter 4
  | 'U' => hexCharacter 8
  | 'p' | 'P' => propertySet c
  | c =>
    if ['d', 'D', 's', 'S', 'w', 'W'].contains c then
      return .set ['\\', c] (← get).flags.caseless
    else match controlEscapes.lookup c with
      | some control => return .char control false
      | none =>
        if c.isAlpha && !(bracketed && plainLetters.contains c) then failure
        else return .char c false

/-- An escape inside brackets, whose backslash has been read. -/
def memberEscape : Parse Escape := do
  match ← rest with
  | [] => failure
  | c :: s =>
    if isDigit c then failure
    setRest s
    if c == 'b' then return .char '\x08' false else commonEscape c true

/-- The end of the text, or in front of line ends that run up to it. -/
def endBeforeNewlines : Pattern :=
  .look true false (.seq [.repeat (.set ['\\', 'n'] false) 0 none true, .anchor (.edge .textEnd)])

/-- An escape outside brackets by a letter or sign, which has been read. -/
def signEscape (c : Char) : Parse Escape := do
  let anchor (a : Anchor) : Parse Escape := return .pattern (.anchor a)
  match c with
  | 'k' =>
    if ← accept "'" then return .pattern (← referenceTo (← namedReference true "'"))
    else if ← accept "<" then return .pattern (← referenceTo (← namedReference true ">"))
    else failure
  | 'A' => anchor (.edge .textStart)
  | 'z' => anchor (.edge .textEnd)
  | 'Z' => return .pattern endBeforeNewlines
  | 'b' => boundary .wordBoundary
  | 'B' => boundary .notWordBoundary
  | '<' => anchor .wordStart
  | '>' => anchor .wordEnd
  | 'G' => anchor .searchStart
  | 'K' => return .pattern .keepOut
  | 'O' => return .pattern (.any true)
  | c => commonEscape c false

/-- An escape outside brackets, whose backslash has been read. -/
def escape : Parse Escape := do
  match ← rest with
  | [] => failure
  | c :: s =>
    if isDigit c then return .pattern (← referenceTo (← numberedReference))
    setRest s
    signEscape c

/-! ## Brackets -/

/-- What regular patterns write inside brackets for an escape. -/
def Escape.written? : Escape → Option (List Char)
  | char c _ => some (quotedMember c)
  | set written _ => some written
  | pattern _ => none

/-- How many inner brackets are open behind a character. -/
def depthBehind (depth : Nat) (c : Char) : Nat :=
  if c = '[' then depth + 1 else if c = ']' then depth - 1 else depth

/-- What is in brackets up to the closing one, with `depth` inner brackets open; at most `n`
members. Escapes are replaced by what regular patterns write for them. -/
def members : (n depth : Nat) → Parse (List Char)
  | 0, _ => failure
  | n + 1, depth => do
    match ← rest with
    | [] => failure
    | c :: s =>
      setRest s
      if c = '\\' then
        let member ← (← memberEscape).written?
        return member ++ (← members n depth)
      else if c = ']' && depth = 0 then return [c]
      else return c :: (← members n (depthBehind depth c))

/-- The beginning of what is in brackets, and what follows it. A closing bracket that comes first
is a member. -/
def bracketStart : List Char → List Char × List Char
  | '^' :: ']' :: s => (['^', ']'], s)
  | '^' :: s => (['^'], s)
  | ']' :: s => ([']'], s)
  | s => ([], s)

/-- A set in brackets, whose opening one has been read. -/
def bracket : Parse (List Char) := do
  let (start, s) := bracketStart (← rest)
  setRest s
  return '[' :: start ++ (← bounded (members · 0))

/-! ## Repetition -/

/-- The lower bound of a repetition in braces, which may be missing in front of a comma. -/
def leastBound (s : List Char) : Option (Nat × List Char) :=
  if s.head? = some ',' then some (0, s) else number? s

/-- The upper bound of a repetition in braces: the lower one without a comma, and none if nothing
follows the comma. -/
def mostBound (extended : Bool) (least : Nat) : List Char → Option (Option Nat × List Char)
  | '\x7d' :: s => some (some least, '\x7d' :: s)
  | ',' :: s => do
    let s ← behindBlanks extended s
    match number? s with
    | some (n, s) => some (if n = maxNumber then none else some n, s)
    | none => some (none, s)
  | _ => none

/-- The bounds of a repetition in braces, or nothing if the text has another form. -/
def bounds (extended : Bool) (s : List Char) : Option ((Nat × Option Nat) × List Char) := do
  let (least, s) ← leastBound (← behindBlanks extended s)
  let (most, s) ← mostBound extended least (← behindBlanks extended s)
  match ← behindBlanks extended s with
  | '\x7d' :: s => some ((least, most), s)
  | _ => none

/-- The bounds of the repetition that comes next, if one does, and what follows. -/
def repetition (extended : Bool) : List Char → Option (Nat × Option Nat) × List Char
  | '?' :: s => (some (0, some 1), s)
  | '*' :: s => (some (0, none), s)
  | '+' :: s => (some (1, none), s)
  | '\x7b' :: s =>
    match bounds extended s with
    | some (found, s) => (some found, s)
    | none => (none, '\x7b' :: s)
  | s => (none, s)

/-- Reads the repetition that follows an atom, if one does. -/
def repetition? : Parse (Option (Nat × Option Nat)) := do
  let (found, s) := repetition (← get).flags.extended (← rest)
  setRest s
  return found

/-- The pattern with what is said about its repetition. -/
def repeated (r : Pattern) : Parse Pattern := do
  skip
  match ← repetition? with
  | none => return r
  | some (least, most) =>
    if !r.isRepeatable then failure
    skip
    let reluctant ← accept "?"
    let greedy := reluctant == (← get).flags.swapGreed
    let r := Pattern.repeat r least most greedy
    if ← accept "+" then return .atomic r else return r

/-- An atom with what is said about its repetition. -/
def piece (atom : Parse Pattern) : Parse Pattern := do
  repeated (← atom)

/-! ## Groups -/

/-- The closing parenthesis of a group. -/
def close : Parse Unit := do
  skip
  if ← accept ")" then return () else failure

/-- The inside of a group. -/
def inside (inner : Parse Pattern) : Parse Pattern := do
  let r ← inner
  close
  return r

/-- Counts a group that is opened, and gives its number. -/
def openGroup : Parse Nat := do
  let index := (← get).groupCount + 1
  modify fun st => { st with groupCount := index }
  return index

/-- Reads the name of a group, if it has one. -/
def nameGroup (index : Nat) : Option (Parse (List Char)) → Parse Unit
  | none => return ()
  | some p => do
    let found ← p
    modify fun st => { st with groupNames := (found, index) :: st.groupNames }

/-- A group that keeps what it matches, with a name if there is one. -/
def keeping (inner : Parse Pattern) (groupName : Option (Parse (List Char))) : Parse Pattern := do
  let index ← openGroup
  nameGroup index groupName
  let r ← inside inner
  modify fun st => { st with extents := (index, r.extent) :: st.extents }
  return .group index r

/-- A sign among flag letters, which has been read, with `readCount` characters in front of it. `on`
while no hyphen has been read; `before` are the flags that hold behind the group, and `more` reads
further letters. -/
def flagSign (inner : Parse Pattern) (before : Flags) (on : Bool) (readCount : Nat)
    (more : (on : Bool) → Parse Pattern) (c : Char) : Parse Pattern := do
  match c with
  | ')' => if readCount = 0 || (!on && readCount = 1) then failure else return .empty
  | ':' =>
    if !on && readCount = 1 then failure
    let r ← inner
    if ← accept ")" then
      modify fun st => { st with flags := before }
      return r
    else failure
  | '-' => if on then more false else failure
  | c =>
    match (← get).flags.set? c on with
    | some flags =>
      modify fun st => { st with flags }
      more on
    | none => failure

/-- Flag letters, for all that follows or for a group of their own; at most `n` characters. -/
def flagGroup (inner : Parse Pattern) (before : Flags) :
    (n : Nat) → (readCount : Nat) → (on : Bool) → Parse Pattern
  | 0, _, _ => failure
  | n + 1, readCount, on => do
    let (_, blanks) ← counted skip
    match ← rest with
    | [] => failure
    | c :: s =>
      setRest s
      flagSign inner before on (readCount + blanks)
        (flagGroup inner before n (readCount + blanks + 1)) c

/-- The condition of a conditional pattern: a reference to a group, or a pattern. -/
def condition (inner : Parse Pattern) : Parse Pattern := do
  if ← accept "'" then referenceTo (← namedReference true "'")
  else if ← accept "<" then referenceTo (← namedReference true ">")
  else if (← peek).any isDigit then referenceTo (← namedReference false "")
  else inner

/-- The pattern refers to what a group has matched. -/
def isBackreference : Pattern → Bool
  | .backreference .. => true
  | _ => false

/-- A reference as a condition asks whether the group has matched. -/
def asCondition : Pattern → Pattern
  | .backreference index _ _ => .groupMatched index
  | r => r

/-- The cases of a conditional pattern: its inside is the case that the condition holds, and after a
bar the other case. -/
def casesOf : Pattern → Pattern × Pattern
  | .alt [yes, no] => (yes, no)
  | .alt (yes :: others) => (yes, .alt others)
  | body => (body, .empty)

/-- A conditional pattern, whose first parenthesis and question mark have been read. The cases may
only be left out if the condition is a reference. -/
def conditionalGroup (inner : Parse Pattern) : Parse Pattern := do
  let test ← condition inner
  close
  let (body, length) ← counted inner
  close
  let (yes, no) := casesOf body
  if length = 0 && !isBackreference test then failure
  else if yes.isEmpty && no.isEmpty then return asCondition test
  else return .conditional (asCondition test) yes no

/-- A group, whose opening parenthesis has been read; `inner` reads what is inside. -/
def group (inner : Parse Pattern) : Parse Pattern := do
  skip
  if ← accept "?=" then return .look true false (← inside inner)
  else if ← accept "?!" then return .look true true (← inside inner)
  else if ← accept "?<=" then return .look false false (← inside inner)
  else if ← accept "?<!" then return .look false true (← inside inner)
  else if ← accept "?<" then keeping inner (some (newName ">"))
  else if ← accept "?'" then keeping inner (some (newName "'"))
  else if ← accept "?P<" then keeping inner (some (newName ">"))
  else if ← accept "?P=" then referenceTo (← namedReference false ")")
  else if ← accept "?>" then return .atomic (← inside inner)
  else if ← accept "?(" then conditionalGroup inner
  else if ← accept "?" then
    let st ← get
    bounded fun n => flagGroup inner st.flags n 0 true
  else keeping inner none

/-! ## Levels -/

/-- The smallest part of a pattern that begins with a character, which has been read under the
flags. -/
def atomFrom (inner : Parse Pattern) (flags : Flags) (c : Char) : Parse Pattern := do
  match c with
  | '.' => return .any flags.dotMatchesNewline
  | '^' => return .anchor (.edge (if flags.multiline then .lineStart else .textStart))
  | '$' => return .anchor (.edge (if flags.multiline then .lineEnd else .textEnd))
  | '(' => group inner
  | '[' => return .set (← bracket) flags.caseless
  | '\\' =>
    match ← escape with
    | .char c caseless => return .literal c caseless
    | .set s caseless => return .set s caseless
    | .pattern r => return r
  | c => return .literal c flags.caseless

/-- The smallest part of a pattern. Nothing is read where a repetition, an alternative or the end
of a group stands instead. -/
def atom (inner : Parse Pattern) : Parse Pattern := do
  skip
  let flags := (← get).flags
  match ← rest with
  | [] => return .empty
  | c :: s =>
    if ['+', '*', '?', '|', ')'].contains c then return .empty
    setRest s
    atomFrom inner flags c

/-- The pieces of a branch, at most `n`; the branch ends where nothing more can be read. -/
def pieces (inner : Parse Pattern) : (n : Nat) → Parse (List Pattern)
  | 0 => return []
  | n + 1 => do
    let (r, length) ← counted (piece (atom inner))
    if length = 0 then return []
    let more ← pieces inner n
    return if r.isEmpty then more else r :: more

/-- A sequence of pieces. -/
def branch (inner : Parse Pattern) : Parse Pattern := do
  return Pattern.sequence (← bounded (pieces inner))

/-- The branches after a bar, at most `n`. -/
def moreBranches (inner : Parse Pattern) : (n : Nat) → Parse (List Pattern)
  | 0 => return []
  | n + 1 => do
    skip
    if ← accept "|" then
      let r ← branch inner
      return r :: (← moreBranches inner n)
    else return []

/-- The alternatives of which the first one has been read. References by number and groups with
names do not go together, which is found out at the end of a level without alternatives. -/
def alternatives (inner : Parse Pattern) (first : Pattern) : Parse Pattern := do
  match ← bounded (moreBranches inner) with
  | [] =>
    let st ← get
    if st.numbered && !st.groupNames.isEmpty then failure else return first
  | others => return .alt (first :: others)

/-- Alternatives. -/
def level (inner : Parse Pattern) : Parse Pattern := do
  alternatives inner (← branch inner)

/-- Alternatives whose groups nest at most `n` deep. -/
def nested : (n : Nat) → Parse Pattern
  | 0 => level failure
  | n + 1 => level (nested n)

/-- How deep groups may nest. -/
def maxDepth : Nat := 63

/-- Every reference is to a group of the pattern. -/
def State.hasGroups (st : State) : Bool :=
  st.references.all fun index => 0 < index && index ≤ st.groupCount

/-- Nothing has been read yet. -/
def State.start (flags : Flags) (pattern : List Char) : State :=
  { rest := pattern, flags, numberBound := utf8Length pattern / 2 }

end Parser

/-- Reads a pattern; gives it with the groups that it refers to. -/
def Pattern.read? (flags : Flags) (pattern : List Char) : Option (Pattern × List Nat) :=
  match Parser.nested Parser.maxDepth (.start flags pattern) with
  | some (r, st) => if st.rest.isEmpty && st.hasGroups then some (r, st.references) else none
  | none => none

end TreePath.Regex
