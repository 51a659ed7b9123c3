/-
TreePath.Regex.Regular.Bracket — sets of characters in regular patterns.

A set is written as an escape, as a property, or in brackets. In brackets stand characters, ranges,
escapes, named ASCII classes and further brackets; the operators `&&`, `--` and `~~` bind from left
to right. Where case does not matter, it is removed from every part that has brackets or an operator
of its own, before that part is negated.
-/
import TreePath.Regex.Flags
import TreePath.Text.Unicode.Property

namespace TreePath.Regex.Regular

open TreePath.Text TreePath.Text.Unicode

/-! ## White space and comments -/

/-- What follows white space and comments; `inComment` while a comment has not ended. -/
def dropBlanks (inComment : Bool) : List Char → List Char
  | [] => []
  | c :: rest =>
    if inComment then dropBlanks (c != '\n') rest
    else if isWhiteSpace c then dropBlanks false rest
    else if c == '#' then dropBlanks true rest
    else c :: rest

/-- What comes next, without white space and comments if they are to be skipped. -/
def next (flags : Flags) (s : List Char) : List Char :=
  if flags.extended then dropBlanks false s else s

/-- The character behind the next one, where a comment counts as one sign. -/
def peekBehind (flags : Flags) (s : List Char) : Option Char :=
  if flags.extended then
    match s.dropWhile isWhiteSpace with
    | '#' :: rest => (rest.dropWhile isWhiteSpace).head?
    | rest => rest.head?
  else s.head?

/-! ## Escapes -/

/-- The set without regard to case, if the flags say so. -/
def withoutCase (flags : Flags) (s : CharSet) : CharSet :=
  if flags.caseless then s.caseless Table.foldShifts else s

/-- The name of a property in braces, whose opening one has been read; at most `n` characters. -/
def bracedName (flags : Flags) : (n : Nat) → List Char → Option (List Char × List Char)
  | 0, _ => none
  | n + 1, s =>
    match next flags s with
    | [] => none
    | '\x7d' :: rest => some ([], rest)
    | c :: rest => (bracedName flags n rest).map fun (name, rest) => (c :: name, rest)

/-- A property: one letter, or a name in braces. -/
def readProperty (flags : Flags) (negated : Bool) (s : List Char) :
    Option (CharSet × List Char) := do
  let (name, rest) ← match next flags s with
    | '\x7b' :: rest => bracedName flags (rest.length + 1) rest
    | c :: rest => if c == '\\' then none else some ([c], rest)
    | [] => none
  let (found, outside) ← property? name
  return ((withoutCase flags found.toSet).negateIf (negated != outside), rest)

/-- A sign that has a meaning in patterns, or another one that needs no escape: all of ASCII but
letters, digits and the angle brackets. -/
def isEscapable (c : Char) : Bool :=
  c.toNat < 0x80 && !c.isAlphanum && c != '<' && c != '>'

/-- What is escaped is one character, or a set. -/
inductive Escaped where
  | char (c : Char)
  | set (s : CharSet)

/-- An escape, whose backslash has been read. -/
def readEscape (flags : Flags) (s : List Char) : Option (Escaped × List Char) :=
  let selected (p : Selection) (negated : Bool) (rest : List Char) :
      Option (Escaped × List Char) :=
    some (.set (p.toSet.negateIf negated), rest)
  match s with
  | [] => none
  | 'd' :: rest => selected .decimalNumber false rest
  | 'D' :: rest => selected .decimalNumber true rest
  | 's' :: rest => selected .whiteSpace false rest
  | 'S' :: rest => selected .whiteSpace true rest
  | 'w' :: rest => selected .wordCharacter false rest
  | 'W' :: rest => selected .wordCharacter true rest
  | 'p' :: rest => (readProperty flags false rest).map fun (s, rest) => (.set s, rest)
  | 'P' :: rest => (readProperty flags true rest).map fun (s, rest) => (.set s, rest)
  | 'n' :: rest => some (.char '\n', rest)
  | c :: rest => if isEscapable c then some (.char c, rest) else none

/-! ## Named ASCII classes -/

def asciiClasses : List (String × List (Char × Char)) := [
  ("alnum", [('0', '9'), ('A', 'Z'), ('a', 'z')]),
  ("alpha", [('A', 'Z'), ('a', 'z')]),
  ("ascii", [('\x00', '\x7f')]),
  ("blank", [('\t', '\t'), (' ', ' ')]),
  ("cntrl", [('\x00', '\x1f'), ('\x7f', '\x7f')]),
  ("digit", [('0', '9')]),
  ("graph", [('!', '~')]),
  ("lower", [('a', 'z')]),
  ("print", [(' ', '~')]),
  ("punct", [('!', '/'), (':', '@'), ('[', '`'), ('\x7b', '~')]),
  ("space", [('\t', '\r'), (' ', ' ')]),
  ("upper", [('A', 'Z')]),
  ("word", [('0', '9'), ('A', 'Z'), ('_', '_'), ('a', 'z')]),
  ("xdigit", [('0', '9'), ('A', 'F'), ('a', 'f')])]

/-- Reads `[:name:]` or `[:^name:]`, whose opening bracket has been read. -/
def readAsciiClass (flags : Flags) (s : List Char) : Option (CharSet × List Char) :=
  match s with
  | ':' :: rest =>
    let (negated, rest) := match rest with
      | '^' :: rest => (true, rest)
      | rest => (false, rest)
    let name := String.ofList (rest.takeWhile (· != ':'))
    match rest.dropWhile (· != ':') with
    | ':' :: ']' :: rest =>
      (asciiClasses.lookup name).map fun ranges =>
        let found := ranges.foldr (fun (a, b) t => (CharSet.range a b).union t) .empty
        ((withoutCase flags found).negateIf negated, rest)
    | _ => none
  | _ => none

/-! ## Brackets -/

/-- How two sets are combined. -/
inductive SetOperator where
  | intersection
  | difference
  | symmetricDifference
deriving DecidableEq, Repr

def SetOperator.apply : SetOperator → CharSet → CharSet → CharSet
  | intersection, s, t => s.inter t
  | difference, s, t => s.difference t
  | symmetricDifference, s, t => s.symmetricDifference t

/-- One bracket that is being read: how it began, the finished left side of an operator, and what
has been collected since. -/
structure OpenSet where
  negated : Bool
  left : Option (CharSet × SetOperator) := none
  items : CharSet := .empty

namespace OpenSet

/-- Adds an item. -/
def add (s : OpenSet) (item : CharSet) : OpenSet := { s with items := s.items.union item }

/-- Everything read so far as one set. -/
def content (flags : Flags) (s : OpenSet) : CharSet :=
  match s.left with
  | some (left, op) => op.apply (withoutCase flags left) (withoutCase flags s.items)
  | none => s.items

/-- Goes on to the right side of an operator. -/
def operator (flags : Flags) (s : OpenSet) (op : SetOperator) : OpenSet :=
  { s with left := some (s.content flags, op), items := .empty }

def close (flags : Flags) (s : OpenSet) : CharSet :=
  (withoutCase flags (s.content flags)).negateIf s.negated

end OpenSet

/-- What follows hyphens, at most `n` of them. -/
def skipHyphens (flags : Flags) : (n : Nat) → List Char → List Char
  | n + 1, '-' :: s => skipHyphens flags n (next flags s)
  | _, s => s

/-- Opens a bracket: an optional `^`, then hyphens or a closing bracket that stand for
themselves. -/
def openSet (flags : Flags) (s : List Char) : OpenSet × List Char :=
  let s := next flags s
  let (negated, s) := match s with
    | '^' :: s => (true, next flags s)
    | s => (false, s)
  let base : OpenSet := { negated }
  match s with
  | '-' :: _ => (base.add (.singleton '-'), skipHyphens flags s.length s)
  | ']' :: s => (base.add (.singleton ']'), s)
  | s => (base, s)

/-- A character or an escape. -/
def readMember (flags : Flags) (s : List Char) : Option (Escaped × List Char) :=
  match s with
  | [] => none
  | '\\' :: s => readEscape flags s
  | c :: s => some (.char c, s)

/-- A member, or a range of two characters. -/
def readItem (flags : Flags) (s : List Char) : Option (CharSet × List Char) := do
  let (first, s) ← readMember flags s
  let s := next flags s
  let alone : CharSet := match first with
    | .char c => .singleton c
    | .set t => t
  match s with
  | '-' :: behind =>
    let following := peekBehind flags behind
    if following == some ']' || following == some '-' then return (alone, s)
    let (second, rest) ← readMember flags (next flags behind)
    match first, second with
    | .char a, .char b => if a ≤ b then return (.range a b, rest) else none
    | _, _ => none
  | _ => return (alone, s)

/-- Reads up to the end of the outermost bracket, at most `n` steps. The innermost open bracket is
`current`, the others follow in `outer`. -/
def readSet (flags : Flags) : (n : Nat) → (current : OpenSet) → (outer : List OpenSet) →
    List Char → Option (CharSet × List Char)
  | 0, _, _, _ => none
  | n + 1, current, outer, s =>
    match next flags s with
    | [] => none
    | '[' :: rest =>
      match readAsciiClass flags rest with
      | some (t, rest) => readSet flags n (current.add t) outer rest
      | none =>
        let (opened, rest) := openSet flags rest
        readSet flags n opened (current :: outer) rest
    | ']' :: rest =>
      match outer with
      | [] => some (current.close flags, rest)
      | parent :: outer => readSet flags n (parent.add (current.close flags)) outer rest
    | '&' :: '&' :: rest => readSet flags n (current.operator flags .intersection) outer rest
    | '-' :: '-' :: rest => readSet flags n (current.operator flags .difference) outer rest
    | '~' :: '~' :: rest =>
      readSet flags n (current.operator flags .symmetricDifference) outer rest
    | s =>
      match readItem flags s with
      | some (t, rest) => readSet flags n (current.add t) outer rest
      | none => none

/-- A set in brackets, whose opening bracket has been read. -/
def readBracket (flags : Flags) (s : List Char) : Option (CharSet × List Char) :=
  let (opened, rest) := openSet flags s
  readSet flags (s.length + 1) opened [] rest

end TreePath.Regex.Regular
