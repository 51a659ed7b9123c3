/-
TreePath.Regex.Compile — patterns as functions and constraints give them.

A pattern comes with flag letters. An unknown letter and a pattern that cannot be read are errors of
their own; the letters are looked at first. A pattern that is regular throughout is matched in
bounded time, any other one by going back. A look ahead at the very end of a pattern only says where
the match ends, so the pattern without it becomes a group for the match, and what was looked for
follows the group.
-/
import TreePath.Error
import TreePath.Regex.Search

namespace TreePath

/-- A pattern that is ready for searches. -/
inductive Regex where
  /-- The number is that of the group for the match, or 0 if the whole pattern is the match. -/
  | regular (p : Regex.Regular.Program) (matchGroup : Nat)
  | backtracking (p : Regex.Program)

namespace Regex

/-! ## Making patterns ready -/

/-- The pattern with a group for the match, if it ends with a look ahead. -/
def Pattern.withMatchGroup? : Pattern → Option Pattern
  | .seq parts =>
    match parts.getLast? with
    | some (.look true false r) => some (.seq [.group 0 (Pattern.sequence parts.dropLast), r])
    | _ => none
  | _ => none

/-- The pattern, in which groups are referred to, if it can be made ready. -/
def ofTree? (flags : Flags) (r : Pattern) (references : List Nat) : Option Regex := do
  let marked := r.withMatchGroup?
  let groupCount := r.groups.foldl max 0
  let r := marked.getD r
  if r.isIrregular references then
    return .backtracking (← Program.ofPattern? flags references groupCount r marked.isSome)
  else
    let found ← Regular.read? flags (r.written .alone)
    return .regular (← found.program?) (if marked.isSome then 1 else 0)

/-- The pattern under flags, if it can be read. -/
def ofPattern? (flags : Flags) (pattern : List Char) : Option Regex := do
  let (r, references) ← Pattern.read? flags pattern
  ofTree? flags r references

def unsupportedFlag (letter : Char) : Error :=
  ⟨.invalidPatternFlags, "unsupported regex flag: " ++ letter.toString, none⟩

def invalidPattern (pattern : String) : Error :=
  ⟨.invalidPattern, "invalid regex pattern '" ++ pattern ++ "'", none⟩

/-- The flags that letters stand for. -/
def readFlags (flags : Flags) : List Char → Except Error Flags
  | [] => .ok flags
  | c :: rest =>
    match if ['i', 'm', 's', 'x'].contains c then flags.set? c true else none with
    | some flags => readFlags flags rest
    | none => .error (unsupportedFlag c)

/-- The pattern with the given flag letters. -/
def compile (pattern flags : String) : Except Error Regex := do
  let flags ← readFlags {} flags.toList
  match ofPattern? flags pattern.toList with
  | some r => return r
  | none => throw (invalidPattern pattern)

/-! ## Searching -/

/-- A match and what its groups have matched. -/
structure Found where
  whole : Match
  group? : Nat → Option Match

/-- The first match that begins at the origin or behind it. A match never ends before it begins. -/
def search? (r : Regex) (text : Array Char) (origin : Program.Origin) : Option Found :=
  match r with
  | regular p matchGroup =>
    (p.search? text origin.position).map fun (start, t) =>
      { whole := if matchGroup = 0 then ⟨start, t.position⟩
          else (t.group? matchGroup).getD ⟨start, t.position⟩
        group? := fun index => t.group? (index + matchGroup) }
  | backtracking p =>
    (p.search? text origin).bind fun t =>
      (t.group? 0).map fun whole =>
        { whole := ⟨min whole.start whole.stop, whole.stop⟩, group? := t.group? }

/-- The pattern matches somewhere in the text. -/
def isMatch (r : Regex) (s : List Char) : Bool := (r.search? s.toArray ⟨0, false⟩).isSome

/-- The text of the first group in the first match, or of the whole match if the group has none. -/
def firstText? (r : Regex) (s : List Char) : Option (List Char) :=
  (r.search? s.toArray ⟨0, false⟩).map fun found => ((found.group? 1).getD found.whole).text s

/-- The matches from a position on, at most `n` searches; `last` is the end of the match before.
After an empty match the search goes on one character further; an empty match right behind another
match does not count. -/
def findFrom (r : Regex) (text : Array Char) :
    (n : Nat) → (position : Nat) → (last : Option Nat) → List Match
  | 0, _, _ => []
  | n + 1, position, last =>
    if text.size < position then []
    else
      match r.search? text ⟨position, last.any (· < position)⟩ with
      | none => []
      | some found =>
        let m := found.whole
        if m.start = m.stop then
          let rest := findFrom r text n (m.stop + 1) (some m.stop)
          if last = some m.stop then rest else m :: rest
        else m :: findFrom r text n m.stop (some m.stop)

/-- The successive matches in a text, from left to right and without overlaps. -/
def findAll (r : Regex) (s : List Char) : List Match :=
  r.findFrom s.toArray (2 * s.length + 2) 0 none

end Regex

end TreePath
