/-
TreePath.Library.Strings — the built-in functions on strings.

Positions count characters from 1. Patterns match anywhere in a text unless they are anchored.
-/
import TreePath.Library.Argument
import TreePath.Regex.Compile

namespace TreePath.Library

open TreePath.Text

/-! ## Texts as lists of characters -/

/-- The words of a text: the longest pieces without white space. -/
def words (s : List Char) : List (List Char) :=
  let step (c : Char) (found : List (List Char)) : List (List Char) :=
    if Unicode.isWhiteSpace c then [] :: found
    else match found with
      | w :: rest => (c :: w) :: rest
      | [] => [[c]]
  (s.foldr step [[]]).filter fun w => !w.isEmpty

/-- `part` occurs in `s`. -/
def containsText (part : List Char) : (s : List Char) → Bool
  | [] => part.isEmpty
  | c :: s => part.isPrefixOf (c :: s) || containsText part s

/-- The characters at the positions from `start` on and in front of `stop`, if there is one. The
first character of `s` has position `position`. -/
def charactersBetween (start : Rat) (stop : Option Rat) :
    (position : Nat) → List Char → List Char
  | _, [] => []
  | position, c :: rest =>
    let p : Rat := position
    let inside := start ≤ p && stop.all (p < ·)
    if inside then c :: charactersBetween start stop (position + 1) rest
    else charactersBetween start stop (position + 1) rest

/-- The texts between successive matches, which come in order; `position` is the number of the
first character of `s`. -/
def piecesBetween (position : Nat) (s : List Char) : List Regex.Match → List (List Char)
  | [] => [s]
  | m :: rest =>
    s.take (m.start - position) :: piecesBetween m.stop (s.drop (m.stop - position)) rest

/-! ## Functions -/

def stringSubject (site : CallSite) (args : List Sequence) : Except Error String := do
  return ((← subject site args).map (·.stringValue)).getD ""

def string : Plain := fun site args => return Sequence.ofString (← stringSubject site args)

def stringLength : Plain := fun site args => do
  return [.atomic (countValue (← stringSubject site args).length)]

def normalizeSpace : Plain := fun site args => do
  let s ← stringSubject site args
  return Sequence.ofString (String.ofList (join [' '] (words s.toList)))

def concat : Plain := fun _ args =>
  return Sequence.ofString (String.join ((List.range args.length).map (textArgument args)))

def contains : Plain := fun _ args =>
  return Sequence.ofBool (containsText (textArgument args 1).toList (textArgument args 0).toList)

def startsWith : Plain := fun _ args =>
  return Sequence.ofBool
    ((textArgument args 1).toList.isPrefixOf (textArgument args 0).toList)

def endsWith : Plain := fun _ args =>
  return Sequence.ofBool
    ((textArgument args 1).toList.isSuffixOf (textArgument args 0).toList)

/-- A numeric argument rounded to a whole number. -/
def roundedArgument (args : List Sequence) (i : Nat) : Except Error Decimal := do
  match ← argument args i with
  | .atomic v :: _ => (← v.round).toDecimal
  | _ => throw ⟨.wrongType, "expected a numeric argument", none⟩

/-- The characters from a position on, perhaps only so many. An end beyond all numbers is no end; a
negative length beyond all numbers leaves nothing. -/
def substring : Plain := fun _ args => do
  let s := (textArgument args 0).toList
  let start ← roundedArgument args 1
  let result (stop : Option Rat) : Sequence :=
    Sequence.ofString (String.ofList (charactersBetween start.toRat stop 1 s))
  if args.length ≤ 2 then return result none
  let length ← roundedArgument args 2
  match start.add? length with
  | some stop => return result (some stop.toRat)
  | none => return if length.isNegative then Sequence.ofString "" else result none

def upperCase : Plain := fun _ args =>
  return Sequence.ofString (String.ofList (Unicode.toUpper (textArgument args 0).toList))

def lowerCase : Plain := fun _ args =>
  return Sequence.ofString (String.ofList (Unicode.toLower (textArgument args 0).toList))

def «matches» : Plain := fun _ args => do
  let r ← Regex.compile (textArgument args 1) (textArgument args 2)
  return Sequence.ofBool (r.isMatch (textArgument args 0).toList)

def stringJoin : Plain := fun _ args => do
  let items ← argument args 0
  return Sequence.ofString ((textArgument args 1).intercalate (items.atomics.map (·.text)))

/-- Splits a text at white space, or at the matches of a pattern that does not match the empty
text. -/
def tokenize : Plain := fun _ args => do
  let s := (textArgument args 0).toList
  let tokens (pieces : List (List Char)) : Sequence :=
    pieces.map fun p => .atomic (.string (String.ofList p))
  if args.length = 1 then return tokens (words s)
  if s.isEmpty then return []
  let pattern := textArgument args 1
  let r ← Regex.compile pattern (textArgument args 2)
  if r.isMatch [] then
    throw ⟨.invalidPattern, "pattern '" ++ pattern ++ "' matches a zero-length string", none⟩
  return tokens (piecesBetween 0 s (r.findAll s))

end TreePath.Library
