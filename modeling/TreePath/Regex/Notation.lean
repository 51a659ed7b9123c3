/-
TreePath.Regex.Notation — writing patterns in the notation of regular patterns.

The parts of a pattern that are regular are written down and read again as regular patterns, under
the flags that the whole pattern is given with.
-/
import TreePath.Regex.Syntax
import TreePath.Text.Scan

namespace TreePath.Regex

open TreePath.Text (natDigits)

/-- The signs that mean something in patterns. -/
def specialSigns : List Char :=
  ['\\', '.', '+', '*', '?', '(', ')', '|', '[', ']', '\x7b', '\x7d', '^', '$', '#']

/-- The character, with a backslash in front if it is one of the signs. -/
def quoted (signs : List Char) (c : Char) : List Char :=
  if signs.contains c then ['\\', c] else [c]

/-- The character outside brackets. -/
def quotedLiteral (c : Char) : List Char := quoted specialSigns c

/-- The character inside brackets, where operators are to be avoided too. -/
def quotedMember (c : Char) : List Char := quoted ('&' :: '-' :: '~' :: specialSigns) c

/-- Puts a text into a group that keeps nothing. -/
def grouped (needed : Bool) (s : List Char) : List Char :=
  if needed then "(?:".toList ++ s ++ [')'] else s

/-- Puts a text into a group that ignores case. -/
def caselessGroup (needed : Bool) (s : List Char) : List Char :=
  if needed then "(?i:".toList ++ s ++ [')'] else s

/-- The notation of an end of a text or line. -/
def Edge.written : Edge → List Char
  | textStart => ['^']
  | textEnd => ['$']
  | lineStart => "(?m:^)".toList
  | lineEnd => "(?m:$)".toList

/-- The notation of bounds. -/
def writtenBounds (least : Nat) (most : Option Nat) : List Char :=
  match least, most with
  | 0, some 1 => ['?']
  | 0, none => ['*']
  | 1, none => ['+']
  | least, none => '\x7b' :: natDigits least ++ [',', '\x7d']
  | least, some most =>
    if least = most then '\x7b' :: natDigits least ++ ['\x7d']
    else '\x7b' :: natDigits least ++ ',' :: natDigits most ++ ['\x7d']

namespace Pattern

/-- Where a text is to stand: on its own, as an alternative, in a sequence, or in front of a
repetition. Each place asks for more brackets than the ones before it. -/
inductive Place where
  | alone
  | option
  | part
  | repeated
deriving DecidableEq, Repr

mutual

/-- The notation of a regular pattern. -/
def written (place : Place) : Pattern → List Char
  | literal c caseless => caselessGroup caseless (quotedLiteral c)
  | set s caseless => caselessGroup caseless s
  | any newline => if newline then "(?s:.)".toList else ['.']
  | anchor (.edge e) => e.written
  | seq parts => grouped (place == .part || place == .repeated) (writtenParts parts)
  | alt options => grouped (place != .alone) (writtenOptions options)
  | group _ r => '(' :: written .alone r ++ [')']
  | «repeat» r least most greedy =>
    grouped (place == .repeated)
      (written .repeated r ++ writtenBounds least most ++ if greedy then [] else ['?'])
  | _ => []

def writtenParts : List Pattern → List Char
  | [] => []
  | r :: rest => written .part r ++ writtenParts rest

def writtenOptions : List Pattern → List Char
  | [] => []
  | [r] => written .option r
  | r :: rest => written .option r ++ '|' :: writtenOptions rest

end

end Pattern

end TreePath.Regex
