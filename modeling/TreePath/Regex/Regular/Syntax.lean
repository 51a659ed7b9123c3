/-
TreePath.Regex.Regular.Syntax — regular patterns as trees.

A regular pattern is made of sets of characters, ends of texts and lines, sequences, alternatives,
groups and repetitions. Whether it matches can be decided without going back and forth.
-/
import TreePath.Regex.Edge
import TreePath.Text.CharSet

namespace TreePath.Regex

open TreePath.Text (CharSet)

/-- A regular pattern. -/
inductive Regular where
  | empty
  /-- One character. -/
  | set (s : CharSet)
  | edge (e : Edge)
  | seq (a b : Regular)
  | alt (a b : Regular)
  /-- A group, with its number if what it matches is kept. -/
  | group (number : Option Nat) (r : Regular)
  | repeat (r : Regular) (least : Nat) (most : Option Nat) (greedy : Bool)

namespace Regular

/-- The patterns one after another. -/
def sequence : List Regular → Regular
  | [] => empty
  | [r] => r
  | r :: rest => seq r (sequence rest)

/-- The patterns as alternatives. -/
def alternatives : List Regular → Regular
  | [] => empty
  | [r] => r
  | r :: rest => alt r (alternatives rest)

/-! ## Measures -/

/-- How deep the pattern nests; a sequence is one level, and so are alternatives. -/
def depth : Regular → Nat
  | empty | set _ | edge _ => 0
  | seq a b =>
    max (depth a + 1) (match b with
      | seq .. => depth b
      | _ => depth b + 1)
  | alt a b =>
    max (depth a + 1) (match b with
      | alt .. => depth b
      | _ => depth b + 1)
  | group _ r => depth r + 1
  | «repeat» r _ _ _ => depth r + 1

/-- The pattern matches without consuming anything, at some position. -/
def mayBeEmpty : Regular → Bool
  | empty | edge _ => true
  | set _ => false
  | seq a b => mayBeEmpty a && mayBeEmpty b
  | alt a b => mayBeEmpty a || mayBeEmpty b
  | group _ r => mayBeEmpty r
  | «repeat» r least _ _ => least == 0 || mayBeEmpty r

/-- The pattern never consumes anything. -/
def consumesNothing : Regular → Bool
  | empty | edge _ => true
  | set _ => false
  | seq a b | alt a b => consumesNothing a && consumesNothing b
  | group _ r => consumesNothing r
  | «repeat» r _ most _ => most == some 0 || consumesNothing r

/-! ## Simplification -/

/-- Alternatives of single characters are one set. -/
def simpleAlt (a b : Regular) : Regular :=
  match a, b with
  | set s, set t => set (s.union t)
  | a, b => alt a b

/-- Repetitions of nothing end after the first time; none is nothing, and one is the pattern. -/
def simpleRepeat (r : Regular) (least : Nat) (most : Option Nat) (greedy : Bool) : Regular :=
  let (least, most) :=
    if consumesNothing r then (min least 1, some (min (most.getD 1) 1)) else (least, most)
  if most = some 0 then empty
  else if least = 1 && most = some 1 then r
  else «repeat» r least most greedy

/-- The pattern without groups that keep nothing, and with simple parts made simpler. -/
def simplify : Regular → Regular
  | empty => empty
  | set s => set s
  | edge e => edge e
  | seq a b => seq (simplify a) (simplify b)
  | alt a b => simpleAlt (simplify a) (simplify b)
  | group none r => simplify r
  | group (some n) r => group (some n) (simplify r)
  | «repeat» r least most greedy => simpleRepeat (simplify r) least most greedy

end Regular

end TreePath.Regex
