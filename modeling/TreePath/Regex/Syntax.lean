/-
TreePath.Regex.Syntax — patterns as trees.

Beyond what regular patterns say, a pattern can look around, refer back to what a group has matched,
ask whether a group has matched, forbid going back into a part once it has matched, and move the
beginning of the match. Sets of characters stay in the notation of regular patterns.
-/
import TreePath.Regex.Edge

namespace TreePath

namespace Regex

/-! ## Positions -/

/-- What a pattern can say about a position without moving. -/
inductive Anchor where
  | edge (e : Edge)
  | wordBoundary
  | notWordBoundary
  | wordStart
  | wordEnd
  /-- Where the search began. -/
  | searchStart
deriving DecidableEq, Repr

/-- How many characters a pattern consumes: at least so many, or exactly so many. -/
structure Extent where
  least : Nat
  fixed : Bool
deriving DecidableEq, Repr

namespace Extent

/-- Nothing is consumed. -/
def none : Extent := ⟨0, true⟩

/-- One after the other. -/
def append (a b : Extent) : Extent := ⟨a.least + b.least, a.fixed && b.fixed⟩

/-- One or the other. -/
def choice (a b : Extent) : Extent :=
  ⟨min a.least b.least, a.fixed && b.fixed && a.least == b.least⟩

/-- Repetition. -/
def times (a : Extent) (least : Nat) (most : Option Nat) : Extent :=
  ⟨a.least * least, a.fixed && most == some least⟩

end Extent

/-! ## Patterns -/

/-- A pattern. -/
inductive Pattern where
  | empty
  | literal (c : Char) (caseless : Bool)
  /-- A set of characters, as regular patterns write it. -/
  | set (written : List Char) (caseless : Bool)
  /-- Any character; a line end only if `newline`. -/
  | any (newline : Bool)
  | anchor (a : Anchor)
  | seq (parts : List Pattern)
  | alt (options : List Pattern)
  | group (index : Nat) (r : Pattern)
  | repeat (r : Pattern) (least : Nat) (most : Option Nat) (greedy : Bool)
  /-- Once it has matched, it is not tried again in another way. -/
  | atomic (r : Pattern)
  | look (ahead negated : Bool) (r : Pattern)
  /-- What a group has matched, and how much the group consumes as far as that is known. -/
  | backreference (index : Nat) (caseless : Bool) (extent : Extent)
  /-- The group has matched. -/
  | groupMatched (index : Nat)
  | conditional (condition yes no : Pattern)
  /-- The match begins here. -/
  | keepOut

namespace Pattern

/-- Patterns that stand for a position or for nothing cannot be repeated. -/
def isRepeatable : Pattern → Bool
  | empty | anchor _ | look .. | keepOut | groupMatched _ => false
  | _ => true

def isEmpty : Pattern → Bool
  | empty => true
  | _ => false

/-- The patterns one after another. -/
def sequence : List Pattern → Pattern
  | [] => empty
  | [r] => r
  | rs => seq rs

/-! ## Extents -/

mutual

/-- How much the pattern consumes. -/
def extent : Pattern → Extent
  | empty | anchor _ | look .. | groupMatched _ | keepOut => .none
  | literal .. | set .. | any _ => ⟨1, true⟩
  | seq parts => extentOfParts parts
  | alt options => extentOfOptions options
  | group _ r => extent r
  | «repeat» r least most _ => (extent r).times least most
  | atomic r => extent r
  | backreference _ _ e => e
  | conditional condition yes no =>
    let c := extent condition
    let y := extent yes
    let n := extent no
    ⟨c.least + min y.least n.least,
      c.fixed && y.fixed && n.fixed && c.least + y.least == n.least⟩

/-- How much the patterns consume one after another. -/
def extentOfParts : List Pattern → Extent
  | [] => .none
  | r :: rest => (extent r).append (extentOfParts rest)

/-- How much one of the patterns consumes. -/
def extentOfOptions : List Pattern → Extent
  | [] => .none
  | [r] => extent r
  | r :: rest => (extent r).choice (extentOfOptions rest)

end

/-! ## Regular parts -/

/-- The anchor cannot be said by a regular pattern. -/
def Anchor.isIrregular : Anchor → Bool
  | .edge _ => false
  | _ => true

mutual

/-- The pattern cannot be written as a regular pattern, or holds a group that is referred to, so
that all ways of matching it may be needed. -/
def isIrregular (references : List Nat) : Pattern → Bool
  | empty | literal .. | set .. | any _ => false
  | anchor a => Anchor.isIrregular a
  | seq parts => anyIrregular references parts
  | alt options => anyIrregular references options
  | group index r => references.contains index || isIrregular references r
  | «repeat» r _ _ _ => isIrregular references r
  | atomic _ | look .. | backreference .. | groupMatched _ | conditional .. | keepOut => true

/-- One of the patterns is irregular. -/
def anyIrregular (references : List Nat) : List Pattern → Bool
  | [] => false
  | r :: rest => isIrregular references r || anyIrregular references rest

end

mutual

/-- The groups of a pattern, from left to right. -/
def groups : Pattern → List Nat
  | seq parts => groupsOfAll parts
  | alt options => groupsOfAll options
  | group index r => index :: groups r
  | «repeat» r _ _ _ | atomic r | look _ _ r => groups r
  | conditional condition yes no => groups condition ++ groups yes ++ groups no
  | _ => []

def groupsOfAll : List Pattern → List Nat
  | [] => []
  | r :: rest => groups r ++ groupsOfAll rest

end

end Pattern

end Regex

end TreePath
