/-
TreePath.Sequence — items and sequences.

An item is a node or an atomic value; a sequence is a list of items. An expression gives a sequence,
and a sequence of one item is the same as that item.
-/
import TreePath.Atomic.Comparison
import TreePath.Atomic.Numeric
import TreePath.Tree.Node

namespace TreePath

/-- A node or an atomic value. -/
inductive Item where
  | node (n : Node)
  | atomic (v : AtomicValue)

abbrev Sequence := List Item

namespace Item

/-- Equality of items as keys: one place of one tree, or the same value. -/
def same : Item → Item → Bool
  | node a, node b => a.same b
  | atomic a, atomic b => a.same b
  | _, _ => false

def node? : Item → Option Node
  | node n => some n
  | atomic _ => none

def atomic? : Item → Option AtomicValue
  | atomic v => some v
  | node _ => none

/-- The value of an item: an atomic value itself, or the typed value of a node, which may have
none. -/
def atomize : Item → Except Error (Option AtomicValue)
  | atomic v => .ok (some v)
  | node n => n.typedValue

/-- The type of an item in messages. -/
def typeName : Item → String
  | atomic v => v.type.qualifiedName
  | node n => n.kind.text

/-- The item in messages. -/
def display : Item → String
  | node n => n.path
  | atomic v => v.text

/-- The string value of a node, or the text of a value. -/
def stringValue : Item → String
  | node n => n.stringValue
  | atomic v => v.text

end Item

namespace Sequence

def ofBool (b : Bool) : Sequence := [.atomic (.boolean b)]

def ofString (s : String) : Sequence := [.atomic (.string s)]

/-- Equality of sequences as keys. -/
def same : Sequence → Sequence → Bool
  | [], [] => true
  | a :: s, b :: t => a.same b && same s t
  | _, _ => false

/-- The values of the items; nodes without a value are dropped. -/
def atomize (s : Sequence) : Except Error (List AtomicValue) := do
  return (← s.mapM Item.atomize).filterMap id

/-- The only item, if there is one; more than one is an error. -/
def zeroOrOne (s : Sequence) : Except Error (Option Item) :=
  match s with
  | [] => .ok none
  | [i] => .ok (some i)
  | s => .error
      ⟨.wrongType, "expected at most one item, got " ++ toString s.length, none⟩

/-- The atomic items. -/
def atomics (s : Sequence) : List AtomicValue := s.filterMap Item.atomic?

/-- Whether a sequence counts as true: a sequence that starts with a node does, the empty one does
not, and a single value counts as itself. -/
def truth (s : Sequence) : Except Error Bool :=
  match s with
  | [] => .ok false
  | .node _ :: _ => .ok true
  | [.atomic v] => v.truth
  | _ => .error ⟨.invalidArgument,
      "effective boolean value of a sequence of more than one atomic item", none⟩

end Sequence

end TreePath
