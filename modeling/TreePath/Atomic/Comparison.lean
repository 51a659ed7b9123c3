/-
TreePath.Atomic.Comparison — comparing values of different types.

Two values of one primitive type are compared as they are. A text beside a value of another kind is
cast to the primitive type of that value; a text beside a URI is compared as text. Any other pair
has to share a primitive type.
-/
import TreePath.Atomic.Cast

namespace TreePath.AtomicValue

/-- The primitive types whose values are texts to be cast. -/
def isTextual (t : Datatype) : Bool := t == .string || t == .uriReference

/-- Brings two values to one primitive type, as far as texts allow it. -/
def promote (a b : AtomicValue) : Except Error (AtomicValue × AtomicValue) :=
  let s := a.type.primitive
  let t := b.type.primitive
  if s = t then .ok (a, b)
  else
    match isTextual s, isTextual t with
    | true, true => .ok (string a.text, string b.text)
    | true, false => (a.cast t).map fun a => (a, b)
    | false, true => (b.cast s).map fun b => (a, b)
    | false, false => .ok (a, b)

/-- Compares two values. -/
def compareWith (op : Comparison) (a b : AtomicValue) : Except Error Bool := do
  let (a, b) ← promote a b
  let order ← a.compare b
  return op.holds order

end TreePath.AtomicValue
