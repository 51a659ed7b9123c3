/-
TreePath.Tree.Binding — the data that a document binds to its schema.

A bound object is one field or assembly of a document: an optional value, flags by name, and
children by name in document order. Nothing here knows the schema; names that the schema does not
declare are simply never asked for.
-/
import TreePath.Atomic.Value

namespace TreePath

/-- One field or assembly of a document. -/
inductive Binding where
  | mk (value : Option AtomicValue) (flags : List (String × AtomicValue))
      (children : List (String × Binding))

namespace Binding

def value? : Binding → Option AtomicValue
  | mk value _ _ => value

def flags : Binding → List (String × AtomicValue)
  | mk _ flags _ => flags

def children : Binding → List (String × Binding)
  | mk _ _ children => children

/-- The value of a flag. Of several flags of one name the last one counts. -/
def flag? (b : Binding) (name : String) : Option AtomicValue :=
  (b.flags.reverse.find? fun f => f.1 == name).map (·.2)

/-- The children of a name, in document order. -/
def childrenNamed (b : Binding) (name : String) : List Binding :=
  (b.children.filter fun c => c.1 == name).map (·.2)

end Binding

end TreePath
