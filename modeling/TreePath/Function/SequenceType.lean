/-
TreePath.Function.SequenceType — the types of sequences, and what functions do to their arguments.

A sequence type says what every item has to be and how many items there may be. An argument is
converted to the type of its parameter: where atomic values are asked for, nodes give their values,
and where strings are asked for, URIs become strings.
-/
import TreePath.Sequence

namespace TreePath

/-- How many items a sequence may have. -/
inductive Occurrence where
  | zero
  | zeroOrOne
  | one
  | oneOrMore
  | zeroOrMore
deriving DecidableEq, Repr

namespace Occurrence

def least : Occurrence → Nat
  | one | oneOrMore => 1
  | _ => 0

/-- The largest number, if there is one. -/
def most : Occurrence → Option Nat
  | zero => some 0
  | zeroOrOne | one => some 1
  | oneOrMore | zeroOrMore => none

def accepts (o : Occurrence) (n : Nat) : Bool := o.least ≤ n && o.most.all (n ≤ ·)

/-- The mark behind an item type. -/
def indicator : Occurrence → String
  | zeroOrOne => "?"
  | oneOrMore => "+"
  | zeroOrMore => "*"
  | zero | one => ""

end Occurrence

/-- What an item has to be. -/
inductive ItemType where
  | anyItem
  | anyNode
  | node (kind : NodeKind)
  | atomic (t : Datatype)
deriving DecidableEq, Repr

namespace ItemType

def accepts : ItemType → Item → Bool
  | anyItem, _ => true
  | anyNode, .node _ => true
  | node kind, .node n => n.kind == kind
  | atomic t, .atomic v => v.isInstanceOf t
  | _, _ => false

def display : ItemType → String
  | anyItem => "item()"
  | anyNode => "node()"
  | node kind => kind.text ++ "()"
  | atomic t => t.name

end ItemType

/-- What the items of a sequence have to be, and how many there may be. -/
structure SequenceType where
  item : ItemType
  occurrence : Occurrence
deriving DecidableEq, Repr

namespace SequenceType

def display (t : SequenceType) : String :=
  if t.occurrence = .zero then "empty-sequence()" else t.item.display ++ t.occurrence.indicator

/-- The sequence is of this type as it stands. -/
def accepts (t : SequenceType) (s : Sequence) : Bool :=
  t.occurrence.accepts s.length && s.all t.item.accepts

/-- Refuses a number of items that the type does not allow. -/
def checkCount (t : SequenceType) (n : Nat) : Except Error Unit :=
  if t.occurrence.accepts n then .ok ()
  else .error ⟨.wrongType,
    "expected " ++ t.display ++ ", found a sequence of " ++ toString n ++ " item(s)", none⟩

/-- Refuses items that the type does not allow. -/
def checkItems (t : SequenceType) (s : Sequence) : Except Error Sequence :=
  match s.find? fun i => !t.item.accepts i with
  | none => .ok s
  | some i => .error ⟨.wrongType,
      "expected " ++ t.display ++ ", found item of type " ++ i.typeName, none⟩

/-- URIs are taken for strings where strings are asked for. -/
def promote (t : SequenceType) (v : AtomicValue) : AtomicValue :=
  match t.item, v with
  | .atomic .string, .uri s | .atomic .string, .uriReference s => .string s
  | _, v => v

/-- Converts a sequence to the type: its length is checked, then, for atomic types, it is turned
into values and their number is checked, and last every item is checked. -/
def convert (t : SequenceType) (s : Sequence) : Except Error Sequence := do
  t.checkCount s.length
  match t.item with
  | .atomic _ => do
    let values ← s.atomize
    t.checkCount values.length
    t.checkItems (values.map fun v => .atomic (t.promote v))
  | _ => t.checkItems s

end SequenceType

/-- A declared parameter of a function. -/
structure Parameter where
  name : String
  type : SequenceType
deriving DecidableEq, Repr

namespace Parameter

def display (p : Parameter) : String := "$" ++ p.name ++ " as " ++ p.type.display

/-- Converts an argument; a failure names the parameter. -/
def convert (p : Parameter) (s : Sequence) : Except Error Sequence :=
  match p.type.convert s with
  | .ok s => .ok s
  | .error e => .error { e with message := "argument $" ++ p.name ++ ": " ++ e.message }

end Parameter

end TreePath
