/-
TreePath.Library.Nodes — the built-in functions on truth, numbers, nodes and the environment.
-/
import TreePath.Library.Argument

namespace TreePath.Library

/-! ## Truth -/

/-- Answers a truth value whatever the arguments are. -/
def always (b : Bool) : Plain := fun _ _ => return Sequence.ofBool b

def negation : Plain := fun _ args => do return Sequence.ofBool !(← (← argument args 0).truth)

def boolean : Plain := fun _ args => do return Sequence.ofBool (← (← argument args 0).truth)

/-! ## Numbers -/

/-- Applies an operation to a number that may be missing. -/
def onNumber (op : AtomicValue → Except Error AtomicValue) (args : List Sequence) :
    Except Error Sequence := do
  match ← argument args 0 with
  | [] => return []
  | .atomic v :: _ => return [.atomic (← op v)]
  | .node _ :: _ => throw ⟨.wrongType, "expected a numeric value", none⟩

def abs : Plain := fun _ args => onNumber AtomicValue.abs args

def ceiling : Plain := fun _ args => onNumber AtomicValue.ceiling args

def floor : Plain := fun _ args => onNumber AtomicValue.floor args

/-- Rounds to a precision, without one to a whole number. -/
def round : Plain := fun _ args => do
  let precision ← match (args[1]? : Option Sequence) with
    | some (.atomic p :: _) => p.toInteger
    | _ => pure 0
  onNumber (·.roundTo precision) args

/-! ## Nodes -/

/-- The values of the items. -/
def data : Plain := fun site args => do
  match args with
  | s :: _ => return (← s.atomize).map .atomic
  | [] => return (← (← site.contextItem).atomize).toList.map .atomic

/-- A URI as a value, if there is one. -/
def uriResult (uri : Option String) : Except Error Sequence :=
  match uri with
  | some s => (Datatype.uriReference.read s).map fun v => [.atomic v]
  | none => .ok []

/-- The base URI of a node; nodes without one have that of the session. -/
def baseUri : Plain := fun site args => do
  match ← nodeSubject site args with
  | some n => uriResult (n.baseUri?.or site.env.baseUri)
  | none => return []

def documentUri : Plain := fun site args => do
  uriResult ((← nodeSubject site args).bind (·.documentUri?))

def path : Plain := fun site args => do
  match ← nodeSubject site args with
  | some n => return Sequence.ofString n.path
  | none => return []

def hasChildren : Plain := fun site args => do
  return Sequence.ofBool ((← nodeSubject site args).any (·.hasChildren))

def root : Plain := fun site args => do
  match ← nodeSubject site args with
  | some n => return [.node n.top]
  | none => return []

/-! ## Environment -/

def currentDateTime : Plain := fun site _ =>
  return [.atomic (.dateTimeWithTimezone site.env.now.1 site.env.now.2)]

end TreePath.Library
