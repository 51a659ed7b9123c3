/-
TreePath.Library.Argument — what built-in functions do with their arguments.

Arguments have been converted to the types of their parameters before a handler sees them, and there
are as many as the signature says. Asking for one that is not there is a fault of the handler, which
is reported as such.
-/
import TreePath.Function.Basic

namespace TreePath.Library

/-- A handler that needs no other function. -/
abbrev Plain := CallSite → List Sequence → Except Error Sequence

/-- The handler asked for an argument that the call does not have. -/
def missingArgument : Error := ⟨.functionFailure, "argument out of range", none⟩

/-- The argument at an index. -/
def argument (args : List Sequence) (i : Nat) : Except Error Sequence :=
  match args[i]? with
  | some s => .ok s
  | none => .error missingArgument

/-- The text of the argument at an index; no value reads as the empty text. -/
def textArgument (args : List Sequence) (i : Nat) : String :=
  match args[i]? with
  | some (.atomic v :: _) => v.text
  | _ => ""

/-- The first argument, or the context item where there is none. -/
def subject (site : CallSite) (args : List Sequence) : Except Error (Option Item) :=
  match args with
  | s :: _ => .ok s.head?
  | [] => site.contextItem.map some

/-- The first argument or the context item, which has to be a node. -/
def nodeSubject (site : CallSite) (args : List Sequence) : Except Error (Option Node) := do
  match ← subject site args with
  | none => return none
  | some (.node n) => return some n
  | some (.atomic v) =>
    throw ⟨.wrongType, "expected a node, found " ++ v.type.qualifiedName, none⟩

/-- A number of items as a value. -/
def countValue (n : Nat) : AtomicValue := .integer (Int64.ofNat n)

end TreePath.Library
