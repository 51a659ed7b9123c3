/-
TreePath.Expr — expressions.

An expression is a tree; there is no reader for the written form, which is kept beside the tree only
to name the expression.
-/
import TreePath.Function.Basic

namespace TreePath

/-- Which nodes a step looks at. -/
inductive Axis where
  | model
  | flag
deriving DecidableEq, Repr

inductive Quantifier where
  | some
  | every
deriving DecidableEq, Repr

inductive Expr where
  /-- `.` -/
  | contextItem
  /-- `/` -/
  | root
  /-- `..` -/
  | parent
  | step (axis : Axis) (test : NameTest)
  /-- `base/step`, or `base//step` if `descendant`. -/
  | path (base step : Expr) (descendant : Bool)
  | filter (base : Expr) (predicates : List Expr)
  | literal (v : AtomicValue)
  | sequence (parts : List Expr)
  | range (first last : Expr)
  | var (name : Name)
  | call (name : Name) (args : List Expr)
  | and (left right : Expr)
  | or (left right : Expr)
  /-- Compares single values. -/
  | valueComparison (op : Comparison) (left right : Expr)
  /-- Some value on the left and some value on the right compare so. -/
  | generalComparison (op : Comparison) (left right : Expr)
  | arithmetic (op : Arithmetic) (left right : Expr)
  | negate (operand : Expr)
  | concat (parts : List Expr)
  | union (left right : Expr)
  | cond (test yes no : Expr)
  | quantified (q : Quantifier) (bindings : List (Name × Expr)) (satisfies : Expr)

namespace Expr

/-- `a/b/c`; without steps the context item. -/
def ofSteps : List Expr → Expr
  | [] => contextItem
  | first :: rest => rest.foldl (fun base step => path base step false) first

end Expr

/-- An expression with its written form. -/
structure Expression where
  source : String
  expr : Expr

/-- `.` -/
def Expression.contextItem : Expression := ⟨".", .contextItem⟩

end TreePath
