/-
TreePath.Constraint.KeyField — the parts of keys.

A key is made of fields. A field takes the first value that an expression gives at an item and, if
it has a pattern, the part of its text that the pattern picks out. A field may have nothing to take.
-/
import TreePath.Eval
import TreePath.Regex.Compile

namespace TreePath

/-- One part of a key. -/
structure KeyField where
  target : Expression
  pattern : Option Regex := none
  remarks : Option String := none

/-- The parts of a key; a part without a value is missing. -/
abbrev Key := List (Option String)

namespace KeyField

/-- A field that takes what the pattern picks out: its first group, or what it matches. -/
def withPattern (f : KeyField) (pattern : String) : Except Error KeyField := do
  return { f with pattern := some (← Regex.compile pattern "") }

/-- The part of a text that counts. A text in which the pattern does not occur counts whole. -/
def extract (f : KeyField) (text : String) : String :=
  match f.pattern.bind (·.firstText? text.toList) with
  | some s => String.ofList s
  | none => text

/-- The value of the field at an item. -/
def value (f : KeyField) (ctx : Context) (item : Item) : Eval (Option String) := do
  let values ← Eval.ofResult (← f.target.evalAt ctx item).atomize
  return values.head?.map fun v => f.extract v.text

end KeyField

namespace Key

/-- The key of an item. -/
def ofFields (fields : List KeyField) (ctx : Context) (item : Item) : Eval Key :=
  fields.mapM fun f => f.value ctx item

/-- The key in messages. -/
def display (k : Key) : String :=
  "(" ++ ", ".intercalate (k.map fun part => part.getD "()") ++ ")"

end Key

end TreePath
