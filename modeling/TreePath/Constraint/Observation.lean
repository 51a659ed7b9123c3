/-
TreePath.Constraint.Observation — what a constraint finds at one node.

Checking a constraint at a node evaluates its target there and looks at the selected items one by
one. What it sees are observations: a rule is broken outright, an item has a key in some table, or
an item refers to a table. Whether a key is a duplicate, or a reference leads nowhere, depends on
all observations of a document and is not decided here. A failure ends the check; what was observed
before it counts.
-/
import TreePath.Constraint.Basic

namespace TreePath

/-- The tables in which keys are to be unique: one per index name, and one for every node at which
a uniqueness constraint is checked. -/
inductive KeyTable where
  | index (name : String)
  | unique (constraint : ConstraintId) (tree : TreeId) (address : List Step)
deriving DecidableEq, Repr

/-- What is seen at an item. -/
inductive Sight where
  | violation (message : String)
  | entry (table : KeyTable) (key : Key)
  | reference (index : String) (key : Key)

/-- A sight with the constraint that led to it and the item it is about. -/
structure Observation where
  constraint : Constraint
  item : Item
  sight : Sight

/-- The observations of a check, and the failure that ended it, if any. -/
structure Outcome where
  observations : List Observation := []
  failure : Option Error := none

namespace Constraint

/-! ## One item -/

/-- What a test on the text of the value says; an item without a value passes. -/
def seeText (violation? : String → Option String) (item : Item) : Eval (Option Sight) := do
  match ← Eval.ofResult item.atomize with
  | none => return none
  | some v => return (violation? v.text).map .violation

/-- What is seen at an item that the target selects from a node. -/
def see (c : Constraint) (ctx : Context) (node : Node) (item : Item) : Eval (Option Sight) := do
  match c.rule with
  | .allowedValues values allowOthers =>
    seeText (fun s =>
      if permitsValue values allowOthers s then none
      else some ("value '" ++ s ++ "' is not one of: " ++ ", ".intercalate (listedValues values)))
      item
  | .pattern pattern datatype => seeText (formViolation? pattern datatype) item
  | .expect test message =>
    if ← test.holdsAt ctx item then return none
    else match message with
      | some template => return some (.violation (← template.render ctx item))
      | none => return some (.violation ("expect test '" ++ test.source ++ "' is false"))
  | .indexHasKey index keys _ => return some (.reference index (← Key.ofFields keys ctx item))
  | .index name keys => return some (.entry (.index name) (← Key.ofFields keys ctx item))
  | .unique keys =>
    return some (.entry (.unique c.identity node.tree node.address) (← Key.ofFields keys ctx item))
  | .cardinality _ _ => return none

/-- The check of the items, up to the first failure. -/
def observeItems (c : Constraint) (ctx : Context) (node : Node) :
    List Item → StateM Session Outcome
  | [] => return {}
  | item :: rest => do
    match ← (c.see ctx node item).run with
    | .error e => return { failure := some e }
    | .ok sight => do
      let outcome ← observeItems c ctx node rest
      return { outcome with
        observations := (sight.map fun s => ⟨c, item, s⟩).toList ++ outcome.observations }

/-! ## All items -/

/-- What the number of items says. -/
def countViolation? (c : Constraint) (n : Nat) : Option String :=
  match c.rule with
  | .cardinality least most =>
    if permitsCount least most n then none
    else some (toString n ++ " occurrence(s) of '" ++ c.target.source ++ "', expected "
      ++ toString (least.getD 0) ++ ".." ++ (most.map toString).getD "*")
  | _ => none

/-- The check of a constraint at a node. -/
def observe (c : Constraint) (ctx : Context) (node : Node) : StateM Session Outcome := do
  match ← (c.target.evalAt ctx (.node node)).run with
  | .error e => return { failure := some e }
  | .ok items =>
    match c.countViolation? items.length with
    | some message => return { observations := [⟨c, .node node, .violation message⟩] }
    | none => c.observeItems ctx node items

end Constraint

end TreePath
