/-
TreePath.Constraint.Composition — attaching groups to the definitions of a module.

For every root of the module and every group, the target is evaluated at the schema tree of the
root, and the group is attached to the definitions of the nodes that it selects, to each of them
once. The first failure ends the composition; what was attached before it stays.
-/
import TreePath.Constraint.Attachment

namespace TreePath

/-- A composition attaches constraints and evaluates expressions, and may fail. -/
abbrev Composing := ExceptT Error (StateT Attachments (StateM Session))

namespace Composing

/-- An evaluation as a step of a composition. -/
def ofEval {α : Type} (m : Eval α) : Composing α :=
  ExceptT.mk (StateT.lift m.run)

/-- The first of the definitions of each identity. -/
def distinctDefinitions (nodes : List Node) : List Definition :=
  (nodes.foldl (fun kept n =>
    if kept.any fun d => d.id == n.definition.id then kept else kept ++ [n.definition])
    ([] : List Definition))

/-- Attaches a group to a definition. -/
def attach (g : ConstraintGroup) (d : Definition) : Composing Unit := do
  match g.attach d (← get) with
  | .ok a => set a
  | .error e => throw e

/-- Attaches a group to definitions in order. -/
def attachAll (g : ConstraintGroup) : List Definition → Composing Unit
  | [] => return ()
  | d :: rest => do
    attach g d
    attachAll g rest

/-- Attaches a group to what its target selects in a schema tree, and counts the definitions. -/
def group (ctx : Context) (tree : Node) (g : ConstraintGroup) : Composing Nat := do
  let selected ← ofEval (g.target.evalAt ctx (.node tree))
  let definitions := distinctDefinitions (selected.filterMap Item.node?)
  attachAll g definitions
  return definitions.length

/-- Attaches groups in order, and counts the definitions. -/
def groups (ctx : Context) (tree : Node) : List ConstraintGroup → Composing Nat
  | [] => return 0
  | g :: rest => do
    let n ← group ctx tree g
    return n + (← groups ctx tree rest)

/-- Goes through the roots in order; `index` is the number of the first of them. -/
def roots (ctx : Context) (gs : List ConstraintGroup) : (index : Nat) →
    List AssemblyDefinition → Composing Nat
  | _, [] => return 0
  | index, d :: rest => do
    let n ← groups ctx (Node.root (.schema index) (Tree.schemaDocument d)) gs
    return n + (← roots ctx gs (index + 1) rest)

end Composing

/-- Attaches groups to the definitions of a module. The result is how often a group was attached to
a definition. -/
def Module.compose (m : Module) (ctx : Context) (gs : List ConstraintGroup) : Composing Nat :=
  Composing.roots ctx gs 0 m.roots

end TreePath
