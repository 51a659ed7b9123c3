/-
TreePath.Constraint.Attachment — which definitions carry which constraints.

Constraints come in groups. A group is attached to a definition as a whole or not at all: a group
may be restricted to one kind of definition, and only assemblies can carry constraints that are
meant for assemblies. Attaching a constraint a second time changes nothing.
-/
import TreePath.Constraint.Basic

namespace TreePath

/-! ## Attachments -/

/-- Definitions and the constraints that they carry, in the order in which they were attached. -/
structure Attachments where
  entries : List (DefinitionId × Constraint)

namespace Attachments

def empty : Attachments := ⟨[]⟩

/-- The definition carries the constraint. -/
def carries (a : Attachments) (d : DefinitionId) (c : Constraint) : Bool :=
  a.entries.any fun e => e.1 == d && e.2.identity == c.identity

/-- Attaches a constraint, unless the definition carries it already. -/
def add (a : Attachments) (d : DefinitionId) (c : Constraint) : Attachments :=
  if a.carries d c then a else ⟨a.entries ++ [(d, c)]⟩

/-- The constraints of a definition, in the order of their attachment. -/
def ofDefinition (a : Attachments) (d : DefinitionId) : List Constraint :=
  (a.entries.filter fun e => e.1 == d).map (·.2)

/-- The constraints of one kind that a definition carries. -/
def ofKind (a : Attachments) (d : DefinitionId) (kind : ConstraintKind) : List Constraint :=
  (a.ofDefinition d).filter fun c => c.kind == kind

/-- The constraints of a definition in the order in which they are checked: kind by kind. -/
def inOrder (a : Attachments) (d : DefinitionId) : List Constraint :=
  ConstraintKind.all.flatMap (a.ofKind d)

end Attachments

/-! ## Groups -/

/-- Constraints for all definitions that a target selects. -/
structure ConstraintGroup where
  target : Expression
  /-- The only kind of definition that the group is meant for. -/
  definitionKind : Option DefinitionKind := none
  constraints : List Constraint

namespace ConstraintGroup

/-- The kinds of the constraints, each once. -/
def kinds (g : ConstraintGroup) : List ConstraintKind :=
  ConstraintKind.all.filter fun kind => g.constraints.any fun c => c.kind == kind

/-- A definition cannot carry the constraints described by `what`. -/
def unsupported (g : ConstraintGroup) (d : Definition) (what : String) : Error :=
  ⟨.misplacedConstraint,
    what ++ " constraints targeted by '" ++ g.target.source ++ "' cannot apply to " ++ d.display
      ++ " in module '" ++ d.head.moduleInfo.display ++ "'", none⟩

/-- Why a definition cannot carry the group, if it cannot. -/
def obstacle? (g : ConstraintGroup) (d : Definition) : Option Error :=
  let assemblyOnly := g.kinds.filter (·.isAssemblyOnly)
  match g.definitionKind.filter (· != d.kind) with
  | some kind => some (g.unsupported d kind.text)
  | none =>
    if d.kind == .assembly || assemblyOnly.isEmpty then none
    else some (g.unsupported d (", ".intercalate (assemblyOnly.map (·.text))))

/-- Attaches all constraints of the group to a definition, or none. -/
def attach (g : ConstraintGroup) (d : Definition) (a : Attachments) : Except Error Attachments :=
  match g.obstacle? d with
  | some e => .error e
  | none => .ok (g.constraints.foldl (fun a c => a.add d.id c) a)

end ConstraintGroup

end TreePath
