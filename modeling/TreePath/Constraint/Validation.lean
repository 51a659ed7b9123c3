/-
TreePath.Constraint.Validation — checking a document against the constraints of its definitions.

Every node of a document but the document node itself is checked, in document order and each node
in front of its flags. The observations are then gone through in the same order: violations are
findings, and a key is a finding where its table has it already. References are looked up last, so
that it does not matter where in the document an index is filled.
-/
import TreePath.Constraint.Attachment
import TreePath.Constraint.Observation

namespace TreePath

/-! ## Reports -/

/-- How a document is validated. -/
structure ValidationOptions where
  /-- The first failure of an evaluation ends the validation. -/
  abortOnError : Bool := true
  /-- Constraints below this level are not checked. -/
  leastLevel : Level := .debug

/-- A violation of a constraint. -/
structure Finding where
  id : Option String
  kind : ConstraintKind
  level : Level
  /-- Where the item is. -/
  path : String
  message : String
deriving DecidableEq, Repr

/-- What came of a validation. -/
structure Report where
  findings : List Finding := []
  /-- The failures of evaluations. -/
  errors : List Error := []

namespace Report

/-- Nothing failed, and nothing was found that is an error or worse. -/
def isValid (r : Report) : Bool :=
  r.errors.isEmpty && r.findings.all fun f => !decide (Level.error ≤ f.level)

/-- The gravest level among the findings. -/
def highestLevel? (r : Report) : Option Level :=
  match r.findings.map (·.level) with
  | [] => none
  | level :: rest => some (rest.foldl max level)

def findingsOf (r : Report) (kind : ConstraintKind) : List Finding :=
  r.findings.filter fun f => f.kind == kind

end Report

/-- A violation that was observed, as a finding. -/
def Observation.finding (o : Observation) (message : String) : Finding :=
  ⟨o.constraint.id, o.constraint.kind, o.constraint.level, o.item.display, message⟩

/-! ## Checking -/

namespace Validation

/-- The nodes that are checked. -/
def nodes (document : Node) : List Node := document.withFlags.filter fun n => n.kind != .document

/-- The checks of a document in order: nodes with constraints of their definitions. -/
def checks (a : Attachments) (options : ValidationOptions) (document : Node) :
    List (Node × Constraint) :=
  (nodes document).flatMap fun n =>
    ((a.inOrder n.definition.id).filter fun c => options.leastLevel ≤ c.level).map fun c => (n, c)

/-- All observations and failures of a document. -/
structure Trace where
  observations : List Observation := []
  errors : List Error := []

/-- Makes the checks in order; if asked to, only up to the first failure. -/
def observeAll (ctx : Context) (abortOnError : Bool) :
    List (Node × Constraint) → StateM Session Trace
  | [] => return {}
  | (n, c) :: rest => do
    let outcome ← c.observe ctx n
    if outcome.failure.isSome && abortOnError then
      return ⟨outcome.observations, outcome.failure.toList⟩
    else
      let trace ← observeAll ctx abortOnError rest
      return ⟨outcome.observations ++ trace.observations, outcome.failure.toList ++ trace.errors⟩

/-! ## Keys -/

/-- The keys seen so far, each with its table and the location of its first item. -/
abbrev SeenKeys := List ((KeyTable × Key) × String)

def duplicateMessage (table : KeyTable) (key : Key) (first : String) : String :=
  match table with
  | .index name =>
    "index '" ++ name ++ "' has duplicate key " ++ key.display ++ " (first at " ++ first ++ ")"
  | .unique _ _ _ => "duplicate key " ++ key.display ++ " (first at " ++ first ++ ")"

/-- The findings among observations, and all keys, when `seen` are the keys in front of them. -/
def account (seen : SeenKeys) : List Observation → List Finding × SeenKeys
  | [] => ([], seen)
  | o :: rest =>
    match o.sight with
    | .violation message =>
      let (findings, keys) := account seen rest
      (o.finding message :: findings, keys)
    | .reference _ _ => account seen rest
    | .entry table key =>
      match seen.lookup (table, key) with
      | some first =>
        let (findings, keys) := account seen rest
        (o.finding (duplicateMessage table key first) :: findings, keys)
      | none => account (((table, key), o.item.display) :: seen) rest

/-! ## References -/

/-- The message of a reference that leads nowhere. -/
def missingMessage (ctx : Context) (o : Observation) (index : String) (key : Key) :
    Eval String :=
  match o.constraint.rule.message? with
  | some template => template.render ctx o.item
  | none => return "key " ++ key.display ++ " not found in index '" ++ index ++ "'"

/-- Looks up the references among observations. -/
def resolve (ctx : Context) (abortOnError : Bool) (keys : SeenKeys) :
    List Observation → StateM Session Report
  | [] => return {}
  | o :: rest =>
    match o.sight with
    | .reference index key =>
      if (keys.lookup (.index index, key)).isSome then resolve ctx abortOnError keys rest
      else do
        match ← (missingMessage ctx o index key).run with
        | .ok message => do
          let report ← resolve ctx abortOnError keys rest
          return { report with findings := o.finding message :: report.findings }
        | .error e =>
          if abortOnError then return { errors := [e] }
          else do
            let report ← resolve ctx abortOnError keys rest
            return { report with errors := e :: report.errors }
    | _ => resolve ctx abortOnError keys rest

end Validation

/-! ## Validation -/

open Validation in
/-- Validates a document. -/
def Attachments.validate (a : Attachments) (options : ValidationOptions) (ctx : Context)
    (document : Node) : Eval Report := do
  let trace ← ExceptT.lift (observeAll ctx options.abortOnError (checks a options document))
  match options.abortOnError, trace.errors with
  | true, e :: _ => throw e
  | _, _ =>
    let (findings, keys) := account [] trace.observations
    let resolved ← ExceptT.lift (resolve ctx options.abortOnError keys trace.observations)
    match options.abortOnError, resolved.errors with
    | true, e :: _ => throw e
    | _, _ => return ⟨findings ++ resolved.findings, trace.errors ++ resolved.errors⟩

end TreePath
