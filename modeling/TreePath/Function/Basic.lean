/-
TreePath.Function.Basic — functions and their signatures.

A function has a name, typed parameters, a result type and a handler. What a handler does is written
as a script: it either is done, with a result or a failure, or it calls another function by name and
goes on with the result. A handler sees the place it is called from, but not the functions there
are; finding the function that a script calls is left to whoever runs the script.
-/
import TreePath.Function.SequenceType
import TreePath.Name

namespace TreePath

/-! ## Where a function is called -/

/-- The context item, with its place in the sequence that is being gone through. -/
structure Focus where
  item : Item
  /-- From 1 on. -/
  position : Nat
  size : Nat

/-- A focus on one item alone. -/
def Focus.on (item : Item) : Focus := ⟨item, 1, 1⟩

/-- What every evaluation of a session can see. -/
structure Environment where
  /-- The base URI of nodes that have none. -/
  baseUri : Option String := none
  /-- The namespace of functions that are called without one. -/
  functionSpace : Option String := some functionNamespace
  globals : List (Name × Sequence) := []
  /-- The current date and time, with its zone. -/
  now : DateTime × Zone

/-- The value of a variable. -/
def Environment.valueOf? (env : Environment) (name : Name) : Option Sequence :=
  env.globals.lookup name

/-- Binds a variable; an earlier value of the same name is gone. -/
def Environment.withVariable (env : Environment) (name : Name) (s : Sequence) : Environment :=
  { env with globals := (name, s) :: env.globals }

/-- The place a function is called from. -/
structure CallSite where
  env : Environment
  focus : Option Focus

/-- There is no context item. -/
def noContextItem : Error := ⟨.noContextItem, "context item is absent", none⟩

/-- The context item. -/
def CallSite.contextItem (site : CallSite) : Except Error Item :=
  match site.focus with
  | some f => .ok f.item
  | none => .error noContextItem

/-! ## Functions -/

/-- What a handler does. -/
inductive Script where
  | done (result : Except Error Sequence)
  /-- Calls the function of this name that takes as many arguments; without one, `missing` is the
  result. -/
  | call (name : Name) (args : List Sequence) (missing : Except Error Sequence)
      (next : Sequence → Script)

abbrev Handler := CallSite → List Sequence → Script

/-- What is known about the results of a function. -/
structure FunctionProperties where
  /-- Equal arguments, and an equal context item where it counts, give equal results. -/
  deterministic : Bool := false
  contextDependent : Bool := false
  /-- The context item counts. -/
  focusDependent : Bool := false
  /-- The last parameter repeats. -/
  unbounded : Bool := false
deriving DecidableEq, Repr

/-- The identity of a function, which no two functions share. -/
abbrev FunctionId := Nat

/-- A function with its signature. -/
structure Function where
  id : FunctionId
  name : Name
  parameters : List Parameter
  result : SequenceType
  properties : FunctionProperties
  handler : Handler

namespace Function

/-- The smallest number of arguments; the largest is the same or unbounded. -/
def arity (f : Function) : Nat := f.parameters.length

def isUnbounded (f : Function) : Bool := f.properties.unbounded

def acceptsArity (f : Function) (n : Nat) : Bool :=
  if f.isUnbounded then f.arity ≤ n else n == f.arity

/-- The name, the parameters and the result type. -/
def signature (f : Function) : String :=
  let params := f.parameters.map (·.display) ++ (if f.isUnbounded then ["..."] else [])
  f.name.display ++ "(" ++ ", ".intercalate params ++ ") as " ++ f.result.display

def wrongArity (f : Function) (n : Nat) : Error :=
  ⟨.unknownFunction,
    f.name.display ++ " expects " ++ (if f.isUnbounded then "at least " else "")
      ++ toString f.arity ++ " argument(s), got " ++ toString n, none⟩

/-- The arguments in the types of their parameters; `params` are those not used yet, and `last` is
the one that arguments beyond them have. -/
def convertAll (f : Function) (last : Option Parameter) :
    (params : List Parameter) → List Sequence → Except Error (List Sequence)
  | _, [] => .ok []
  | p :: params, s :: rest => do
    let s ← p.convert s
    return s :: (← convertAll f last params rest)
  | [], s :: rest =>
    match last with
    | some p => do
      let s ← p.convert s
      return s :: (← convertAll f last [] rest)
    | none => .error ⟨.unknownFunction, f.name.display ++ " takes no arguments", none⟩

/-- Converts the arguments of a call in order. Past the declared parameters the last one counts. -/
def convertArguments (f : Function) (args : List Sequence) : Except Error (List Sequence) :=
  if f.acceptsArity args.length then f.convertAll f.parameters.getLast? f.parameters args
  else .error (f.wrongArity args.length)

end Function

/-! ## Building functions -/

/-- Why a function cannot be built. -/
inductive BuildError where
  | missingName
  | missingHandler (name : Name)
  | missingOccurrence (parameter : String)
  | unboundedWithoutParameters (name : Name)
  | missingResultType (name : Name)
deriving DecidableEq, Repr

def BuildError.message : BuildError → String
  | missingName => "missing name"
  | missingHandler name => "function '" ++ name.display ++ "' has no handler"
  | missingOccurrence parameter => "argument '" ++ parameter ++ "' has no occurrence"
  | unboundedWithoutParameters name =>
    "function '" ++ name.display ++ "' has unbounded arity but declares no arguments"
  | missingResultType name => "function '" ++ name.display ++ "' has no result type"

/-- A parameter from its parts; the name and the occurrence have to be there. -/
def Parameter.build (name : Option String) (item : Option ItemType)
    (occurrence : Option Occurrence) : Except BuildError Parameter :=
  match name, occurrence with
  | none, _ => .error .missingName
  | some name, none => .error (.missingOccurrence name)
  | some name, some o => .ok ⟨name, ⟨item.getD .anyItem, o⟩⟩

/-- A function that is being built. -/
structure FunctionDraft where
  name : Option Name := none
  parameters : List Parameter := []
  result : Option SequenceType := none
  properties : FunctionProperties := {}
  handler : Option Handler := none

/-- Builds a function, which gets the identity `id`. -/
def FunctionDraft.build (d : FunctionDraft) (id : FunctionId) : Except BuildError Function :=
  match d.name with
  | none => .error .missingName
  | some name =>
    if d.properties.unbounded && d.parameters.isEmpty then
      .error (.unboundedWithoutParameters name)
    else match d.result, d.handler with
      | none, _ => .error (.missingResultType name)
      | some _, none => .error (.missingHandler name)
      | some result, some handler =>
        .ok { id, name, parameters := d.parameters, result, properties := d.properties, handler }

end TreePath
