/-
TreePath.Function.Call — calling functions, and remembering what they gave.

A call converts its arguments, runs the handler, and checks the result against the declared type.
The results of deterministic functions are kept, under the function, the converted arguments and,
where it counts, the context item; a later call with the same key gives the kept result and runs
nothing. A failed call keeps nothing. A session holds what has been kept and which handlers have
run; both outlive a failure.
-/
import TreePath.Function.Registry

namespace TreePath

/-! ## Sessions -/

/-- What distinguishes one call of a deterministic function from another. -/
structure CallKey where
  function : FunctionId
  arguments : List Sequence
  focus : Option Item

namespace CallKey

def sameArguments : List Sequence → List Sequence → Bool
  | [], [] => true
  | a :: s, b :: t => Sequence.same a b && sameArguments s t
  | _, _ => false

def sameFocus : Option Item → Option Item → Bool
  | none, none => true
  | some a, some b => a.same b
  | _, _ => false

def same (a b : CallKey) : Bool :=
  a.function == b.function && sameArguments a.arguments b.arguments && sameFocus a.focus b.focus

end CallKey

/-- What outlives a single evaluation. -/
structure Session where
  /-- The results kept, oldest first. -/
  kept : List (CallKey × Sequence) := []
  /-- The functions whose handlers have run, latest first. -/
  runs : List FunctionId := []

namespace Session

def find? (s : Session) (key : CallKey) : Option Sequence :=
  (s.kept.find? fun e => e.1.same key).map (·.2)

/-- Puts a result under a key, in place of the one that the key has. -/
def insertKept (key : CallKey) (result : Sequence) :
    List (CallKey × Sequence) → List (CallKey × Sequence)
  | [] => [(key, result)]
  | (k, r) :: rest =>
    if k.same key then (k, result) :: rest else (k, r) :: insertKept key result rest

def keep (s : Session) (key : CallKey) (result : Sequence) : Session :=
  { s with kept := insertKept key result s.kept }

/-- Forgets all results. -/
def clear (s : Session) : Session := { s with kept := [] }

/-- How often the handler of a function has run. -/
def runCount (s : Session) (f : FunctionId) : Nat := s.runs.count f

end Session

/-- What stays the same during a session. -/
structure Context where
  env : Environment
  registry : Registry
  /-- Results are kept. -/
  caching : Bool := true

/-- Evaluations change the session, and may fail. -/
abbrev Eval := ExceptT Error (StateM Session)

namespace Eval

/-- An outcome that does not involve the session. -/
def ofResult {α : Type} : Except Error α → Eval α
  | .ok a => pure a
  | .error e => throw e

/-- Changes the failure of an evaluation. -/
def mapError {α : Type} (f : Error → Error) (m : Eval α) : Eval α := ExceptT.adapt f m

end Eval

/-! ## Calls -/

namespace Function

/-- The key of a call, if its result is to be kept. -/
def callKey? (f : Function) (args : List Sequence) (focus : Option Focus) : Option CallKey :=
  if f.properties.deterministic then
    some ⟨f.id, args, if f.properties.focusDependent then focus.map (·.item) else none⟩
  else none

/-- The result that was kept for a call. -/
def kept? (ctx : Context) (key : Option CallKey) : Eval (Option Sequence) := do
  match key with
  | some key => if ctx.caching then return (← get).find? key else return none
  | none => return none

/-- Keeps the result of a call. -/
def keep (ctx : Context) (key : Option CallKey) (result : Sequence) : Eval Unit := do
  match key with
  | some key => if ctx.caching then modify (·.keep key result)
  | none => return ()

/-- The handler gave a result that is not of the declared type. -/
def wrongResult (f : Function) : Error :=
  ⟨.functionFailure, "result does not match declared type " ++ f.result.display, none⟩

end Function

/-- Runs a script; `callee` calls the functions that it asks for. -/
def Script.run (registry : Registry) (callee : Function → List Sequence → Eval Sequence) :
    Script → Eval Sequence
  | .done result => Eval.ofResult result
  | .call name args missing next =>
    match registry.resolve name args.length with
    | .ok g => do (next (← callee g args)).run registry callee
    | .error _ => Eval.ofResult missing

namespace Function

/-- Runs the handler and checks its result. -/
def invoke (ctx : Context) (callee : Function → List Sequence → Eval Sequence) (f : Function)
    (args : List Sequence) (focus : Option Focus) : Eval Sequence := do
  modify fun s => { s with runs := f.id :: s.runs }
  let result ← (f.handler ⟨ctx.env, focus⟩ args).run ctx.registry callee
  if f.result.accepts result then return result else throw f.wrongResult

/-- A failure that passes through a function records it. -/
def passing {α : Type} (f : Function) (m : Eval α) : Eval α :=
  Eval.mapError (·.inFunction f.signature) m

/-- Calls a function; `callee` makes the calls that its handler asks for. -/
def callWith (ctx : Context) (callee : Function → List Sequence → Eval Sequence) (f : Function)
    (args : List Sequence) (focus : Option Focus) : Eval Sequence := do
  let args ← f.passing (Eval.ofResult (f.convertArguments args))
  let key := f.callKey? args focus
  match ← kept? ctx key with
  | some result => return result
  | none =>
    let result ← f.passing (invoke ctx callee f args focus)
    keep ctx key result
    return result

/-- A call inside more calls than any session needs. -/
def tooDeep : Error := ⟨.functionFailure, "function calls nest too deeply", none⟩

/-- Calls a function whose handler may make calls nested at most `depth` deep. -/
def callNested (ctx : Context) : (depth : Nat) → Function → List Sequence → Option Focus →
    Eval Sequence
  | 0, f, args, focus => callWith ctx (fun _ _ => throw tooDeep) f args focus
  | depth + 1, f, args, focus =>
    callWith ctx (fun g args => callNested ctx depth g args focus) f args focus

/-- How deep calls may nest. -/
def maxDepth : Nat := 1000

/-- Calls a function. -/
def call (ctx : Context) (f : Function) (args : List Sequence) (focus : Option Focus) :
    Eval Sequence :=
  callNested ctx maxDepth f args focus

end Function

end TreePath
