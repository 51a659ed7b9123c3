/-
TreePath.Function.Registry — finding functions by name and number of arguments.

A name may stand for several functions as long as no two of them accept the same number of
arguments; a function that would break this is refused.
-/
import TreePath.Function.Basic

namespace TreePath

/-- The functions of each name, by rising arity and an unbounded one last. -/
structure Registry where
  entries : List (Name × List Function)

/-- Why no function was found. -/
inductive ResolveError where
  | unknown (name : Name)
  /-- There are functions of this name, with these arities. -/
  | wrongArity (name : Name) (available : List Nat)
deriving DecidableEq, Repr

/-- Why a function was refused: an arity that another one of the same name accepts as well. -/
structure Ambiguity where
  name : Name
  arity : Nat
deriving DecidableEq, Repr

def Ambiguity.message (a : Ambiguity) : String :=
  "function " ++ a.name.display ++ " is already registered for an overlapping arity ("
    ++ toString a.arity ++ ")"

namespace Registry

def empty : Registry := ⟨[]⟩

/-- The functions of a name. -/
def overloads (r : Registry) (name : Name) : List Function := (r.entries.lookup name).getD []

def contains (r : Registry) (name : Name) : Bool := (r.entries.lookup name).isSome

/-- All functions. -/
def functions (r : Registry) : List Function := r.entries.flatMap (·.2)

def size (r : Registry) : Nat := r.functions.length

def isEmpty (r : Registry) : Bool := r.entries.isEmpty

/-- The function of a name that accepts a number of arguments. -/
def resolve (r : Registry) (name : Name) (n : Nat) : Except ResolveError Function :=
  match r.entries.lookup name with
  | none => .error (.unknown name)
  | some fs =>
    match fs.find? (·.acceptsArity n) with
    | some f => .ok f
    | none => .error (.wrongArity name (fs.map (·.arity)))

/-! ## Adding functions -/

/-- Some number of arguments is accepted by both. -/
def overlap (f g : Function) : Bool :=
  match f.isUnbounded, g.isUnbounded with
  | false, false => f.arity == g.arity
  | true, true => true
  | true, false => f.arity ≤ g.arity
  | false, true => g.arity ≤ f.arity

/-- Bounded functions come first, then smaller arities. -/
def comesBefore (f g : Function) : Bool :=
  if f.isUnbounded == g.isUnbounded then f.arity < g.arity else g.isUnbounded

/-- Puts a function in its place. -/
def insertOverload (f : Function) : List Function → List Function
  | [] => [f]
  | g :: rest => if comesBefore f g then f :: g :: rest else g :: insertOverload f rest

/-- Changes the functions of a name; a new name comes last. -/
def update (name : Name) (change : List Function → List Function) :
    List (Name × List Function) → List (Name × List Function)
  | [] => [(name, change [])]
  | (n, fs) :: rest =>
    if n = name then (n, change fs) :: rest else (n, fs) :: update name change rest

/-- Adds a function, unless one of its name accepts a number of arguments that it accepts. -/
def register (r : Registry) (f : Function) : Except Ambiguity Registry :=
  match (r.overloads f.name).find? fun g => overlap g f with
  | some g => .error ⟨f.name, max g.arity f.arity⟩
  | none => .ok ⟨update f.name (insertOverload f) r.entries⟩

/-- Adds functions in order, leaving out those that are refused. -/
def registerAll (r : Registry) (fs : List Function) : Registry :=
  fs.foldl (fun r f => match r.register f with
    | .ok r => r
    | .error _ => r) r

end Registry

end TreePath
