/-
TreePath.Eval — evaluating expressions.

An expression gives a sequence, or fails. What it gives depends on the context of the session, on
the range variables in scope and on the focus. Operands are evaluated from left to right, and no
more of them than the result needs.
-/
import TreePath.Expr
import TreePath.Function.Call

namespace TreePath

/-- What changes from one part of an expression to another. -/
structure Scope where
  /-- Range variables, innermost first. -/
  ranges : List (Name × Sequence) := []
  focus : Option Focus := none

namespace Scope

/-- The same variables with another focus. -/
def onItem (s : Scope) (item : Item) (position size : Nat) : Scope :=
  { s with focus := some ⟨item, position, size⟩ }

/-- Binds a range variable to one item. -/
def bind (s : Scope) (name : Name) (item : Item) : Scope :=
  { s with ranges := (name, [item]) :: s.ranges }

end Scope

namespace Eval

/-! ## The context item -/

def contextItem (s : Scope) : Except Error Item :=
  match s.focus with
  | some f => .ok f.item
  | none => .error noContextItem

/-- The context item, which has to be a node. -/
def contextNode (s : Scope) : Except Error Node := do
  match ← contextItem s with
  | .node n => return n
  | .atomic v =>
    throw ⟨.contextItemNotNode, "context item '" ++ v.text ++ "' is not a node", none⟩

/-- The document node of the context node. -/
def documentNode (s : Scope) : Except Error Node := do
  let n := (← contextNode s).top
  if n.kind = .document then return n
  else throw ⟨.rootNotDocument, "root of '" ++ n.path ++ "' is not a document node", none⟩

/-- The nodes that a step selects. -/
def selected (axis : Axis) (test : NameTest) (n : Node) : List Node :=
  match axis with
  | .model => n.childrenMatching test
  | .flag => n.flagsMatching test

/-! ## Values -/

/-- The only value of a sequence, if it has one. -/
def singleValue (s : Sequence) : Except Error (Option AtomicValue) := do
  match ← s.atomize with
  | [] => return none
  | [v] => return some v
  | values =>
    throw ⟨.wrongType, "expected a single atomic value, got " ++ toString values.length, none⟩

/-- The only value of a sequence as an integer, if it has one. -/
def singleInteger (s : Sequence) : Except Error (Option Int64) := do
  match ← singleValue s with
  | none => return none
  | some v => return some (← (← v.cast .integer).toInteger)

/-- The integers from `first` to `last`. -/
def integers (first last : Int64) : Sequence :=
  (List.range (last.toInt - first.toInt + 1).toNat).map fun (i : Nat) =>
    .atomic (.integer (Int64.ofInt (first.toInt + i)))

/-- Some value of the one list and some value of the other compare so. -/
def anyCompare (op : Comparison) (right : List AtomicValue) :
    (left : List AtomicValue) → Except Error Bool
  | [] => .ok false
  | a :: rest => do
    if ← compareOne a right then return true else anyCompare op right rest
where
  compareOne (a : AtomicValue) : List AtomicValue → Except Error Bool
    | [] => .ok false
    | b :: rest => do
      if ← a.compareWith op b then return true else compareOne a rest

/-! ## Nodes -/

/-- A set of nodes in document order. -/
def nodeSet (nodes : List Node) : Sequence := (Node.sorted nodes).map .node

/-- The operands of a union have to be nodes. -/
def unionNodes (s : Sequence) : Except Error (List Node) :=
  s.mapM fun i => match i with
    | .node n => .ok n
    | .atomic _ => .error ⟨.wrongType, "union operands must be nodes", none⟩

/-- The result of a path: a set of nodes in document order, or values as they come. -/
def pathResult (s : Sequence) : Except Error Sequence :=
  let nodes := s.filterMap Item.node?
  if nodes.length = s.length then .ok (nodeSet nodes)
  else if nodes.isEmpty then .ok s
  else .error ⟨.wrongType, "path result mixes nodes and atomic values", none⟩

def stepFromValue (i : Item) : Error :=
  ⟨.stepFromAtomicValue, "path step applied to atomic value '" ++ i.display ++ "'", none⟩

/-- The scopes in which a step is evaluated for one item of the base: the item itself, or all its
descendants too. -/
def stepScopes (s : Scope) (descendant : Bool) (i : Item) (position size : Nat) :
    Except Error (List Scope) :=
  match i with
  | .atomic _ => .error (stepFromValue i)
  | .node n =>
    if descendant then
      let nodes := n.descendantsOrSelf
      let size := nodes.length
      .ok (nodes.zipIdx.map fun (m, j) => s.onItem (.node m) (j + 1) size)
    else .ok [s.onItem i position size]

/-- What an evaluation gives for the elements of a list, one after another. -/
def collect {α β : Type} (f : α → Eval (List β)) : List α → Eval (List β)
  | [] => return []
  | a :: rest => do
    let first ← f a
    let others ← collect f rest
    return first ++ others

/-! ## Predicates -/

/-- A predicate holds at a position: a number names the position, anything else counts as true or
false. -/
def keeps (result : Sequence) (position : Nat) : Except Error Bool :=
  match result with
  | [.atomic v] =>
    match v.decimal? with
    | some d => .ok (d.toRat == position)
    | none => Sequence.truth result
  | _ => Sequence.truth result

/-! ## Names -/

/-- The value of a variable: the innermost range variable of the name, or the session's. -/
def lookupVariable (ctx : Context) (s : Scope) (name : Name) : Except Error Sequence :=
  match (s.ranges.lookup name).or (ctx.env.valueOf? name) with
  | some value => .ok value
  | none => .error ⟨.undeclaredVariable, "undeclared variable $" ++ name.display, none⟩

/-- Numbers between brackets. -/
def displayList (ns : List Nat) : String := "[" ++ ", ".intercalate (ns.map toString) ++ "]"

/-- The function of a name; a name without namespace has the default one. -/
def resolve (ctx : Context) (name : Name) (n : Nat) : Except Error Function :=
  let name := if name.space.isNone then { name with space := ctx.env.functionSpace } else name
  match ctx.registry.resolve name n with
  | .ok f => .ok f
  | .error (.unknown name) =>
    .error ⟨.unknownFunction, "unknown function " ++ name.display, none⟩
  | .error (.wrongArity name available) =>
    .error ⟨.unknownFunction, "function " ++ name.display ++ " does not take " ++ toString n
      ++ " argument(s); available: " ++ displayList available, none⟩

/-- The outcome that a quantifier stops at. -/
def decisive (q : Quantifier) : Bool := q == .some

/-- Tries the items until the quantifier is decided. -/
def search (q : Quantifier) (f : Item → Eval Bool) : Sequence → Eval Bool
  | [] => return !decisive q
  | i :: rest => do
    if (← f i) == decisive q then return decisive q else search q f rest

end Eval

/-! ## Expressions -/

open Eval

mutual

/-- Evaluates an expression. -/
def Expr.eval (ctx : Context) (s : Scope) : Expr → Eval Sequence
  | .contextItem => do return [← ofResult (Eval.contextItem s)]
  | .root => do return [.node (← ofResult (documentNode s))]
  | .parent => do return ((← ofResult (contextNode s)).parent?.map Item.node).toList
  | .step axis test => do
    return (selected axis test (← ofResult (contextNode s))).map .node
  | .path base next descendant => do
    let items ← base.eval ctx s
    let size := items.length
    let found ← collect (fun (i, n) => do
      let scopes ← ofResult (stepScopes s descendant i (n + 1) size)
      collect (fun scope => next.eval ctx scope) scopes) items.zipIdx
    ofResult (pathResult found)
  | .filter base predicates => do
    filterAll ctx s predicates (← base.eval ctx s)
  | .literal v => return [.atomic v]
  | .sequence parts => do return (← evalAll ctx s parts).flatten
  | .range first last => do
    let a ← ofResult (singleInteger (← first.eval ctx s))
    let b ← ofResult (singleInteger (← last.eval ctx s))
    match a, b with
    | some a, some b => return integers a b
    | _, _ => return []
  | .var name => ofResult (lookupVariable ctx s name)
  | .call name args => do
    let f ← ofResult (resolve ctx name args.length)
    f.call ctx (← evalAll ctx s args) s.focus
  | .and left right => do
    if ← ofResult (← left.eval ctx s).truth then
      return Sequence.ofBool (← ofResult (← right.eval ctx s).truth)
    else return Sequence.ofBool false
  | .or left right => do
    if ← ofResult (← left.eval ctx s).truth then return Sequence.ofBool true
    else return Sequence.ofBool (← ofResult (← right.eval ctx s).truth)
  | .valueComparison op left right => do
    let a ← ofResult (singleValue (← left.eval ctx s))
    let b ← ofResult (singleValue (← right.eval ctx s))
    match a, b with
    | some a, some b => return Sequence.ofBool (← ofResult (a.compareWith op b))
    | _, _ => return []
  | .generalComparison op left right => do
    let a ← ofResult (← left.eval ctx s).atomize
    let b ← ofResult (← right.eval ctx s).atomize
    return Sequence.ofBool (← ofResult (anyCompare op b a))
  | .arithmetic op left right => do
    let a ← ofResult (singleValue (← left.eval ctx s))
    let b ← ofResult (singleValue (← right.eval ctx s))
    match a, b with
    | some a, some b => return [.atomic (← ofResult (AtomicValue.arithmetic op a b))]
    | _, _ => return []
  | .negate operand => do
    match ← ofResult (singleValue (← operand.eval ctx s)) with
    | some v => return [.atomic (← ofResult v.negate)]
    | none => return []
  | .concat parts => do return Sequence.ofString (String.join (← texts ctx s parts))
  | .union left right => do
    let a ← ofResult (unionNodes (← left.eval ctx s))
    let b ← ofResult (unionNodes (← right.eval ctx s))
    return nodeSet (a ++ b)
  | .cond test yes no => do
    if ← ofResult (← test.eval ctx s).truth then yes.eval ctx s else no.eval ctx s
  | .quantified q bindings satisfies => do
    let b ← quantify ctx q (fun s => do ofResult (← satisfies.eval ctx s).truth) s bindings
    return Sequence.ofBool b

/-- Evaluates expressions in order. -/
def Expr.evalAll (ctx : Context) (s : Scope) : List Expr → Eval (List Sequence)
  | [] => return []
  | e :: rest => do
    let first ← e.eval ctx s
    let others ← evalAll ctx s rest
    return first :: others

/-- Applies predicates in order; each sees what the ones before it have kept. -/
def Expr.filterAll (ctx : Context) (s : Scope) : List Expr → Sequence → Eval Sequence
  | [], items => return items
  | p :: rest, items => do
    let size := items.length
    let kept ← collect (fun (i, n) => do
      let result ← p.eval ctx (s.onItem i (n + 1) size)
      return if ← ofResult (keeps result (n + 1)) then [i] else []) items.zipIdx
    filterAll ctx s rest kept

/-- The texts of expressions that give at most one value each. -/
def Expr.texts (ctx : Context) (s : Scope) : List Expr → Eval (List String)
  | [] => return []
  | e :: rest => do
    let first ← ofResult (singleValue (← e.eval ctx s))
    let others ← texts ctx s rest
    return (first.map (·.text)).toList ++ others

/-- Goes through the items of the first domain, and for each of them through those of the later
ones, which can refer to it. -/
def Expr.quantify (ctx : Context) (q : Quantifier) (satisfies : Scope → Eval Bool) (s : Scope) :
    List (Name × Expr) → Eval Bool
  | [] => satisfies s
  | (name, domain) :: rest => do
    let items ← domain.eval ctx s
    search q (fun i => quantify ctx q satisfies (s.bind name i) rest) items

end

namespace Expression

/-- Evaluates an expression with the given focus. -/
def evalIn (e : Expression) (ctx : Context) (focus : Option Focus) : Eval Sequence :=
  e.expr.eval ctx { focus }

/-- Evaluates an expression with an item as the context item. -/
def evalAt (e : Expression) (ctx : Context) (item : Item) : Eval Sequence :=
  e.evalIn ctx (some (Focus.on item))

/-- Whether the expression holds of an item. -/
def holdsAt (e : Expression) (ctx : Context) (item : Item) : Eval Bool := do
  ofResult (← e.evalAt ctx item).truth

end Expression

end TreePath
