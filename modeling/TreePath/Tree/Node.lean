/-
TreePath.Tree.Node — nodes as places in a tree.

A node is a place: the tree it belongs to, the steps that lead from the root to it, the subtree that
stands there, and the subtrees above, nearest first. Two nodes are the same if they are one place of
one tree. Document order is that of sort keys, which are worked out from the names and positions of
the node and of the nodes above.
-/
import TreePath.Atomic.Cast
import TreePath.Tree.Basic

namespace TreePath

/-- Which tree a node belongs to: a document, or the schema tree of a root assembly. -/
inductive TreeId where
  | document (index : Nat)
  | schema (root : Nat)
deriving DecidableEq, Repr

/-- A place in a tree. -/
structure Node where
  tree : TreeId
  /-- The steps from the root. -/
  address : List Step
  here : Tree
  /-- The subtrees above, nearest first. -/
  above : List Tree

/-- A test on names. -/
inductive NameTest where
  | name (s : String)
  | wildcard
deriving DecidableEq, Repr

def NameTest.holds : NameTest → String → Bool
  | name s, t => s == t
  | wildcard, _ => true

namespace Node

/-- The root of a tree. -/
def root (id : TreeId) (t : Tree) : Node := ⟨id, [], t, []⟩

/-- One place of one tree. -/
def same (a b : Node) : Bool := a.tree == b.tree && a.address == b.address

def label (n : Node) : Label := n.here.label

def kind (n : Node) : NodeKind := n.here.kind

def name (n : Node) : String := n.here.name

def position (n : Node) : Nat := n.here.position

def definition (n : Node) : Definition := n.label.definition

/-! ## Moving -/

def parent? (n : Node) : Option Node :=
  match n.above with
  | [] => none
  | t :: rest => some ⟨n.tree, n.address.dropLast, t, rest⟩

/-- The nodes above, nearest first, when the subtrees above are `above`. -/
def ancestorsIn (tree : TreeId) (address : List Step) : (above : List Tree) → List Node
  | [] => []
  | t :: rest => ⟨tree, address.dropLast, t, rest⟩ :: ancestorsIn tree address.dropLast rest

/-- Parent, grandparent and so on up to the root. -/
def ancestors (n : Node) : List Node := ancestorsIn n.tree n.address n.above

/-- The topmost node of the tree. -/
def top (n : Node) : Node := n.ancestors.getLast?.getD n

/-- A subtree of this node as a node. -/
def below (n : Node) (t : Tree) : Node := ⟨n.tree, n.address ++ [t.step], t, n.here :: n.above⟩

def flags (n : Node) : List Node := n.here.flags.map n.below

def children (n : Node) : List Node := n.here.children.map n.below

def hasChildren (n : Node) : Bool := !n.here.children.isEmpty

/-- The flags whose names pass the test. -/
def flagsMatching (n : Node) (test : NameTest) : List Node :=
  n.flags.filter fun m => test.holds m.name

/-- The children whose names pass the test. -/
def childrenMatching (n : Node) (test : NameTest) : List Node :=
  n.children.filter fun m => test.holds m.name

/-- The names of the children, each once and in order, with how many children have it. -/
def childNames (n : Node) : List (String × Nat) :=
  n.here.childNames.map fun s => (s, (n.children.map (·.name)).count s)

/-- Puts nodes on a stack one after another. The top of a stack is its head. -/
def pushAll (nodes stack : List Node) : List Node :=
  nodes.foldl (fun stack n => n :: stack) stack

/-- Turns around what is on a stack above its lowest `mark` nodes. -/
def turnAbove (mark : Nat) (stack : List Node) : List Node :=
  (stack.take (stack.length - mark)).reverse ++ stack.drop (stack.length - mark)

theorem pushAll_eq (nodes stack : List Node) : pushAll nodes stack = nodes.reverse ++ stack := by
  induction nodes generalizing stack with
  | nil => rfl
  | cons n rest ih =>
    rw [pushAll, List.foldl_cons, ← pushAll, ih, List.reverse_cons, List.append_assoc]
    rfl

/-- In the end the first of the nodes pushed is on top. -/
theorem turnAbove_pushAll (nodes stack : List Node) :
    turnAbove stack.length (pushAll nodes stack) = nodes ++ stack := by
  simp [turnAbove, pushAll_eq]

/-- How many nodes are left to visit when these are on the stack. -/
def pending (stack : List Node) : Nat := Tree.sizes (stack.map here)

theorem pending_cons (n : Node) (stack : List Node) :
    pending (n :: stack) = pending (n.children ++ stack) + 1 := by
  have hbelow : n.children.map here = n.here.children := by
    simp [children, below, Function.comp_def]
  rw [pending, pending, List.map_cons, Tree.sizes, Tree.size_eq, List.map_append,
    Tree.sizes_append, hbelow]
  omega

/-- Takes nodes off a stack until it is empty. The children of a node go on the stack when it comes
off, turned around so that the first of them comes next. -/
def walk : (stack : List Node) → List Node
  | [] => []
  | n :: stack => n :: walk (turnAbove stack.length (pushAll n.children stack))
termination_by stack => pending stack
decreasing_by
  rw [turnAbove_pushAll, pending_cons]
  exact Nat.lt_succ_self _

/-- The node and all its model descendants in document order. Flags are not included. -/
def descendantsOrSelf (n : Node) : List Node := walk [n]

/-- The node and its descendants, each followed by its flags. -/
def withFlags (n : Node) : List Node := n.descendantsOrSelf.flatMap fun m => m :: m.flags

/-! ## Document order -/

/-- The steps that lead to a subtree, the last one first, as names and positions tell them. -/
def stepsUp (t : Tree) : (above : List Tree) → List Step
  | [] => []
  | parent :: rest => parent.stepTo t :: stepsUp parent rest

/-- What nodes are sorted by: the steps from the root, found by walking up to it. -/
def orderKey (n : Node) : List Step := (stepsUp n.here n.above).reverse

/-- The order of keys: step by step, a node in front of what is below it. -/
def compareKeys (a b : List Step) : Ordering := List.compareLex Step.compare a b

/-- Document order within one tree. -/
def precedesOrSame (a b : Node) : Bool := compareKeys a.orderKey b.orderKey != .gt

/-- The first of each group of nodes that are the same. -/
def distinct (nodes : List Node) : List Node :=
  (nodes.foldl (fun kept n => if kept.any n.same then kept else n :: kept) []).reverse

/-- A set of nodes in document order. Nodes of different trees are ordered by their keys alone, and
equal keys stay as they come. -/
def sorted (nodes : List Node) : List Node := (distinct nodes).mergeSort precedesOrSame

/-! ## Values and locations -/

/-- The base URI: the one of the node itself or of the nearest node above that has one. -/
def baseUri? (n : Node) : Option String := (n.here :: n.above).findSome? (·.label.baseUri)

/-- The URI of a document; only document nodes have one. -/
def documentUri? (n : Node) : Option String :=
  if n.kind = .document then n.label.baseUri else none

def isOfSchema (n : Node) : Bool := n.label.ofSchema

/-- The part of a location that stands for one node. -/
def segment (t : Tree) : String :=
  match t.kind with
  | .document => ""
  | .flag => "@" ++ t.name
  | .assembly | .field => t.name ++ "[" ++ toString t.position ++ "]"

/-- The location of a subtree below others. -/
def pathIn (t : Tree) : (above : List Tree) → String
  | [] => if t.kind = .document then "/" else segment t
  | p :: rest =>
    if t.kind = .document then "/"
    else if p.kind = .document then "/" ++ segment t
    else pathIn p rest ++ "/" ++ segment t

/-- The location of the node, such as `/package[1]/item[2]/@id`. -/
def path (n : Node) : String := pathIn n.here n.above

/-- The value of a flag or field before it is cast. -/
def rawValue? (n : Node) : Option AtomicValue := n.label.value

def stringValue (n : Node) : String := n.here.stringValue

/-- The datatype that the definition of a flag or field declares. -/
def datatype? (n : Node) : Option Datatype :=
  match n.kind, n.definition with
  | .flag, .flag d => some d.datatype
  | .field, .field d => some d.datatype
  | _, _ => none

/-- The value of a flag or field in its declared type, if it has one. -/
def typedValue (n : Node) : Except Error (Option AtomicValue) :=
  match n.datatype? with
  | none => .error ⟨.noTypedValue, n.kind.text ++ " " ++ n.path ++ " has no typed value", none⟩
  | some t =>
    match n.rawValue? with
    | none => .ok none
    | some v => (v.cast t).map some

end Node

end TreePath
