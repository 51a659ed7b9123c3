/-
TreePath.Tree.Basic — the tree of a document.

A tree node carries its definition, its name, its value and its place among its siblings; below it
are its flags and its children, in the order of the schema. The tree of a document has one node for
every bound object and flag that the schema declares; the tree of a schema has one node for every
declared instance and no values.

A child stands behind a step: the place of its name among the names that occur, and its number among
the siblings of that name. Of two instances of one effective name the later one decides the
definition and the earlier one the place.
-/
import TreePath.NamedList
import TreePath.Schema.Definition
import TreePath.Tree.Binding

namespace TreePath

/-- The kinds of nodes. -/
inductive NodeKind where
  | document
  | assembly
  | field
  | flag
deriving DecidableEq, Repr

def NodeKind.text : NodeKind → String
  | document => "document-node"
  | assembly => "assembly"
  | field => "field"
  | flag => "flag"

/-- The place of a node below its parent. Flags have 0 and their index; children have the index of
their name, counted from 1, and their number among the siblings of that name. -/
abbrev Step := Nat × Nat

/-- Steps are ordered by their components, flags first. -/
def Step.compare (a b : Step) : Ordering := (Ord.compare a.1 b.1).then (Ord.compare a.2 b.2)

/-- What a tree node says about itself. -/
structure Label where
  kind : NodeKind
  /-- The effective name; empty for documents. -/
  name : String
  definition : Definition
  /-- The value of a flag or field, as it was bound. -/
  value : Option AtomicValue := none
  /-- The number among the siblings of the same name, from 1 on. -/
  position : Nat := 1
  /-- The URI that the root of a tree was given. -/
  baseUri : Option String := none
  /-- The node belongs to the tree of a schema. -/
  ofSchema : Bool := false

/-- A node with its flags and children, and the step that leads to it. -/
inductive Tree where
  | mk (label : Label) (step : Step) (flags children : List Tree)

namespace Tree

def label : Tree → Label
  | mk label _ _ _ => label

def step : Tree → Step
  | mk _ step _ _ => step

def flags : Tree → List Tree
  | mk _ _ flags _ => flags

def children : Tree → List Tree
  | mk _ _ _ children => children

def kind (t : Tree) : NodeKind := t.label.kind

def name (t : Tree) : String := t.label.name

def position (t : Tree) : Nat := t.label.position

/-- The names of the children, each once and in the order in which they first occur. -/
def childNames (t : Tree) : List String := (t.children.map name).eraseDups

/-- The same node behind another step. -/
def withStep (t : Tree) (step : Step) : Tree :=
  match t with
  | mk label _ flags children => mk label step flags children

/-! ## Size -/

mutual

/-- The number of nodes from here down. Flags are not counted. -/
def size : Tree → Nat
  | mk _ _ _ children => sizes children + 1

def sizes : List Tree → Nat
  | [] => 0
  | t :: rest => t.size + sizes rest

end

theorem size_eq (t : Tree) : t.size = sizes t.children + 1 := by
  cases t with
  | mk label step flags children => rw [size, Tree.children]

theorem sizes_append (ts us : List Tree) : sizes (ts ++ us) = sizes ts + sizes us := by
  induction ts with
  | nil => rw [List.nil_append, sizes, Nat.zero_add]
  | cons t rest ih => rw [List.cons_append, sizes, ih, sizes, Nat.add_assoc]

/-! ## Flags and children in their places -/

/-- The flags of a node: one per name, each with its index as its step. -/
def arrangeFlags (items : List (String × Tree)) : List Tree :=
  (NamedList.ofList items).zipIdx.map fun ((_, t), i) => t.withStep (0, i)

/-- The children of a node: one group per name, each child with its step. -/
def arrangeChildren (items : List (String × List Tree)) : List Tree :=
  (NamedList.ofList items).zipIdx.flatMap fun ((_, group), i) =>
    group.map fun t => t.withStep (i + 1, t.position)

/-- The step below `parent` that the name and the position of a flag or child stand for. -/
def stepTo (parent t : Tree) : Step :=
  match t.kind with
  | .flag => (0, (parent.flags.findIdx? fun f => f.name == t.name).getD 0)
  | _ => ((parent.childNames.findIdx? fun s => s == t.name).getD 0 + 1, t.position)

/-! ## Building -/

/-- The flags that a node bound to `b` has; in the tree of a schema, all that are declared. -/
def ofFlags (ofSchema : Bool) (b : Option Binding) (declared : List FlagInstance) : List Tree :=
  arrangeFlags <| declared.filterMap fun i =>
    let name := i.effectiveName
    let value := b.bind (·.flag? name)
    if value.isNone && !ofSchema then none
    else
      let label : Label :=
        { kind := .flag, name, definition := .flag i.definition, value, ofSchema }
      some (name, mk label (0, 0) [] [])

/-- The objects that are bound under a name, each perhaps missing: in the tree of a schema there is
one, which is. -/
def boundTo (ofSchema : Bool) (b : Option Binding) (name : String) : List (Option Binding) :=
  if ofSchema then [none]
  else match b with
    | some b => (b.childrenNamed name).map some
    | none => []

/-- The tree of a field. -/
def ofField (ofSchema : Bool) (name : String) (d : FieldDefinition) (b : Option Binding)
    (position : Nat) : Tree :=
  let label : Label :=
    { kind := .field, name, definition := .field d, value := b.bind (·.value?), position, ofSchema }
  mk label (0, 0) (ofFlags ofSchema b d.flags) []

/-- The label of an assembly. -/
def assemblyLabel (ofSchema : Bool) (name : String) (d : AssemblyDefinition) (position : Nat) :
    Label :=
  { kind := .assembly, name, definition := .assembly d, position, ofSchema }

mutual

/-- The trees of one instance below a node bound to `b`. -/
def ofInstance (ofSchema : Bool) (b : Option Binding) : ModelInstance → List Tree
  | .field useName d =>
    let name := useName.getD d.head.name
    (boundTo ofSchema b name).mapIdx fun i b => ofField ofSchema name d b (i + 1)
  | .assembly useName d model =>
    let name := useName.getD d.head.name
    (boundTo ofSchema b name).mapIdx fun i b =>
      mk (assemblyLabel ofSchema name ⟨d, model⟩ (i + 1)) (0, 0) (ofFlags ofSchema b d.flags)
        (arrangeChildren (ofModel ofSchema b model))

/-- The trees of the instances of a model that occur, by name. -/
def ofModel (ofSchema : Bool) (b : Option Binding) : List ModelInstance → List (String × List Tree)
  | [] => []
  | i :: rest =>
    let trees := ofInstance ofSchema b i
    if trees.isEmpty then ofModel ofSchema b rest
    else (i.effectiveName, trees) :: ofModel ofSchema b rest

end

/-- The tree of an assembly. -/
def ofAssembly (ofSchema : Bool) (name : String) (d : AssemblyDefinition) (b : Option Binding) :
    Tree :=
  mk (assemblyLabel ofSchema name d 1) (0, 0) (ofFlags ofSchema b d.head.flags)
    (arrangeChildren (ofModel ofSchema b d.model))

/-- The same tree with a base URI at its root. -/
def withBaseUri (t : Tree) (uri : Option String) : Tree :=
  match t with
  | mk label step flags children => mk { label with baseUri := uri } step flags children

/-- A document over a root assembly. -/
def ofRoot (ofSchema : Bool) (root : AssemblyDefinition) (b : Option Binding)
    (uri : Option String) : Tree :=
  let label : Label :=
    { kind := .document, name := "", definition := .assembly root, baseUri := uri, ofSchema }
  mk label (0, 0) []
    (arrangeChildren [(root.rootName, [ofAssembly ofSchema root.rootName root b])])

/-- The document whose root assembly is bound to `b`. -/
def document (root : AssemblyDefinition) (b : Binding) (uri : Option String) : Tree :=
  ofRoot false root (some b) uri

/-- The document over the definitions alone. -/
def schemaDocument (root : AssemblyDefinition) : Tree := ofRoot true root none none

/-- An assembly that is not part of a document. -/
def detachedAssembly (d : AssemblyDefinition) (b : Binding) (uri : Option String) : Tree :=
  (ofAssembly false d.name d (some b)).withBaseUri uri

/-- A field that is not part of a document. -/
def detachedField (d : FieldDefinition) (b : Binding) (uri : Option String) : Tree :=
  (ofField false d.head.name d (some b) 1).withBaseUri uri

/-! ## String values -/

mutual

/-- The value of a flag or field; the values of all fields below an assembly or document. -/
def stringValue : Tree → String
  | mk label _ _ children =>
    match label.kind with
    | .flag | .field => (label.value.map (·.text)).getD ""
    | .assembly | .document => stringValues children

/-- The string values one after another. -/
def stringValues : List Tree → String
  | [] => ""
  | t :: rest => t.stringValue ++ stringValues rest

end

end Tree

end TreePath
