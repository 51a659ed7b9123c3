/-
TreePath.Schema.Definition — the definitions of a schema.

A flag definition names a datatype; a field definition adds flags; an assembly definition has flags
and a model, a list of fields and assemblies. A definition is used through instances, which may give
it another name. Definitions refer to earlier ones only, so a model is a finite tree. Every
definition has an identity of its own, which its uses share.
-/
import TreePath.Atomic.Datatype

namespace TreePath

/-- The schema module that declares a definition. -/
structure ModuleInfo where
  shortName : String
  space : String
  version : String
  location : Option String
deriving DecidableEq, Repr

/-- The short name, the version and, if known, the location. -/
def ModuleInfo.display (m : ModuleInfo) : String :=
  match m.location with
  | some location => m.shortName ++ " " ++ m.version ++ " (" ++ location ++ ")"
  | none => m.shortName ++ " " ++ m.version

/-- The kinds of definitions. -/
inductive DefinitionKind where
  | flag
  | field
  | assembly
deriving DecidableEq, Repr

def DefinitionKind.text : DefinitionKind → String
  | flag => "flag"
  | field => "field"
  | assembly => "assembly"

/-- The identity of a definition. -/
abbrev DefinitionId := Nat

/-- What all kinds of definitions have. -/
structure DefinitionHead where
  id : DefinitionId
  name : String
  formalName : Option String
  moduleInfo : ModuleInfo
deriving DecidableEq, Repr

/-! ## Flags and fields -/

structure FlagDefinition where
  head : DefinitionHead
  datatype : Datatype
deriving DecidableEq, Repr

/-- A flag as a field or assembly uses it. -/
structure FlagInstance where
  definition : FlagDefinition
  useName : Option String
  required : Bool
deriving DecidableEq, Repr

/-- The name that the flag has here. -/
def FlagInstance.effectiveName (i : FlagInstance) : String :=
  i.useName.getD i.definition.head.name

structure FieldDefinition where
  head : DefinitionHead
  datatype : Datatype
  flags : List FlagInstance
deriving DecidableEq, Repr

/-! ## Assemblies -/

/-- An assembly definition without its model. -/
structure AssemblyHead where
  head : DefinitionHead
  /-- The name as the root of a document, if it differs. -/
  rootName : Option String
  flags : List FlagInstance
deriving DecidableEq, Repr

/-- A field or assembly as a model uses it; an assembly comes with its own model. -/
inductive ModelInstance where
  | field (useName : Option String) (definition : FieldDefinition)
  | assembly (useName : Option String) (head : AssemblyHead) (model : List ModelInstance)

structure AssemblyDefinition where
  head : AssemblyHead
  model : List ModelInstance

namespace ModelInstance

def useName : ModelInstance → Option String
  | field useName _ => useName
  | assembly useName _ _ => useName

def definitionName : ModelInstance → String
  | field _ d => d.head.name
  | assembly _ d _ => d.head.name

/-- The name that the field or assembly has here. -/
def effectiveName (i : ModelInstance) : String := i.useName.getD i.definitionName

end ModelInstance

namespace AssemblyDefinition

def name (d : AssemblyDefinition) : String := d.head.head.name

/-- The name as the root of a document. -/
def rootName (d : AssemblyDefinition) : String := d.head.rootName.getD d.name

end AssemblyDefinition

/-! ## Any definition -/

/-- A definition of any kind. -/
inductive Definition where
  | flag (d : FlagDefinition)
  | field (d : FieldDefinition)
  | assembly (d : AssemblyDefinition)

namespace Definition

def head : Definition → DefinitionHead
  | flag d => d.head
  | field d => d.head
  | assembly d => d.head.head

def id (d : Definition) : DefinitionId := d.head.id

def name (d : Definition) : String := d.head.name

def kind : Definition → DefinitionKind
  | flag _ => .flag
  | field _ => .field
  | assembly _ => .assembly

/-- The kind and the name. -/
def display (d : Definition) : String := d.kind.text ++ " '" ++ d.name ++ "'"

end Definition

/-! ## Modules -/

/-- A schema module with the assemblies that documents can start with. -/
structure Module where
  info : ModuleInfo
  roots : List AssemblyDefinition

end TreePath
