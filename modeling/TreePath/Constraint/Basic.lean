/-
TreePath.Constraint.Basic — constraints and the rules they carry.

A constraint selects items by its target, evaluated at a node, and demands something of them: that
values are listed, have a form, pass a test, refer to an index, or have keys of their own; or that
there is a certain number of items. Every constraint has an identity of its own, so that one and the
same constraint is told from another one that says the same.
-/
import TreePath.Constraint.KeyField
import TreePath.Constraint.Template

namespace TreePath

/-! ## Levels -/

/-- How grave a violation is, in ascending order. -/
inductive Level where
  | debug
  | informational
  | warning
  | error
  | critical
deriving DecidableEq, Repr

namespace Level

def text : Level → String
  | debug => "DEBUG"
  | informational => "INFORMATIONAL"
  | warning => "WARNING"
  | error => "ERROR"
  | critical => "CRITICAL"

def rank : Level → Nat
  | debug => 0
  | informational => 1
  | warning => 2
  | error => 3
  | critical => 4

instance : LE Level := ⟨fun a b => a.rank ≤ b.rank⟩

instance (a b : Level) : Decidable (a ≤ b) := inferInstanceAs (Decidable (a.rank ≤ b.rank))

instance : Max Level := ⟨fun a b => if a ≤ b then b else a⟩

end Level

/-! ## Kinds -/

inductive ConstraintKind where
  | allowedValues
  | pattern
  | expect
  | indexHasKey
  | index
  | unique
  | cardinality
deriving DecidableEq, Repr

namespace ConstraintKind

/-- All kinds, in the order in which the constraints of a node are checked. -/
def all : List ConstraintKind :=
  [allowedValues, pattern, expect, indexHasKey, index, unique, cardinality]

def text : ConstraintKind → String
  | allowedValues => "allowed-values"
  | pattern => "matches"
  | expect => "expect"
  | indexHasKey => "index-has-key"
  | index => "index"
  | unique => "unique"
  | cardinality => "has-cardinality"

/-- Only assemblies can carry the kind. -/
def isAssemblyOnly : ConstraintKind → Bool
  | index | unique | cardinality => true
  | _ => false

end ConstraintKind

/-! ## Rules -/

/-- A pattern for whole values. -/
structure ValuePattern where
  source : String
  regex : Regex

namespace ValuePattern

/-- The pattern is anchored at both ends, and a failure shows it so. -/
def compile (source : String) : Except Error ValuePattern := do
  return ⟨source, ← Regex.compile ("^(?:" ++ source ++ ")$") ""⟩

def accepts (p : ValuePattern) (value : String) : Bool := p.regex.isMatch value.toList

end ValuePattern

/-- What a constraint demands of the items that it selects. -/
inductive Rule where
  /-- The value is listed; each listed value has a description. -/
  | allowedValues (values : List (String × String)) (allowOthers : Bool)
  /-- The text of the value has the form of a pattern and of a datatype. -/
  | pattern (pattern : Option ValuePattern) (datatype : Option Datatype)
  /-- The test holds at the item. -/
  | expect (test : Expression) (message : Option Template)
  /-- The key of the item is in an index. -/
  | indexHasKey (index : String) (keys : List KeyField) (message : Option Template)
  /-- The items make up an index, in which no two have one key. -/
  | index (name : String) (keys : List KeyField)
  /-- No two of the items that one node selects have one key. -/
  | unique (keys : List KeyField)
  /-- There are so many items. -/
  | cardinality (least most : Option Nat)

namespace Rule

def kind : Rule → ConstraintKind
  | allowedValues _ _ => .allowedValues
  | pattern _ _ => .pattern
  | expect _ _ => .expect
  | indexHasKey _ _ _ => .indexHasKey
  | index _ _ => .index
  | unique _ => .unique
  | cardinality _ _ => .cardinality

/-- The message that the rule brings along. -/
def message? : Rule → Option Template
  | expect _ message | indexHasKey _ _ message => message
  | _ => none

end Rule

/-! ## Single checks -/

/-- The value is one of those listed, or any value is allowed. -/
def permitsValue (values : List (String × String)) (allowOthers : Bool) (value : String) : Bool :=
  allowOthers || values.any fun v => v.1 == value

/-- The listed values in order, each once. -/
def listedValues (values : List (String × String)) : List String :=
  (NamedList.ofList values).map (·.1)

/-- Why a value does not have the form, if it does not. The pattern is looked at first. -/
def formViolation? (pattern : Option ValuePattern) (datatype : Option Datatype) (value : String) :
    Option String :=
  let byPattern := pattern.bind fun p =>
    if p.accepts value then none
    else some ("value '" ++ value ++ "' does not match the pattern '" ++ p.source ++ "'")
  let byDatatype := datatype.bind fun t =>
    match t.read value with
    | .ok _ => none
    | .error _ => some ("value '" ++ value ++ "' is not a valid " ++ t.qualifiedName)
  byPattern.or byDatatype

/-- The number is within the bounds. -/
def permitsCount (least most : Option Nat) (n : Nat) : Bool :=
  least.all (· ≤ n) && most.all (n ≤ ·)

/-! ## Constraints -/

/-- The identity of a constraint. -/
abbrev ConstraintId := Nat

/-- A rule with its target and what is said about it. -/
structure Constraint where
  identity : ConstraintId
  id : Option String := none
  level : Level := .error
  target : Expression := .contextItem
  formalName : Option String := none
  description : Option String := none
  remarks : Option String := none
  properties : List (String × String) := []
  rule : Rule

namespace Constraint

def kind (c : Constraint) : ConstraintKind := c.rule.kind

/-- Sets a property; one of the same name keeps its place. -/
def withProperty (c : Constraint) (name value : String) : Constraint :=
  { c with properties := NamedList.insert name value c.properties }

end Constraint

end TreePath
