/-
TreePath.Name — expanded names.

Functions and variables are named by a local name and an optional namespace. Two namespaces have
short forms in messages; any other namespace is written out in braces.
-/

namespace TreePath

/-- The namespace of the built-in functions. -/
def functionNamespace : String := "http://csrc.nist.gov/ns/metaschema/metapath-functions"

/-- The namespace of the datatypes. -/
def datatypeNamespace : String := "http://csrc.nist.gov/ns/metaschema/metapath"

/-- A local name in an optional namespace. -/
structure Name where
  space : Option String
  localName : String
deriving DecidableEq, Repr

namespace Name

/-- A name without namespace. -/
def plain (s : String) : Name := ⟨none, s⟩

/-- A name in the namespace of the built-in functions. -/
def function (s : String) : Name := ⟨some functionNamespace, s⟩

/-- The name in messages. -/
def display (n : Name) : String :=
  match n.space with
  | none => n.localName
  | some space =>
    if space = functionNamespace then "fn:" ++ n.localName
    else if space = datatypeNamespace then "mp:" ++ n.localName
    else "Q\x7b" ++ space ++ "\x7d" ++ n.localName

end Name

end TreePath
