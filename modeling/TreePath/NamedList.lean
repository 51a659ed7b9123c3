/-
TreePath.NamedList — lists of named values in which every name stands once.

A value put under a name that is already there takes the place of the old one, so the order is that
in which the names first came.
-/

namespace TreePath.NamedList

/-- Puts a value under a name: at the end, or in the place of the value that the name has. -/
def insert {α : Type} (name : String) (a : α) : List (String × α) → List (String × α)
  | [] => [(name, a)]
  | (n, b) :: rest => if n = name then (n, a) :: rest else (n, b) :: insert name a rest

/-- One value per name, the last one, in the order in which the names first occur. -/
def ofList {α : Type} (items : List (String × α)) : List (String × α) :=
  items.foldl (fun named (name, a) => insert name a named) []

end TreePath.NamedList
