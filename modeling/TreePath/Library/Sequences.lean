/-
TreePath.Library.Sequences — the built-in functions on sequences.
-/
import TreePath.Library.Argument

namespace TreePath.Library

/-! ## Sums and extremes -/

/-- The sum of numbers, from left to right; nothing if there are none. -/
def total : List AtomicValue → Except Error (Option AtomicValue)
  | [] => .ok none
  | v :: rest => do
    if v.isNumeric then
      return some (← rest.foldlM (fun sum w => AtomicValue.arithmetic .add sum w) v)
    else throw ⟨.wrongType, "cannot sum a value of type " ++ v.type.qualifiedName, none⟩

/-- The first value that no later one beats; a value beats another if it compares as `wanted`. -/
def extremeFrom (wanted : Ordering) (best : AtomicValue) :
    List AtomicValue → Except Error AtomicValue
  | [] => .ok best
  | v :: rest => do
    let order ← v.compare best
    extremeFrom wanted (if order == wanted then v else best) rest

def extreme (wanted : Ordering) : List AtomicValue → Except Error Sequence
  | [] => .ok []
  | v :: rest => do return [.atomic (← extremeFrom wanted v rest)]

/-! ## Distinct values -/

/-- The two values compare as equal; values that cannot be compared do not. -/
def equalValues (a b : AtomicValue) : Bool :=
  match a.compare b with
  | .ok o => o == .eq
  | .error _ => false

/-- The values that are equal to none kept before them; `kept` holds those, latest first. -/
def distinctFrom (kept : List AtomicValue) : List AtomicValue → List AtomicValue
  | [] => []
  | v :: rest =>
    if kept.any (equalValues v) then distinctFrom kept rest
    else v :: distinctFrom (v :: kept) rest

/-- The first of each group of equal values. -/
def distinct (values : List AtomicValue) : List AtomicValue := distinctFrom [] values

/-! ## Functions -/

def count : Plain := fun _ args => return [.atomic (countValue (← argument args 0).length)]

def empty : Plain := fun _ args => return Sequence.ofBool (← argument args 0).isEmpty

def «exists» : Plain := fun _ args => return Sequence.ofBool !(← argument args 0).isEmpty

/-- The sum; of nothing, the second argument, or zero without one. -/
def sum : Plain := fun _ args => do
  match ← total (← argument args 0).atomics with
  | some v => return [.atomic v]
  | none => return (args[1]?).getD [.atomic (.integer 0)]

def average : Plain := fun _ args => do
  let items ← argument args 0
  match ← total items.atomics with
  | none => return []
  | some v => return [.atomic (← AtomicValue.arithmetic .div v (countValue items.length))]

def minimum : Plain := fun _ args => do extreme .lt (← argument args 0).atomics

def maximum : Plain := fun _ args => do extreme .gt (← argument args 0).atomics

def distinctValues : Plain := fun _ args => do
  return (distinct (← argument args 0).atomics).map .atomic

def exactlyOne : Plain := fun _ args => do
  let s ← argument args 0
  if s.length = 1 then return s
  else throw ⟨.notExactlyOneItem,
    "exactly-one requires a sequence of length 1, got " ++ toString s.length, none⟩

def zeroOrOne : Plain := fun _ args => do
  let s ← argument args 0
  if s.length ≤ 1 then return s
  else throw ⟨.moreThanOneItem,
    "zero-or-one requires at most one item, got " ++ toString s.length, none⟩

def oneOrMore : Plain := fun _ args => do
  let s ← argument args 0
  if s.isEmpty then throw ⟨.noItem, "one-or-more requires at least one item", none⟩
  else return s

def reverse : Plain := fun _ args => return (← argument args 0).reverse

def head : Plain := fun _ args => return (← argument args 0).take 1

def tail : Plain := fun _ args => return (← argument args 0).drop 1

end TreePath.Library
