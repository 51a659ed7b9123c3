/-
TreePath.Atomic.Numeric — rounding and arithmetic of numeric values.

Two integers give an integer, except under division; as soon as a decimal takes part the result is a
decimal. Results that are too large are refused, and so is division by zero.
-/
import TreePath.Atomic.Lexical
import TreePath.Atomic.Order

namespace TreePath

/-- The arithmetic operations. -/
inductive Arithmetic where
  | add
  | sub
  | mul
  | div
  | idiv
  | mod
deriving DecidableEq, Repr

namespace Arithmetic

def all : List Arithmetic := [add, sub, mul, div, idiv, mod]

end Arithmetic

namespace AtomicValue

def overflow : Error := ⟨.numericOverflow, "numeric overflow", none⟩

def divisionByZero : Error := ⟨.divisionByZero, "division by zero", none⟩

/-- A number that was found, or an overflow. -/
def orOverflow {α : Type} : Option α → Except Error α
  | some a => .ok a
  | none => .error overflow

/-- An integer result. -/
def integerResult (i : Int) : Except Error AtomicValue :=
  (orOverflow (Int64.ofInt? i)).map integer

/-! ## Views -/

/-- The value as a decimal. -/
def toDecimal (v : AtomicValue) : Except Error Decimal :=
  match v.decimal? with
  | some d => .ok d
  | none => .error v.notNumeric

/-- The value as an integer; decimals are cut off toward zero. -/
def toInteger (v : AtomicValue) : Except Error Int64 :=
  match v with
  | decimal d => orOverflow (Int64.ofInt? d.truncate)
  | v =>
    match v.integer? with
    | some i => .ok i
    | none => .error v.notNumeric

/-! ## Functions of one number -/

def abs (v : AtomicValue) : Except Error AtomicValue :=
  match v with
  | decimal d => .ok (decimal d.abs)
  | integer i => integerResult i.toInt.natAbs
  | nonNegativeInteger _ | positiveInteger _ => .ok v
  | v => .error v.notNumeric

def ceiling (v : AtomicValue) : Except Error AtomicValue :=
  match v with
  | decimal d => .ok (decimal d.ceil)
  | v => if v.isNumeric then .ok v else .error v.notNumeric

def floor (v : AtomicValue) : Except Error AtomicValue :=
  match v with
  | decimal d => .ok (decimal d.floor)
  | v => if v.isNumeric then .ok v else .error v.notNumeric

def negate (v : AtomicValue) : Except Error AtomicValue :=
  match v with
  | decimal d => .ok (decimal d.neg)
  | v =>
    match v.integer? with
    | some i => integerResult (-i.toInt)
    | none => .error v.notNumeric

/-! ## Rounding -/

/-- Rounds the magnitude to a multiple of `powerOfTen k`, a half going up, and puts the sign
back. -/
def roundMagnitude (i : Int) (k : Nat) : Int :=
  let factor := powerOfTen k
  let rounded := (i.natAbs + factor / 2) / factor * factor
  if i < 0 then -(rounded : Int) else rounded

/-- From this power of ten on, every 64-bit integer is nearer to zero. -/
def roundingLimit : Nat := 39

/-- Rounds an integer to a multiple of a power of ten. -/
def roundInteger (i : Int64) (k : Nat) : Except Error Int64 :=
  if roundingLimit ≤ k then .ok 0 else orOverflow (Int64.ofInt? (roundMagnitude i.toInt k))

/-- Rounds a decimal to a multiple of a power of ten: the magnitude is divided, rounded with a half
going up, and multiplied again. -/
def roundDecimal (d : Decimal) (k : Nat) : Except Error Decimal :=
  if 28 < k then .ok .zero
  else
    let result := do
      let factor ← Decimal.ofInt? (powerOfTen k)
      let quotient ← d.abs.div? factor
      (quotient.roundUp 0).mul? factor
    (orOverflow result).map fun m => if d.isNegative then m.neg else m

/-- Rounds to `precision` places. With places, a half goes to the larger neighbour; a negative
precision rounds the magnitude to a power of ten. Integers have no places. -/
def roundTo (v : AtomicValue) (precision : Int64) : Except Error AtomicValue :=
  let p := precision.toInt
  match v with
  | decimal d =>
    if 0 ≤ p then .ok (decimal (d.roundUp (min p.toNat 28)))
    else (roundDecimal d p.natAbs).map decimal
  | v =>
    match v.integer? with
    | none => .error v.notNumeric
    | some i =>
      if 0 ≤ p then .ok v
      else (roundInteger i p.natAbs).map fun r =>
        match v with
        | nonNegativeInteger _ => nonNegativeInteger r
        | positiveInteger _ => if 0 < r then positiveInteger r else integer r
        | _ => integer r

def round (v : AtomicValue) : Except Error AtomicValue := v.roundTo 0

/-! ## Arithmetic -/

/-- Arithmetic of two integers. -/
def integerArithmetic (op : Arithmetic) (a b : Int64) : Except Error AtomicValue :=
  match op with
  | .add => integerResult (a.toInt + b.toInt)
  | .sub => integerResult (a.toInt - b.toInt)
  | .mul => integerResult (a.toInt * b.toInt)
  | .idiv =>
    if b = 0 then .error divisionByZero else integerResult (Int.tdiv a.toInt b.toInt)
  | .mod =>
    if b = 0 then .error divisionByZero
    else if Int64.ofInt? (Int.tdiv a.toInt b.toInt) = none then .error overflow
    else integerResult (Int.tmod a.toInt b.toInt)
  | .div =>
    if b = 0 then .error divisionByZero
    else (orOverflow ((Decimal.ofInt64 a).div? (Decimal.ofInt64 b))).map decimal

/-- Arithmetic of two decimals. -/
def decimalArithmetic (op : Arithmetic) (a b : Decimal) : Except Error AtomicValue :=
  match op with
  | .add => (orOverflow (a.add? b)).map decimal
  | .sub => (orOverflow (a.sub? b)).map decimal
  | .mul => (orOverflow (a.mul? b)).map decimal
  | .div =>
    if b.isZero then .error divisionByZero else (orOverflow (a.div? b)).map decimal
  | .mod =>
    if b.isZero then .error divisionByZero else (orOverflow (a.rem? b)).map decimal
  | .idiv =>
    if b.isZero then .error divisionByZero
    else do
      let quotient ← orOverflow (a.div? b)
      integerResult quotient.truncate

/-- Arithmetic of two numeric values. -/
def arithmetic (op : Arithmetic) (a b : AtomicValue) : Except Error AtomicValue :=
  match a.decimal?, b.decimal? with
  | none, _ => .error a.notNumeric
  | _, none => .error b.notNumeric
  | some x, some y =>
    match a.integer?, b.integer? with
    | some i, some j => integerArithmetic op i j
    | _, _ => decimalArithmetic op x y

end AtomicValue

end TreePath
