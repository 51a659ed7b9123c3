/-
TreePath.Atomic.Order — comparing values.

Values of one primitive type are ordered: numbers by size, durations by length, booleans false
before true, bytes and addresses of one kind element by element, dates and date-times by their
instants with UTC for a missing zone, and everything else as text.
-/
import TreePath.Atomic.Value

namespace TreePath

/-- The six comparisons. -/
inductive Comparison where
  | eq
  | ne
  | lt
  | le
  | gt
  | ge
deriving DecidableEq, Repr

namespace Comparison

def all : List Comparison := [eq, ne, lt, le, gt, ge]

/-- The comparison holds of two values in this order. -/
def holds : Comparison → Ordering → Bool
  | eq, o => o == .eq
  | ne, o => o != .eq
  | lt, o => o == .lt
  | le, o => o != .gt
  | gt, o => o == .gt
  | ge, o => o != .lt

end Comparison

namespace AtomicValue

def notNumeric (v : AtomicValue) : Error :=
  ⟨.wrongType, v.type.qualifiedName ++ " is not numeric", none⟩

/-- The integer of a value of an integer type. -/
def integer? : AtomicValue → Option Int64
  | integer i | nonNegativeInteger i | positiveInteger i => some i
  | _ => none

/-- The number of a numeric value. -/
def decimal? : AtomicValue → Option Decimal
  | decimal d => some d
  | v => v.integer?.map Decimal.ofInt64

/-- The instant of a date or date-time. -/
def instant? : AtomicValue → Option Instant
  | date d zone => some ((DateTime.atMidnight d).instant zone)
  | dateWithTimezone d zone => some ((DateTime.atMidnight d).instant (some zone))
  | dateTime t zone => some (t.instant zone)
  | dateTimeWithTimezone t zone => some (t.instant (some zone))
  | _ => none

/-- The order of two values whose types share a primitive type. -/
def order (a b : AtomicValue) : Ordering :=
  match a, b with
  | ipV4Address x, ipV4Address y => x.compare y
  | ipV6Address x, ipV6Address y => x.compare y
  | boolean x, boolean y => compareOn Bool.toNat x y
  | yearMonthDuration x, yearMonthDuration y => compareOn Int32.toInt x y
  | dayTimeDuration x, dayTimeDuration y => compareOn DayTimeDuration.nanoseconds x y
  | base64 x, base64 y => List.compareLex (fun a b => Ord.compare a b) x y
  | a, b =>
    match a.decimal?, b.decimal? with
    | some x, some y => x.compare y
    | _, _ =>
      match a.instant?, b.instant? with
      | some x, some y => x.compare y
      | _, _ => Text.compare a.chars b.chars

/-- Orders two values of one primitive type. -/
def compare (a b : AtomicValue) : Except Error Ordering :=
  if a.type.primitive = b.type.primitive then .ok (order a b)
  else .error ⟨.wrongType,
    "cannot compare " ++ a.type.qualifiedName ++ " with " ++ b.type.qualifiedName, none⟩

end AtomicValue

end TreePath
