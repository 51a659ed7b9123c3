/-
TreePath.Atomic.Datatype — the datatypes of atomic values and how they derive from each other.

Every datatype but the topmost has one parent, so the datatypes form a tree. The children of the
topmost type are the primitive types; only values of one primitive type can be compared.
-/

namespace TreePath

/-- The datatypes. -/
inductive Datatype where
  | anyAtomic
  | string
  | token
  | emailAddress
  | hostname
  | uuid
  | ipV4Address
  | ipV6Address
  | boolean
  | decimal
  | integer
  | nonNegativeInteger
  | positiveInteger
  | uriReference
  | uri
  | yearMonthDuration
  | dayTimeDuration
  | date
  | dateWithTimezone
  | dateTime
  | dateTimeWithTimezone
  | base64
  | markupLine
  | markupMultiline
deriving DecidableEq, Repr

namespace Datatype

/-- Every datatype, parents before children. -/
def all : List Datatype := [
  anyAtomic, string, token, emailAddress, hostname, uuid, ipV4Address, ipV6Address, boolean,
  decimal, integer, nonNegativeInteger, positiveInteger, uriReference, uri, yearMonthDuration,
  dayTimeDuration, date, dateWithTimezone, dateTime, dateTimeWithTimezone, base64, markupLine,
  markupMultiline]

/-- The name in a schema. -/
def name : Datatype → String
  | anyAtomic => "any-atomic-type"
  | string => "string"
  | token => "token"
  | emailAddress => "email-address"
  | hostname => "hostname"
  | uuid => "uuid"
  | ipV4Address => "ip-v4-address"
  | ipV6Address => "ip-v6-address"
  | boolean => "boolean"
  | decimal => "decimal"
  | integer => "integer"
  | nonNegativeInteger => "non-negative-integer"
  | positiveInteger => "positive-integer"
  | uriReference => "uri-reference"
  | uri => "uri"
  | yearMonthDuration => "year-month-duration"
  | dayTimeDuration => "day-time-duration"
  | date => "date"
  | dateWithTimezone => "date-with-timezone"
  | dateTime => "date-time"
  | dateTimeWithTimezone => "date-time-with-timezone"
  | base64 => "base64"
  | markupLine => "markup-line"
  | markupMultiline => "markup-multiline"

/-- The name in messages. -/
def qualifiedName (t : Datatype) : String := "meta:" ++ t.name

/-- The datatype with this name, qualified or not. -/
def ofName? (s : String) : Option Datatype :=
  all.find? fun t => s == t.qualifiedName || s == t.name

/-- The type a datatype derives from. -/
def parent : Datatype → Option Datatype
  | anyAtomic => none
  | token | emailAddress | hostname | uuid | ipV4Address | ipV6Address => some string
  | positiveInteger => some nonNegativeInteger
  | nonNegativeInteger => some integer
  | integer => some decimal
  | uri => some uriReference
  | dateWithTimezone => some date
  | dateTimeWithTimezone => some dateTime
  | _ => some anyAtomic

/-- The number of steps to the topmost type. -/
def depth : Datatype → Nat
  | anyAtomic => 0
  | token | emailAddress | hostname | uuid | ipV4Address | ipV6Address => 2
  | positiveInteger => 4
  | nonNegativeInteger => 3
  | integer | uri | dateWithTimezone | dateTimeWithTimezone => 2
  | _ => 1

/-- The type itself and at most `n` types above it, from the bottom up. -/
def lineageUpTo : Nat → Datatype → List Datatype
  | 0, t => [t]
  | n + 1, t =>
    match t.parent with
    | none => [t]
    | some p => t :: lineageUpTo n p

/-- The type itself and all types above it, from the bottom up. -/
def lineage (t : Datatype) : List Datatype := lineageUpTo t.depth t

/-- `t` is `other` or derives from it. -/
def isSubtypeOf (t other : Datatype) : Bool := t.lineage.contains other

/-- The ancestor directly below the topmost type; the topmost type itself. -/
def primitive (t : Datatype) : Datatype :=
  match t.lineage.reverse with
  | _ :: p :: _ => p
  | _ => t

def isNumeric (t : Datatype) : Bool := t.isSubtypeOf decimal

end Datatype

end TreePath
