/-
TreePath.Atomic.Value — atomic values.

A value carries its datatype and what it stands for: text, an address, a number, a duration, a date
or bytes. Text is kept as it was given; everything else has one written form, the canonical one.
-/
import TreePath.Atomic.Datatype
import TreePath.Binary.Base64
import TreePath.Calendar.Duration
import TreePath.Net.Address
import TreePath.Number.DecimalText

namespace TreePath

open TreePath.Text

/-- A typed scalar. -/
inductive AtomicValue where
  | string (s : String)
  | token (s : String)
  | emailAddress (s : String)
  | hostname (s : String)
  | uuid (s : String)
  | ipV4Address (a : IPv4)
  | ipV6Address (a : IPv6)
  | boolean (b : Bool)
  | decimal (d : Decimal)
  | integer (i : Int64)
  | nonNegativeInteger (i : Int64)
  | positiveInteger (i : Int64)
  | uri (s : String)
  | uriReference (s : String)
  /-- A signed number of months. -/
  | yearMonthDuration (months : Int32)
  | dayTimeDuration (d : DayTimeDuration)
  | date (d : Date) (zone : Option Zone)
  | dateWithTimezone (d : Date) (zone : Zone)
  | dateTime (t : DateTime) (zone : Option Zone)
  /-- The date-time is the local one. -/
  | dateTimeWithTimezone (t : DateTime) (zone : Zone)
  | base64 (bytes : List UInt8)
  | markupLine (s : String)
  | markupMultiline (s : String)
deriving DecidableEq

namespace AtomicValue

/-- The datatype of a value. -/
def type : AtomicValue → Datatype
  | string _ => .string
  | token _ => .token
  | emailAddress _ => .emailAddress
  | hostname _ => .hostname
  | uuid _ => .uuid
  | ipV4Address _ => .ipV4Address
  | ipV6Address _ => .ipV6Address
  | boolean _ => .boolean
  | decimal _ => .decimal
  | integer _ => .integer
  | nonNegativeInteger _ => .nonNegativeInteger
  | positiveInteger _ => .positiveInteger
  | uri _ => .uri
  | uriReference _ => .uriReference
  | yearMonthDuration _ => .yearMonthDuration
  | dayTimeDuration _ => .dayTimeDuration
  | date _ _ => .date
  | dateWithTimezone _ _ => .dateWithTimezone
  | dateTime _ _ => .dateTime
  | dateTimeWithTimezone _ _ => .dateTimeWithTimezone
  | base64 _ => .base64
  | markupLine _ => .markupLine
  | markupMultiline _ => .markupMultiline

def isInstanceOf (v : AtomicValue) (t : Datatype) : Bool := v.type.isSubtypeOf t

/-- Values that can stand where a string is required: the string family and URIs. -/
def isStringLike (v : AtomicValue) : Bool :=
  v.isInstanceOf .string || v.isInstanceOf .uriReference

def isNumeric (v : AtomicValue) : Bool := v.type.isNumeric

/-- The canonical written form. -/
def text : AtomicValue → String
  | string s | token s | emailAddress s | hostname s | uuid s | uri s | uriReference s
  | markupLine s | markupMultiline s => s
  | ipV4Address a => String.ofList a.write
  | ipV6Address a => String.ofList a.write
  | boolean b => if b then "true" else "false"
  | decimal d => String.ofList d.write
  | integer i | nonNegativeInteger i | positiveInteger i => String.ofList (intDigits i.toInt)
  | yearMonthDuration months => String.ofList (YearMonthDuration.write months)
  | dayTimeDuration d => String.ofList d.write
  | date d zone => String.ofList (d.write ++ Zone.writeOptional zone)
  | dateWithTimezone d zone => String.ofList (d.write ++ zone.write)
  | dateTime t zone => String.ofList (t.write ++ Zone.writeOptional zone)
  | dateTimeWithTimezone t zone => String.ofList (t.write ++ zone.write)
  | base64 bytes => String.ofList (Base64.encode bytes)

/-- The characters of the canonical written form. -/
def chars (v : AtomicValue) : List Char := v.text.toList

/-- Equality of values as keys. Values are the same if they have one type and stand for the same
thing; two date-times with a time zone are the same if they denote one instant. -/
def same : AtomicValue → AtomicValue → Bool
  | dateTimeWithTimezone t z, dateTimeWithTimezone t' z' =>
    t.instant (some z) == t'.instant (some z')
  | a, b => a == b

/-! ## Truth -/

/-- The value counts as true or false: booleans, numbers other than zero, and texts that are not
empty. -/
def truth (v : AtomicValue) : Except Error Bool :=
  match v with
  | boolean b => .ok b
  | decimal d => .ok !d.isZero
  | integer i | nonNegativeInteger i | positiveInteger i => .ok (i != 0)
  | v =>
    if v.isStringLike then .ok !v.text.isEmpty
    else .error ⟨.invalidArgument,
      "effective boolean value is not defined for " ++ v.type.qualifiedName, none⟩

end AtomicValue

end TreePath
