/-
TreePath.Atomic.Lexical — reading values from text.

Each datatype has a set of lexical forms. White space around them is ignored, except by the types
that keep text as it is. A reference to a resource becomes a URI or a relative reference, whichever
it is.
-/
import TreePath.Atomic.Value
import TreePath.Net.Mailbox
import TreePath.Net.Uri

namespace TreePath

open TreePath.Text

/-! ## Bounded numbers -/

/-- The number as a 64-bit integer, if it fits. -/
def Int64.ofInt? (i : Int) : Option Int64 :=
  if -9223372036854775808 ≤ i ∧ i ≤ 9223372036854775807 then some (Int64.ofInt i) else none

/-- The integer as a value of an integer type, if the type holds it. -/
def AtomicValue.ofInteger? (t : Datatype) (i : Int64) : Option AtomicValue :=
  match t with
  | .integer => some (.integer i)
  | .nonNegativeInteger => if 0 ≤ i then some (.nonNegativeInteger i) else none
  | .positiveInteger => if 0 < i then some (.positiveInteger i) else none
  | _ => none

/-- A local date-time in a zone, if its date in UTC exists. -/
def AtomicValue.zoned? (t : DateTime) (zone : Zone) : Option AtomicValue :=
  if t.isRepresentable zone then some (.dateTimeWithTimezone t zone) else none

/-! ## Forms read here -/

namespace Lexical

/-- Groups of 8, 4, 4, 4 and 12 hexadecimal digits between hyphens, in lower case. -/
def uuid? (s : List Char) : Option (List Char) :=
  let groups := splitAtChar '-' s
  if groups.map List.length = [8, 4, 4, 4, 12] ∧ groups.all (·.all isHexDigit) then
    some (s.map Char.toLower)
  else none

def boolean? (s : List Char) : Option Bool :=
  if s = "true".toList ∨ s = "1".toList then some true
  else if s = "false".toList ∨ s = "0".toList then some false
  else none

end Lexical

/-! ## Values of a type -/

namespace Datatype

/-- Reads a value of this type. -/
def read (t : Datatype) (lexical : String) : Except Error AtomicValue :=
  let s := trim lexical.toList
  let text := String.ofList s
  let invalid : Error := .invalidLexical t.name lexical.toList
  let checked (holds : Bool) (v : AtomicValue) : Except Error AtomicValue :=
    if holds then .ok v else .error invalid
  let found (v : Option AtomicValue) : Except Error AtomicValue :=
    match v with
    | some v => .ok v
    | none => .error invalid
  match t with
  | anyAtomic | string => .ok (.string lexical)
  | markupLine => .ok (.markupLine lexical)
  | markupMultiline => .ok (.markupMultiline lexical)
  | token => checked (Net.isToken s) (.token text)
  | emailAddress => checked (Net.isEmailAddress s) (.emailAddress text)
  | hostname => checked (Net.isHostname s) (.hostname text)
  | uuid => found ((Lexical.uuid? s).map fun s => .uuid (String.ofList s))
  | ipV4Address => found ((IPv4.read? s).map .ipV4Address)
  | ipV6Address => found ((IPv6.read? s).map .ipV6Address)
  | boolean => found ((Lexical.boolean? s).map .boolean)
  | decimal => found ((Decimal.read? s).map .decimal)
  | integer | nonNegativeInteger | positiveInteger =>
    found (((readInt s).bind Int64.ofInt?).bind (AtomicValue.ofInteger? t))
  | uriReference =>
    found ((Net.Uri.classify s).map fun
      | .absolute => .uri text
      | .relative => .uriReference text)
  | uri => checked (Net.Uri.classify s == some .absolute) (.uri text)
  | yearMonthDuration => (YearMonthDuration.read s).map .yearMonthDuration
  | dayTimeDuration => (DayTimeDuration.read s).map .dayTimeDuration
  | date => (Date.readZoned s).map fun (d, zone) => .date d zone
  | dateWithTimezone => do
    let (d, zone) ← Date.readZoned s
    found (zone.map (.dateWithTimezone d))
  | dateTime => (DateTime.readZoned s).map fun (t, zone) => .dateTime t zone
  | dateTimeWithTimezone => do
    let (t, zone) ← DateTime.readZoned s
    found (zone.bind (AtomicValue.zoned? t))
  | base64 =>
    found ((Base64.decode (s.filter fun c => !Unicode.isWhiteSpace c)).map .base64)

end Datatype

end TreePath
