/-
TreePath.Atomic.Cast — turning a value into a value of another type.

A cast gives a value of exactly the target type, or fails; but the topmost type takes every value as
it is, and a reference to a resource becomes a URI if it is one. Numbers are cut off toward zero,
dates and date-times keep their zone, and text is read as a lexical form of the target.
-/
import TreePath.Atomic.Lexical
import TreePath.Atomic.Order

namespace TreePath.AtomicValue

/-- The cast is not defined, or its result is out of range. -/
def cannotCast (v : AtomicValue) (t : Datatype) : Error :=
  ⟨.invalidLexicalForm,
    "cannot cast " ++ v.type.qualifiedName ++ " '" ++ v.text ++ "' to " ++ t.qualifiedName, none⟩

/-- The integer that truth counts as. -/
def truthInteger (b : Bool) : Int64 := if b then 1 else 0

/-- A number as a value of a numeric type. -/
def ofDecimal? (t : Datatype) (d : Decimal) : Option AtomicValue :=
  match t with
  | .decimal => some (decimal d)
  | t => (Int64.ofInt? d.truncate).bind (ofInteger? t)

/-- The casts between dates and date-times. -/
def castTemporal? (v : AtomicValue) (t : Datatype) : Option AtomicValue :=
  match v, t with
  | date d zone, .dateWithTimezone => zone.map (dateWithTimezone d)
  | dateWithTimezone d zone, .date => some (date d (some zone))
  | dateTime t zone, .dateTimeWithTimezone => zone.bind (zoned? t)
  | dateTimeWithTimezone t zone, .dateTime => some (dateTime t (some zone))
  | date d zone, .dateTime => some (dateTime (.atMidnight d) zone)
  | dateWithTimezone d zone, .dateTime => some (dateTime (.atMidnight d) (some zone))
  | date d (some zone), .dateTimeWithTimezone => zoned? (.atMidnight d) zone
  | dateWithTimezone d zone, .dateTimeWithTimezone => zoned? (.atMidnight d) zone
  | dateTime t zone, .date => some (date t.date zone)
  | dateTimeWithTimezone t zone, .date => some (date t.date (some zone))
  | dateTime t (some zone), .dateWithTimezone => some (dateWithTimezone t.date zone)
  | dateTimeWithTimezone t zone, .dateWithTimezone => some (dateWithTimezone t.date zone)
  | _, _ => none

/-- Reads the text of a value as another type. Only the overflow of a duration keeps its cause. -/
def castText (v : AtomicValue) (t : Datatype) : Except Error AtomicValue :=
  match t.read v.text with
  | .ok w => .ok w
  | .error e => .error (if e.code = .durationOverflow then e else v.cannotCast t)

/-- The value as a value of type `t`. -/
def cast (v : AtomicValue) (t : Datatype) : Except Error AtomicValue :=
  let found (w : Option AtomicValue) : Except Error AtomicValue :=
    match w with
    | some w => if w.type = t then .ok w else .error (v.cannotCast t)
    | none => .error (v.cannotCast t)
  if v.type = t ∨ t = .anyAtomic then .ok v
  else if t = .string then .ok (string v.text)
  else
    match t.isNumeric, v.decimal? with
    | true, some d =>
      match ofDecimal? t d with
      | some w => .ok w
      | none => .error (v.cannotCast t)
    | _, number =>
      match v, t with
      | boolean b, .decimal => .ok (decimal (if b then .one else .zero))
      | boolean b, t => found (ofInteger? t (truthInteger b))
      | markupLine s, .markupMultiline => .ok (markupMultiline s)
      | markupMultiline s, .markupLine =>
        if s.toList.contains '\n' then .error (v.cannotCast t) else .ok (markupLine s)
      | uri s, .uriReference | uriReference s, .uriReference | uri s, .uri | uriReference s, .uri =>
        match t.read s with
        | .ok w => .ok w
        | .error _ => .error (v.cannotCast t)
      | base64 _, _ => .error (v.cannotCast t)
      | v, t =>
        match number, t with
        | some d, .boolean => .ok (boolean !d.isZero)
        | _, _ =>
          match castTemporal? v t with
          | some w => .ok w
          | none =>
            if v.isStringLike || v.type = .markupLine || v.type = .markupMultiline then
              v.castText t
            else .error (v.cannotCast t)

end TreePath.AtomicValue
