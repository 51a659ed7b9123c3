/-
TreePath.Calendar.Zone — time zones as offsets from UTC.

A zone is a whole number of minutes of at most fourteen hours. It is written as a sign, two digits,
a colon and two digits, or as `Z` for no offset, and stands at the end of a date or date-time.
-/
import TreePath.Text.Scan

namespace TreePath

open TreePath.Text

/-- An offset of local time from UTC. -/
structure Zone where
  minutes : Int
  natAbs_le : minutes.natAbs ≤ 840
deriving DecidableEq

namespace Zone

def utc : Zone := ⟨0, by decide⟩

/-- The offset in seconds. -/
def seconds (z : Zone) : Int := 60 * z.minutes

/-! ## Writing -/

/-- The written form. -/
def write (z : Zone) : List Char :=
  if z.minutes = 0 then ['Z']
  else
    let n := z.minutes.natAbs
    (if z.minutes < 0 then '-' else '+') :: padZeros 2 (natDigits (n / 60)) ++
      ':' :: padZeros 2 (natDigits (n % 60))

/-- The written form of a zone that may be missing. -/
def writeOptional : Option Zone → List Char
  | none => []
  | some z => z.write

/-! ## Splitting it off -/

/-- The zone with the given fields, if they are small enough. Fields are read as signed numbers, so
only their upper bounds can be exceeded by much. -/
def ofFields? (negative : Bool) (hours minutes : Int) : Option Zone :=
  if 14 < hours ∨ 59 < minutes ∨ (hours = 14 ∧ minutes ≠ 0) then none
  else
    let total := if negative then -(60 * hours + minutes) else 60 * hours + minutes
    if h : total.natAbs ≤ 840 then some ⟨total, h⟩ else none

/-- The shape of a zone at the end of a text: sign, hour field, minute field, and what stands in
front. The fields take two bytes each in UTF-8. -/
def shape? (s : List Char) : Option (List Char × Bool × List Char × List Char) :=
  match takeUtf8 2 s.reverse with
  | some (minutes, ':' :: rest) =>
    match takeUtf8 2 rest with
    | some (hours, sign :: body) =>
      if sign = '+' ∨ sign = '-' then
        some (body.reverse, sign == '-', hours.reverse, minutes.reverse)
      else none
    | _ => none
  | _ => none

/-- What splitting off a zone can give. -/
inductive Split where
  /-- The text ends in a zone. -/
  | zoned (body : List Char) (zone : Zone)
  /-- The text does not look as if it had a zone. -/
  | unzoned (body : List Char)
  /-- The text ends in something of the shape of a zone that is none. -/
  | malformed
deriving DecidableEq

/-- Splits a zone off the end of a text. -/
def split (s : List Char) : Split :=
  match s.reverse with
  | 'Z' :: body => .zoned body.reverse utc
  | _ =>
    match shape? s with
    | none => .unzoned s
    | some (body, negative, hours, minutes) =>
      match readInt hours, readInt minutes with
      | some h, some m =>
        match ofFields? negative h m with
        | some zone => .zoned body zone
        | none => .malformed
      | _, _ => .malformed

end Zone

end TreePath
