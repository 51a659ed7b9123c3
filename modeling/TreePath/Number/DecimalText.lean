/-
TreePath.Number.DecimalText — the written form of decimals.

Writing gives an optional minus sign, the whole part and, if there are places, a point and the
places. Reading accepts an optional sign, digits with at most one point, and underscores once a
digit has been read. A number that needs more room than a decimal has is rounded by the next
character alone, whatever stands behind it; a whole part that is too large is refused.
-/
import TreePath.Number.Decimal
import TreePath.Text.Scan

namespace TreePath.Decimal

open TreePath.Text (isDigit digitValue natDigits padZeros)

/-! ## Writing -/

/-- The written form. -/
def write (d : Decimal) : List Char :=
  let sign := if d.coefficient < 0 then ['-'] else []
  let m := d.coefficient.natAbs
  let whole := natDigits (m / powerOfTen d.scale)
  if d.scale = 0 then sign ++ whole
  else sign ++ whole ++ '.' :: padZeros d.scale (natDigits (m % powerOfTen d.scale))

/-! ## Reading -/

namespace Reader

/-- The value of a digit text: `m / powerOfTen s` with the given sign. -/
def signed? (negative : Bool) (m s : Nat) : Option Decimal :=
  if h : s ≤ 28 ∧ m < coefficientBound then
    some (ofScaled (if negative then -(m : Int) else m) s h.1 (by split <;> omega))
  else none

/-- Ends a number that has no room for further digits: `next` is the first character that does not
fit. A digit of five or more carries; a carry that overflows the coefficient gives up a place. -/
def roundAt (negative : Bool) (m s : Nat) (next : Char) : Option Decimal :=
  if isDigit next || next = '_' || next = '.' then
    if isDigit next && 5 ≤ digitValue next then
      if m + 1 < coefficientBound then signed? negative (m + 1) s
      else if s = 0 then none
      else signed? negative ((m + 1 + 4) / 10) (s - 1)
    else signed? negative m s
  else none

/-- What has been read so far. -/
structure Progress where
  /-- The digits read, as a number. -/
  digits : Nat := 0
  /-- How many of them stand after the point. -/
  places : Nat := 0
  /-- The point has been read. -/
  point : Bool := false
  /-- Some digit has been read. -/
  any : Bool := false

/-- Reads the rest of an unsigned number. -/
def readFrom (negative : Bool) (p : Progress) : List Char → Option Decimal
  | [] => if p.any then signed? negative p.digits p.places else none
  | c :: rest =>
    if isDigit c then
      let digits := 10 * p.digits + digitValue c
      if coefficientBound ≤ digits then
        if p.point then roundAt negative p.digits p.places c else none
      else
        let places := if p.point then p.places + 1 else 0
        match rest with
        | [] => signed? negative digits places
        | next :: _ =>
          if p.point && 28 ≤ places then roundAt negative digits places next
          else readFrom negative ⟨digits, places, p.point, true⟩ rest
    else if c = '.' && !p.point then readFrom negative { p with point := true } rest
    else if c = '_' && p.any then readFrom negative p rest
    else none

end Reader

/-- Reads a decimal, without surrounding white space. -/
def read? : List Char → Option Decimal
  | '-' :: s => Reader.readFrom true {} s
  | '+' :: s => Reader.readFrom false {} s
  | s => Reader.readFrom false {} s

end TreePath.Decimal
