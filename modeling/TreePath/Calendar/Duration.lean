/-
TreePath.Calendar.Duration — durations in months and durations in nanoseconds.

Both are written as an optional minus sign, `P`, and numbers with designators: years and months, or
days and, after a `T`, hours, minutes and seconds with a fraction. A day-time duration is a whole
number of nanoseconds of at most 2^63 - 1 milliseconds; a year-month duration is a whole number of
months of 32 bits.
-/
import TreePath.Calendar.DateText

namespace TreePath

open TreePath.Text

/-- The largest number of nanoseconds in a duration: 2^63 - 1 milliseconds. -/
def DayTimeDuration.maxNanoseconds : Nat := 9223372036854775807000000

/-- A signed span of time. -/
structure DayTimeDuration where
  nanoseconds : Int
  natAbs_le : nanoseconds.natAbs ≤ DayTimeDuration.maxNanoseconds
deriving DecidableEq

namespace Duration

/-! ## Components -/

/-- The numbers of a written duration. -/
structure Parts where
  years : Nat := 0
  months : Nat := 0
  days : Nat := 0
  hours : Nat := 0
  minutes : Nat := 0
  seconds : Nat := 0
  nanoseconds : Nat := 0
deriving DecidableEq, Repr

/-- What has been read so far: the numbers, the digits and points of the number being read, and
which components there were. -/
structure Progress where
  parts : Parts := {}
  pending : List Char := []
  inTime : Bool := false
  anyComponent : Bool := false
  anyTimeComponent : Bool := false
deriving Repr

/-- Components stay below this number, 2^63. -/
def componentBound : Nat := 9223372036854775808

/-- A component without a fraction. -/
def whole? (digits : List Char) : Option Nat :=
  (readNat digits).bind fun n => if n < componentBound then some n else none

/-- Seconds with an optional fraction, which is cut off after nine digits; digits stand on both
sides of a point. -/
def seconds? (parts : Parts) (number : List Char) : Option Parts :=
  match cutFirst '.' number with
  | none => (whole? number).map fun n => { parts with seconds := n }
  | some (whole, fraction) =>
    if whole.isEmpty || fraction.isEmpty || fraction.contains '.' then none
    else (whole? whole).map fun n =>
      { parts with seconds := n, nanoseconds := DateReader.nanoseconds (fraction.take 9) }

/-- The parts with the component of this designator set. A component may be given again; the last
one counts. -/
def component? (parts : Parts) (inTime : Bool) (designator : Char) (number : List Char) :
    Option Parts :=
  if number.isEmpty then none
  else if number.contains '.' && !(inTime && designator = 'S') then none
  else match inTime, designator with
    | false, 'Y' => (whole? number).map fun n => { parts with years := n }
    | false, 'M' => (whole? number).map fun n => { parts with months := n }
    | false, 'D' => (whole? number).map fun n => { parts with days := n }
    | true, 'H' => (whole? number).map fun n => { parts with hours := n }
    | true, 'M' => (whole? number).map fun n => { parts with minutes := n }
    | true, 'S' => seconds? parts number
    | _, _ => none

/-- Reads the characters after the `P`. -/
def readParts (p : Progress) : List Char → Option Parts
  | [] =>
    if p.pending.isEmpty && p.anyComponent && (!p.inTime || p.anyTimeComponent) then some p.parts
    else none
  | c :: rest =>
    if isDigit c || c = '.' then readParts { p with pending := p.pending ++ [c] } rest
    else if c = 'T' && !p.inTime && p.pending.isEmpty then
      readParts { p with inTime := true } rest
    else match component? p.parts p.inTime c p.pending with
      | some parts =>
        readParts ⟨parts, [], p.inTime, true, p.anyTimeComponent || p.inTime⟩ rest
      | none => none

/-- Reads the sign and the numbers of a duration. -/
def read? (s : List Char) : Option (Bool × Parts) :=
  let (negative, rest) := match trim s with
    | '-' :: rest => (true, rest)
    | rest => (false, rest)
  match rest with
  | 'P' :: rest => (readParts {} rest).map fun parts => (negative, parts)
  | _ => none

end Duration

open Duration

/-! ## Years and months -/

namespace YearMonthDuration

def overflow : Error := ⟨.durationOverflow, "year-month-duration overflow", none⟩

/-- Numbers of months stay below this magnitude, 2^31. -/
def monthsBound : Nat := 2147483648

/-- Reads a duration of years and months as a number of months. -/
def read (s : List Char) : Except Error Int32 :=
  match Duration.read? s with
  | none => .error (.invalidLexical "year-month-duration" s)
  | some (negative, p) =>
    if p.days ≠ 0 ∨ p.hours ≠ 0 ∨ p.minutes ≠ 0 ∨ p.seconds ≠ 0 ∨ p.nanoseconds ≠ 0 then
      .error (.invalidLexical "year-month-duration" s)
    else
      let months := 12 * p.years + p.months
      if months < monthsBound then .ok (Int32.ofInt (if negative then -(months : Int) else months))
      else .error overflow

/-- The written form; zero is `P0M`. -/
def write (months : Int32) : List Char :=
  if months = 0 then "P0M".toList
  else
    let n := months.toInt.natAbs
    (if months.toInt < 0 then ['-'] else []) ++ 'P' ::
      ((if 0 < n / 12 then natDigits (n / 12) ++ ['Y'] else []) ++
        (if 0 < n % 12 then natDigits (n % 12) ++ ['M'] else []))

end YearMonthDuration

/-! ## Days and times -/

namespace DayTimeDuration

def overflow : Error := ⟨.durationOverflow, "day-time-duration overflow", none⟩

/-- Reads a duration of days, hours, minutes and seconds. -/
def read (s : List Char) : Except Error DayTimeDuration :=
  match Duration.read? s with
  | none => .error (.invalidLexical "day-time-duration" s)
  | some (negative, p) =>
    if p.years ≠ 0 ∨ p.months ≠ 0 then .error (.invalidLexical "day-time-duration" s)
    else
      let seconds := 86400 * p.days + 3600 * p.hours + 60 * p.minutes + p.seconds
      let total : Int := nanosPerSecond * seconds + p.nanoseconds
      let signed := if negative then -total else total
      if h : signed.natAbs ≤ maxNanoseconds then .ok ⟨signed, h⟩ else .error overflow

/-- The written form; zero is `PT0S`. -/
def write (d : DayTimeDuration) : List Char :=
  if d.nanoseconds = 0 then "PT0S".toList
  else
    let total := d.nanoseconds.natAbs / nanosPerSecond
    let nanos := d.nanoseconds.natAbs % nanosPerSecond
    let days := total / 86400
    let hours := total % 86400 / 3600
    let minutes := total % 3600 / 60
    let seconds := total % 60
    let secondsText :=
      if 0 < nanos then
        natDigits seconds ++ '.' :: trimTrailingZeros (padZeros 9 (natDigits nanos)) ++ ['S']
      else if 0 < seconds then natDigits seconds ++ ['S']
      else []
    let time :=
      (if 0 < hours then natDigits hours ++ ['H'] else []) ++
        (if 0 < minutes then natDigits minutes ++ ['M'] else []) ++ secondsText
    (if d.nanoseconds < 0 then ['-'] else []) ++ 'P' ::
      ((if 0 < days then natDigits days ++ ['D'] else []) ++
        (if time.isEmpty then [] else 'T' :: time))

end DayTimeDuration

end TreePath
