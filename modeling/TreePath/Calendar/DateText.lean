/-
TreePath.Calendar.DateText — the written forms of dates and date-times.

A date is `year-month-day`, a date-time adds `T`, `hour:minute:second` and an optional fraction;
a zone may follow either. Reading allows white space in front of each number and fields of fewer
digits than are written; a year with a sign may have any number of digits, one without has at most
four. Writing pads: four digits for years from 0 to 9999, a sign and at least four digits for
others, and a fraction of three, six or nine digits or none.
-/
import TreePath.Calendar.Date
import TreePath.Error

namespace TreePath

open TreePath.Text

/-! ## Writing -/

def Date.writeYear (year : Int) : List Char :=
  if 0 ≤ year ∧ year ≤ 9999 then padZeros 4 (natDigits year.natAbs)
  else (if year < 0 then '-' else '+') :: padZeros 4 (natDigits year.natAbs)

def Date.write (d : Date) : List Char :=
  Date.writeYear d.year ++ '-' :: padZeros 2 (natDigits d.month) ++
    '-' :: padZeros 2 (natDigits d.day)

/-- The fraction of a second in the fewest of three, six or nine digits. -/
def TimeOfDay.writeFraction (nanosecond : Nat) : List Char :=
  if nanosecond = 0 then []
  else if nanosecond % 1000000 = 0 then '.' :: padZeros 3 (natDigits (nanosecond / 1000000))
  else if nanosecond % 1000 = 0 then '.' :: padZeros 6 (natDigits (nanosecond / 1000))
  else '.' :: padZeros 9 (natDigits nanosecond)

def TimeOfDay.write (t : TimeOfDay) : List Char :=
  padZeros 2 (natDigits t.hour) ++ ':' :: padZeros 2 (natDigits t.minute) ++
    ':' :: padZeros 2 (natDigits t.second) ++ TimeOfDay.writeFraction t.nanosecond

def DateTime.write (t : DateTime) : List Char := t.date.write ++ 'T' :: t.time.write

/-! ## Reading -/

namespace DateReader

/-- A number of at least one digit and at most as many as `width` allows, and the rest. -/
def number (width : Option Nat) (s : List Char) : Option (Nat × List Char) :=
  let digits := match width with
    | some w => (s.take w).takeWhile isDigit
    | none => s.takeWhile isDigit
  if digits.isEmpty then none else some (digitsValue digits, s.drop digits.length)

/-- A field of at most two digits, after optional white space. -/
def field (s : List Char) : Option (Nat × List Char) := number (some 2) (trimStart s)

/-- A year, after optional white space. -/
def year (s : List Char) : Option (Int × List Char) :=
  match trimStart s with
  | '-' :: rest => (number none rest).map fun (n, rest) => (-(n : Int), rest)
  | '+' :: rest => (number none rest).map fun (n, rest) => ((n : Int), rest)
  | s => (number (some 4) s).map fun (n, rest) => ((n : Int), rest)

/-- The given character, and the rest. -/
def expect (c : Char) : List Char → Option (List Char)
  | d :: rest => if c = d then some rest else none
  | [] => none

/-- `year-month-day`, and the rest. -/
def date (s : List Char) : Option ((Int × Nat × Nat) × List Char) := do
  let (y, s) ← year s
  let s ← expect '-' s
  let (m, s) ← field s
  let s ← expect '-' s
  let (d, s) ← field s
  some ((y, m, d), s)

/-- The nanoseconds that at most nine digits after the point of a second stand for. -/
def nanoseconds (digits : List Char) : Nat :=
  digitsValue (digits ++ List.replicate (9 - digits.length) '0')

/-- An optional point and digits, as nanoseconds; digits after the ninth are read and dropped. -/
def fraction : List Char → Option (Nat × List Char)
  | '.' :: s =>
    let digits := (s.take 9).takeWhile isDigit
    if digits.isEmpty then none
    else some (nanoseconds digits, (s.drop digits.length).dropWhile isDigit)
  | s => some (0, s)

/-- `hour:minute:second` with an optional fraction, and the rest. -/
def time (s : List Char) : Option ((Nat × Nat × Nat × Nat) × List Char) := do
  let (h, s) ← field s
  let s ← expect ':' s
  let (m, s) ← field s
  let s ← expect ':' s
  let (sec, s) ← field s
  let (n, s) ← fraction s
  some ((h, m, sec, n), s)

end DateReader

/-- Reads a date without a zone. -/
def Date.read? (s : List Char) : Option Date :=
  match DateReader.date s with
  | some ((y, m, d), []) => Date.ofFields? y m d
  | _ => none

/-- Reads a date-time without a zone. -/
def DateTime.read? (s : List Char) : Option DateTime := do
  let ((y, m, d), s) ← DateReader.date s
  let s ← DateReader.expect 'T' s
  let ((hour, minute, second, nanosecond), s) ← DateReader.time s
  if s.isEmpty then
    let date ← Date.ofFields? y m d
    let time ← TimeOfDay.ofFields? hour minute second nanosecond
    some ⟨date, time⟩
  else none

/-! ## With a zone -/

/-- A text that is not of the named form. -/
def Error.invalidLexical (form : String) (s : List Char) : Error :=
  ⟨.invalidLexicalForm, "invalid " ++ form ++ " lexical form: '" ++ String.ofList s ++ "'", none⟩

/-- Reads what stands in front of an optional zone with `read`. -/
def readZoned {α : Type} (form : String) (read : List Char → Option α) (s : List Char) :
    Except Error (α × Option Zone) :=
  let attempt (body : List Char) (zone : Option Zone) : Except Error (α × Option Zone) :=
    match read body with
    | some value => .ok (value, zone)
    | none => .error (.invalidLexical form s)
  match Zone.split (trim s) with
  | .zoned body zone => attempt body (some zone)
  | .unzoned body => attempt body none
  | .malformed => .error (.invalidLexical "timezone" (trim s))

/-- Reads a date with an optional zone. -/
def Date.readZoned (s : List Char) : Except Error (Date × Option Zone) :=
  TreePath.readZoned "date" Date.read? s

/-- Reads a date-time with an optional zone. -/
def DateTime.readZoned (s : List Char) : Except Error (DateTime × Option Zone) :=
  TreePath.readZoned "date-time" DateTime.read? s

end TreePath
