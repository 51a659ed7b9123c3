/-
TreePath.Proofs.Atomic.Faultless — dates, date-times and durations are read without a fault.

The zone of a date or date-time is split off by bytes, and durations are worked out in words. Both
could fault, and neither does (`splitBytes_eq`, `readInWords_eq`); so a text is read as a value of
its type or refused with an error, whatever characters and however many digits it is made of.
-/
import TreePath.Atomic.Lexical
import TreePath.Proofs.Calendar.DurationWords
import TreePath.Proofs.Calendar.ZoneBytes

namespace TreePath

open TreePath.Text

/-- Reads what stands in front of an optional zone, which is split off by bytes. -/
def readZonedBytes {α : Type} (form : String) (read : List Char → Option α) (s : List Char) :
    Except Fault (Except Error (α × Option Zone)) := do
  let attempt (body : List Char) (zone : Option Zone) : Except Error (α × Option Zone) :=
    match read body with
    | some value => .ok (value, zone)
    | none => .error (.invalidLexical form s)
  match ← Zone.splitBytes (trim s) with
  | .zoned body zone => return attempt body (some zone)
  | .unzoned body => return attempt body none
  | .malformed => return .error (.invalidLexical "timezone" (trim s))

theorem readZonedBytes_eq {α : Type} (form : String) (read : List Char → Option α)
    (s : List Char) : readZonedBytes form read s = .ok (readZoned form read s) := by
  rw [readZonedBytes, readZoned, Zone.splitBytes_eq, Fault.ok_bind]
  cases Zone.split (trim s) with
  | zoned body zone => rfl
  | unzoned body => rfl
  | malformed => rfl

/-- The types of dates, date-times and durations. -/
inductive Temporal where
  | yearMonthDuration
  | dayTimeDuration
  | date
  | dateWithTimezone
  | dateTime
  | dateTimeWithTimezone
deriving DecidableEq, Repr

namespace Temporal

def datatype : Temporal → Datatype
  | yearMonthDuration => .yearMonthDuration
  | dayTimeDuration => .dayTimeDuration
  | date => .date
  | dateWithTimezone => .dateWithTimezone
  | dateTime => .dateTime
  | dateTimeWithTimezone => .dateTimeWithTimezone

/-- Reads a value of this type, by bytes and in words. -/
def readInWords (t : Temporal) (lexical : String) : Except Fault (Except Error AtomicValue) := do
  let s := trim lexical.toList
  let found (v : Option AtomicValue) : Except Error AtomicValue :=
    match v with
    | some v => .ok v
    | none => .error (.invalidLexical t.datatype.name lexical.toList)
  match t with
  | yearMonthDuration =>
    return (← YearMonthDuration.readInWords s).map .yearMonthDuration
  | dayTimeDuration => return (← DayTimeDuration.readInWords s).map .dayTimeDuration
  | date => return (← readZonedBytes "date" Date.read? s).map fun (d, zone) => .date d zone
  | dateWithTimezone =>
    return (← readZonedBytes "date" Date.read? s).bind fun (d, zone) =>
      found (zone.map (.dateWithTimezone d))
  | dateTime =>
    return (← readZonedBytes "date-time" DateTime.read? s).map fun (t, zone) => .dateTime t zone
  | dateTimeWithTimezone =>
    return (← readZonedBytes "date-time" DateTime.read? s).bind fun (t, zone) =>
      found (zone.bind (AtomicValue.zoned? t))

theorem readInWords_eq (t : Temporal) (lexical : String) :
    t.readInWords lexical = .ok (t.datatype.read lexical) := by
  cases t with
  | yearMonthDuration =>
    simp only [readInWords]
    rw [YearMonthDuration.readInWords_eq]
    rfl
  | dayTimeDuration =>
    simp only [readInWords]
    rw [DayTimeDuration.readInWords_eq]
    rfl
  | date =>
    simp only [readInWords]
    rw [readZonedBytes_eq]
    rfl
  | dateWithTimezone =>
    simp only [readInWords]
    rw [readZonedBytes_eq]
    rfl
  | dateTime =>
    simp only [readInWords]
    rw [readZonedBytes_eq]
    rfl
  | dateTimeWithTimezone =>
    simp only [readInWords]
    rw [readZonedBytes_eq]
    rfl

/-- **Reading never faults.** For every text, the bytes and the parts that the zone is split off by
are there, its offset fits in 32 bits, the exponent, the scaled fraction and the negation of a
duration fit in their words, and what comes out is what the reader of the type gives: a value or an
error. -/
theorem reading_never_faults :
    (∀ s : List Char, Zone.splitBytes s = .ok (Zone.split s)) ∧
    (∀ s : List Char, Duration.readInWords s = .ok (Duration.read? s) ∧
      YearMonthDuration.readInWords s = .ok (YearMonthDuration.read s) ∧
      DayTimeDuration.readInWords s = .ok (DayTimeDuration.read s)) ∧
    ∀ (t : Temporal) (lexical : String), t.readInWords lexical = .ok (t.datatype.read lexical) :=
  ⟨Zone.splitBytes_eq,
    fun s => ⟨Duration.readInWords_eq s, YearMonthDuration.readInWords_eq s,
      DayTimeDuration.readInWords_eq s⟩,
    readInWords_eq⟩

end Temporal

end TreePath
