/-
TreePath.Proofs.Calendar.DurationWords — durations are read in words without a fault.

The readers of durations may be run on words: the fraction of a second is scaled in unsigned 32-bit
words by a power of ten, the totals are added up in 64-bit words by operations that say when a
result does not fit, and a negative duration is the negation of a total. The scaling and the
negation have no such check. They never overflow: a fraction is cut off after nine digits, which
bounds the exponent and the product, a total of months is not negative, and the spans of time that
there are lie around zero (`YearMonthDuration.readInWords_eq`, `DayTimeDuration.readInWords_eq`).
-/
import TreePath.Proofs.Calendar.DurationReading
import TreePath.Proofs.Number.Words
import TreePath.Proofs.Text.Bytes

namespace TreePath

open TreePath.Text

namespace Duration

/-! ## Fractions -/

/-- The nanoseconds of the digits of a fraction, in 32-bit words. Digits after the ninth are
dropped, and a power of ten stands for those that are missing. -/
def nanosecondsInWords (fraction : List Char) : Except Fault (Option Nat) :=
  let digits := fraction.take 9
  match Word.unsigned32.fit? (utf8Length digits) with
  | none => .ok none
  | some size => do
    let exponent ← Word.unsigned32.keep (9 - size)
    let scale ← Word.unsigned32.keep (10 ^ exponent.toNat : Nat)
    match (readNat digits).bind fun n => Word.unsigned32.fit? n with
    | none => return none
    | some n => return some (← Word.unsigned32.keep (n * scale)).toNat

theorem nanoseconds_eq (digits : List Char) :
    DateReader.nanoseconds digits = digitsValue digits * 10 ^ (9 - digits.length) := by
  rw [DateReader.nanoseconds, digitsValue_append, digitsValue_replicate_zero,
    List.length_replicate, Nat.add_zero, Nat.mul_comm]

/-- Up to nine digits behind the point are less than a second. -/
theorem nanoseconds_lt {digits : List Char} (hd : ∀ c ∈ digits, isDigit c = true)
    (hlength : digits.length ≤ 9) : DateReader.nanoseconds digits < nanosPerSecond := by
  have hsecond : nanosPerSecond = 10 ^ digits.length * 10 ^ (9 - digits.length) := by
    rw [← pow_add, Nat.add_sub_cancel' hlength]
    rfl
  rw [nanoseconds_eq, hsecond]
  exact Nat.mul_lt_mul_of_pos_right (digitsValue_lt hd) (Nat.pow_pos (by decide))

/-- **Scaling does not overflow.** There are at most nine digits, so the exponent is not negative,
and the digits and their power of ten make less than a second. -/
theorem nanosecondsInWords_eq {fraction : List Char} (hne : fraction ≠ [])
    (hd : ∀ c ∈ fraction, isDigit c = true) :
    nanosecondsInWords fraction = .ok (some (DateReader.nanoseconds (fraction.take 9))) := by
  have hlength : (fraction.take 9).length ≤ 9 := List.length_take_le 9 fraction
  have hdigits : ∀ c ∈ fraction.take 9, isDigit c = true :=
    fun c hc => hd c (List.mem_of_mem_take hc)
  have hread := readNat_of_digits (by simpa using hne) hdigits
  rw [nanosecondsInWords]
  generalize fraction.take 9 = digits at hlength hdigits hread ⊢
  have hlt := nanoseconds_lt hdigits hlength
  have hsize : utf8Length digits = digits.length :=
    utf8Length_of_graphic fun c hc => isGraphic_of_isDigit (hdigits c hc)
  have hexponent : (9 : Int) - digits.length = ((9 - digits.length : Nat) : Int) :=
    (Int.ofNat_sub hlength).symm
  have hscale : (10 : Nat) ^ (9 - digits.length) ≤ 10 ^ 9 :=
    Nat.pow_le_pow_right (by decide) (Nat.sub_le _ _)
  have hvalue : digitsValue digits ≤ digitsValue digits * 10 ^ (9 - digits.length) :=
    Nat.le_mul_of_pos_right _ (Nat.pow_pos (by decide))
  have hsecond : nanosPerSecond = 10 ^ 9 := rfl
  rw [nanoseconds_eq] at hlt ⊢
  rw [hsize, hread, Word.fit?_of_holds (Word.holds_unsigned32.mpr (by omega))]
  simp only
  rw [hexponent, Word.keep_bind (Word.holds_unsigned32.mpr (by omega)), Int.toNat_natCast]
  -- what is left are bounds on the value, the scale and their product, as three unknowns
  generalize 10 ^ (9 - digits.length) = scale at hscale hvalue hlt ⊢
  rw [Word.keep_bind (Word.holds_unsigned32.mpr (by omega)), Option.bind_some,
    Word.fit?_of_holds (Word.holds_unsigned32.mpr (by omega))]
  simp only
  rw [← Int.natCast_mul, Word.keep_bind (Word.holds_unsigned32.mpr (by omega)), Int.toNat_natCast]
  rfl

/-! ## Components -/

/-- The component of seconds, with its fraction in words. -/
def secondsInWords (parts : Parts) (number : List Char) : Except Fault (Option Parts) :=
  match cutFirst '.' number with
  | none => .ok ((whole? number).map fun n => { parts with seconds := n })
  | some (whole, fraction) =>
    if whole.isEmpty || fraction.isEmpty || fraction.contains '.' then .ok none
    else match whole? whole with
      | none => .ok none
      | some n => do
        return (← nanosecondsInWords fraction).map fun nanos =>
          { parts with seconds := n, nanoseconds := nanos }

theorem secondsInWords_eq {number : List Char} (parts : Parts)
    (hn : ∀ c ∈ number, IsNumberChar c) :
    secondsInWords parts number = .ok (seconds? parts number) := by
  rw [secondsInWords, seconds?]
  cases hcut : cutFirst '.' number with
  | none => rfl
  | some cut =>
    obtain ⟨whole, fraction⟩ := cut
    simp only
    split
    · rfl
    · rename_i hempty
      simp only [Bool.or_eq_true, List.isEmpty_iff, List.contains_iff_mem, not_or] at hempty
      have hnumber := (cutFirst_eq_some_iff.mp hcut).1
      have hd : ∀ c ∈ fraction, isDigit c = true := fun c hc =>
        (hn c (by rw [hnumber]; simp [hc])).resolve_right fun heq => hempty.2 (heq ▸ hc)
      cases whole? whole with
      | none => rfl
      | some n =>
        simp only
        rw [nanosecondsInWords_eq hempty.1.2 hd]
        rfl

/-- A component. Only in that of seconds there is something to work out. -/
def componentInWords (parts : Parts) (inTime : Bool) (designator : Char) (number : List Char) :
    Except Fault (Option Parts) :=
  if inTime && designator = 'S' && !number.isEmpty then secondsInWords parts number
  else .ok (component? parts inTime designator number)

theorem componentInWords_eq {number : List Char} (parts : Parts) (inTime : Bool)
    (designator : Char) (hn : ∀ c ∈ number, IsNumberChar c) :
    componentInWords parts inTime designator number
      = .ok (component? parts inTime designator number) := by
  rw [componentInWords]
  split
  · rename_i hseconds
    simp only [Bool.and_eq_true, decide_eq_true_eq, Bool.not_eq_true'] at hseconds
    obtain ⟨⟨rfl, rfl⟩, hempty⟩ := hseconds
    rw [secondsInWords_eq parts hn, component?.eq_def, hempty]
    simp
  · rfl

/-! ## All components -/

/-- Reads the characters after the `P`, with fractions in words. -/
def readPartsInWords (p : Progress) : List Char → Except Fault (Option Parts)
  | [] =>
    .ok (if p.pending.isEmpty && p.anyComponent && (!p.inTime || p.anyTimeComponent) then
      some p.parts
    else none)
  | c :: rest =>
    if isDigit c || c = '.' then readPartsInWords { p with pending := p.pending ++ [c] } rest
    else if c = 'T' && !p.inTime && p.pending.isEmpty then
      readPartsInWords { p with inTime := true } rest
    else do
      match ← componentInWords p.parts p.inTime c p.pending with
      | some parts =>
        readPartsInWords ⟨parts, [], p.inTime, true, p.anyTimeComponent || p.inTime⟩ rest
      | none => return none

/-- The digits and points that are pending are all that a component is worked out from. -/
theorem readPartsInWords_eq : ∀ (s : List Char) (p : Progress),
    (∀ c ∈ p.pending, IsNumberChar c) → readPartsInWords p s = .ok (readParts p s)
  | [], p, _ => by rw [readPartsInWords, readParts]
  | c :: rest, p, hpending => by
      rw [readPartsInWords, readParts]
      split
      · rename_i hc
        exact readPartsInWords_eq rest _ (forall_isNumberChar_concat hpending hc)
      · split
        · exact readPartsInWords_eq rest _ hpending
        · rw [componentInWords_eq _ _ _ hpending, Fault.ok_bind]
          cases component? p.parts p.inTime c p.pending with
          | none => rfl
          | some parts => exact readPartsInWords_eq rest _ (by simp)

/-- Whether a text has a minus sign, and what follows. -/
def cutSign (s : List Char) : Bool × List Char :=
  match trim s with
  | '-' :: rest => (true, rest)
  | rest => (false, rest)

theorem read?_eq (s : List Char) :
    read? s = match (cutSign s).2 with
      | 'P' :: rest => (readParts {} rest).map fun parts => ((cutSign s).1, parts)
      | _ => none := rfl

/-- Reads the sign and the numbers of a duration, with fractions in words. -/
def readInWords (s : List Char) : Except Fault (Option (Bool × Parts)) :=
  match (cutSign s).2 with
  | 'P' :: rest => do
    return (← readPartsInWords {} rest).map fun parts => ((cutSign s).1, parts)
  | _ => .ok none

theorem readInWords_eq (s : List Char) : readInWords s = .ok (read? s) := by
  rw [readInWords, read?_eq]
  split
  · rw [readPartsInWords_eq _ {} (by simp)]
    rfl
  · rfl

/-- What is read has less than a second in nanoseconds. -/
theorem nanoseconds_lt_of_read? {s : List Char} {negative : Bool} {p : Parts}
    (h : read? s = some (negative, p)) : p.nanoseconds < nanosPerSecond := by
  obtain ⟨w, hw⟩ := exists_form_of_read? h
  rw [read?_text hw] at h
  split at h
  · cases h
    show w.fraction < nanosPerSecond
    rw [Form.fraction]
    cases (w.components.filter (·.fraction ≠ [])).getLast? with
    | none => decide
    | some c =>
      show c.nanoseconds < nanosPerSecond
      rw [Component.nanoseconds, ← nanoseconds_take c.isDigit_of_mem_fraction]
      exact nanoseconds_lt (fun x hx => c.isDigit_of_mem_fraction x (List.mem_of_mem_take hx))
        (List.length_take_le 9 _)
  · cases h

end Duration

open Duration

/-! ## Years and months -/

namespace YearMonthDuration

/-- The number of months, if 64 bits and then 32 bits hold it. -/
def monthsInWords? (p : Parts) : Option Int := do
  let years ← Word.signed64.fit? (p.years * 12)
  let months ← Word.signed64.fit? (years + p.months)
  Word.signed32.fit? months

/-- What does not fit on the way does not fit in the end. -/
theorem monthsInWords?_eq_some_iff {p : Parts} {n : Int} :
    monthsInWords? p = some n ↔
      12 * p.years + p.months < monthsBound ∧ n = (12 * p.years + p.months : Nat) := by
  simp only [monthsInWords?, Option.bind_eq_bind, Option.bind_eq_some_iff, Word.fit?_eq_some_iff,
    Word.holds_signed64, Word.holds_signed32, monthsBound]
  constructor
  · rintro ⟨_, ⟨-, rfl⟩, _, ⟨-, rfl⟩, hfits, rfl⟩
    omega
  · rintro ⟨hlt, rfl⟩
    exact ⟨_, ⟨by omega, rfl⟩, _, ⟨by omega, rfl⟩, by omega, by omega⟩

/-- Reads a duration of years and months, in words. -/
def readInWords (s : List Char) : Except Fault (Except Error Int32) := do
  match ← Duration.readInWords s with
  | none => return .error (.invalidLexical "year-month-duration" s)
  | some (negative, p) =>
    if p.days ≠ 0 ∨ p.hours ≠ 0 ∨ p.minutes ≠ 0 ∨ p.seconds ≠ 0 ∨ p.nanoseconds ≠ 0 then
      return .error (.invalidLexical "year-month-duration" s)
    else match monthsInWords? p with
      | none => return .error overflow
      | some months =>
        if negative then return .ok (Int32.ofInt (← Word.signed32.keep (-months)))
        else return .ok (Int32.ofInt months)

/-- **Reading months does not fault.** A total is not negative, and the negation of every number of
31 bits has a place in 32 bits. -/
theorem readInWords_eq (s : List Char) : readInWords s = .ok (read s) := by
  rw [readInWords, Duration.readInWords_eq, Fault.ok_bind, read]
  cases Duration.read? s with
  | none => rfl
  | some r =>
    obtain ⟨negative, p⟩ := r
    simp only
    split
    · rfl
    · by_cases hlt : 12 * p.years + p.months < monthsBound
      · rw [monthsInWords?_eq_some_iff.mpr ⟨hlt, rfl⟩, if_pos hlt]
        cases negative with
        | false => rfl
        | true =>
          rw [monthsBound] at hlt
          simp only [if_true]
          rw [Word.keep_bind (Word.holds_signed32.mpr (by omega))]
          rfl
      · have hnone : monthsInWords? p = none :=
          Option.eq_none_iff_forall_ne_some.mpr fun n hn =>
            hlt (monthsInWords?_eq_some_iff.mp hn).1
        rw [hnone, if_neg hlt]
        rfl

end YearMonthDuration

/-! ## Days and times -/

namespace DayTimeDuration

/-- The number of seconds, if 64 bits hold it and what is added up on the way. -/
def secondsInWords? (p : Parts) : Option Int := do
  let days ← Word.signed64.fit? (p.days * 86400)
  let hours ← Word.signed64.fit? (p.hours * 3600)
  let total ← Word.signed64.fit? (days + hours)
  let minutes ← Word.signed64.fit? (p.minutes * 60)
  let total ← Word.signed64.fit? (total + minutes)
  Word.signed64.fit? (total + p.seconds)

/-- What does not fit on the way does not fit in the end. -/
theorem secondsInWords?_eq_some_iff {p : Parts} {n : Int} :
    secondsInWords? p = some n ↔
      n = (86400 * p.days + 3600 * p.hours + 60 * p.minutes + p.seconds : Nat) ∧
        Word.signed64.Holds n := by
  simp only [secondsInWords?, Option.bind_eq_bind, Option.bind_eq_some_iff,
    Word.fit?_eq_some_iff, Word.holds_signed64]
  constructor
  · rintro ⟨_, ⟨-, rfl⟩, _, ⟨-, rfl⟩, _, ⟨-, rfl⟩, _, ⟨-, rfl⟩, _, ⟨-, rfl⟩, hfits, rfl⟩
    omega
  · rintro ⟨rfl, hfits⟩
    exact ⟨_, ⟨by omega, rfl⟩, _, ⟨by omega, rfl⟩, _, ⟨by omega, rfl⟩, _, ⟨by omega, rfl⟩,
      _, ⟨by omega, rfl⟩, by omega, by omega⟩

/-- A span of time as it is kept in words: seconds, and nanoseconds that come on top. -/
structure Span where
  seconds : Int
  nanoseconds : Int

namespace Span

/-- All of the span in nanoseconds. -/
def total (d : Span) : Int := nanosPerSecond * d.seconds + d.nanoseconds

/-- The span has less than a second in nanoseconds, and is not longer than spans are. -/
def IsValid (d : Span) : Prop :=
  (0 ≤ d.nanoseconds ∧ d.nanoseconds < nanosPerSecond) ∧ d.total.natAbs ≤ maxNanoseconds

instance (d : Span) : Decidable d.IsValid := inferInstanceAs (Decidable (_ ∧ _))

/-- The span of so many seconds and nanoseconds, if there is one. -/
def new? (seconds nanoseconds : Int) : Option Span :=
  if IsValid ⟨seconds, nanoseconds⟩ then some ⟨seconds, nanoseconds⟩ else none

/-- The span backwards. Its nanoseconds still come on top, so a second is borrowed for them. -/
def negate (d : Span) : Except Fault Span := do
  let seconds ← Word.signed64.keep (-d.seconds)
  if d.nanoseconds = 0 then return ⟨seconds, 0⟩
  else
    let seconds ← Word.signed64.keep (seconds - 1)
    let nanoseconds ← Word.signed32.keep (nanosPerSecond - d.nanoseconds)
    return ⟨seconds, nanoseconds⟩

/-- The duration of the span. It is a fault if there is none. -/
def duration (d : Span) : Except Fault DayTimeDuration :=
  if h : d.IsValid then .ok ⟨d.total, h.2⟩ else .error .overflow

theorem duration_bind {d : Span} (h : d.IsValid) :
    (do return Except.ok (← d.duration) : Except Fault (Except Error DayTimeDuration))
      = .ok (ofNanoseconds d.total) := by
  rw [duration, dif_pos h, ofNanoseconds, dif_pos h.2]
  rfl

/-- **The negation of a span is a span**, as far from zero. -/
theorem exists_negate {d : Span} (h : d.IsValid) :
    ∃ d', d.negate = .ok d' ∧ d'.IsValid ∧ d'.total = -d.total := by
  obtain ⟨seconds, nanoseconds⟩ := d
  have hsecond : nanosPerSecond = 1000000000 := rfl
  simp only [IsValid, total, maxNanoseconds, hsecond] at h ⊢
  rw [negate]
  simp only
  rw [Word.keep_bind (Word.holds_signed64.mpr (by omega))]
  by_cases hzero : nanoseconds = 0
  · rw [if_pos hzero]
    refine ⟨_, rfl, ?_, ?_⟩
    · simp only
      omega
    · simp only
      omega
  · rw [if_neg hzero, Word.keep_bind (Word.holds_signed64.mpr (by omega)),
      Word.keep_bind (Word.holds_signed32.mpr (by omega))]
    refine ⟨_, rfl, ?_, ?_⟩
    · simp only
      omega
    · simp only
      omega

/-- The span of days, hours, minutes and seconds. -/
def ofParts (p : Parts) : Span :=
  ⟨(86400 * p.days + 3600 * p.hours + 60 * p.minutes + p.seconds : Nat), p.nanoseconds⟩

end Span

/-- The span of days, hours, minutes and seconds, if words hold it. -/
def span? (p : Parts) : Option Span :=
  (secondsInWords? p).bind fun seconds => Span.new? seconds p.nanoseconds

theorem span?_eq_some_iff {p : Parts} {d : Span} :
    span? p = some d ↔ (Span.ofParts p).IsValid ∧ d = Span.ofParts p := by
  rw [span?, Option.bind_eq_some_iff]
  constructor
  · rintro ⟨n, hn, hd⟩
    obtain ⟨rfl, -⟩ := secondsInWords?_eq_some_iff.mp hn
    rw [Span.new?] at hd
    split at hd
    · rename_i hvalid
      cases hd
      exact ⟨hvalid, rfl⟩
    · cases hd
  · rintro ⟨hvalid, rfl⟩
    refine ⟨_, secondsInWords?_eq_some_iff.mpr ⟨rfl, ?_⟩, if_pos hvalid⟩
    have hsecond : nanosPerSecond = 1000000000 := rfl
    simp only [Span.IsValid, Span.total, Span.ofParts, maxNanoseconds, hsecond] at hvalid
    exact Word.holds_signed64.mpr (by omega)

/-- Reads a duration of days, hours, minutes and seconds, in words. -/
def readInWords (s : List Char) : Except Fault (Except Error DayTimeDuration) := do
  match ← Duration.readInWords s with
  | none => return .error (.invalidLexical "day-time-duration" s)
  | some (negative, p) =>
    if p.years ≠ 0 ∨ p.months ≠ 0 then return .error (.invalidLexical "day-time-duration" s)
    else match span? p with
      | none => return .error overflow
      | some span => return .ok (← (← if negative then span.negate else .ok span).duration)

/-- **Reading days and times does not fault.** All totals are checked, and the negation of a span
needs no check. -/
theorem readInWords_eq (s : List Char) : readInWords s = .ok (read s) := by
  rw [readInWords, Duration.readInWords_eq, Fault.ok_bind, read]
  cases hread : Duration.read? s with
  | none => rfl
  | some r =>
    obtain ⟨negative, p⟩ := r
    have hnanos := nanoseconds_lt_of_read? hread
    simp only
    split
    · rfl
    · show _ = Except.ok (ofNanoseconds
        (if negative then -(Span.ofParts p).total else (Span.ofParts p).total))
      by_cases hvalid : (Span.ofParts p).IsValid
      · rw [span?_eq_some_iff.mpr ⟨hvalid, rfl⟩]
        cases negative with
        | false =>
          simp only [Bool.false_eq_true, if_false]
          rw [Fault.ok_bind, Span.duration_bind hvalid]
        | true =>
          obtain ⟨d, hnegate, hvalid', htotal⟩ := Span.exists_negate hvalid
          simp only [if_true]
          rw [hnegate, Fault.ok_bind, Span.duration_bind hvalid', htotal]
      · have hnone : span? p = none :=
          Option.eq_none_iff_forall_ne_some.mpr fun d hd => hvalid (span?_eq_some_iff.mp hd).1
        -- the nanoseconds are in their range, so that only the length can be wrong
        have hrange : 0 ≤ (Span.ofParts p).nanoseconds ∧
            (Span.ofParts p).nanoseconds < nanosPerSecond := by
          simp only [Span.ofParts]
          omega
        have hlong : ¬ (Span.ofParts p).total.natAbs ≤ maxNanoseconds :=
          fun hle => hvalid ⟨hrange, hle⟩
        have hsigned : ¬ (if negative then -(Span.ofParts p).total
            else (Span.ofParts p).total).natAbs ≤ maxNanoseconds := by
          cases negative with
          | false => exact hlong
          | true => rwa [if_pos rfl, Int.natAbs_neg]
        rw [hnone, ofNanoseconds, dif_neg hsigned]
        rfl

end DayTimeDuration

end TreePath
