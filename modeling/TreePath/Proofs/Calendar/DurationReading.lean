/-
TreePath.Proofs.Calendar.DurationReading — what texts give which duration.

Each of the two types of durations has a grammar in which the components of its units stand in
order, each at most once (`Form.IsDayTime`, `Form.IsYearMonth`). The readers accept more than that
(`read_forms`): components in any order and again, and components of the other type as long as the
last of each unit is zero. They also accept less: a number beyond 64 bits makes a text invalid, and
the magnitude of a number of months is limited before the sign is put to it.
-/
import TreePath.Proofs.Calendar.DurationForms

namespace TreePath

open TreePath.Text

namespace Duration.Form

/-- The form is one of days, hours, minutes and seconds, in this order and each at most once. -/
structure IsDayTime (w : Form) : Prop where
  ordered : w.components.Pairwise fun c d => c.unit.place < d.unit.place
  unit_ne : ∀ c ∈ w.components, c.unit ≠ .years ∧ c.unit ≠ .months

/-- The form is one of years and months, in this order and each at most once. -/
structure IsYearMonth (w : Form) : Prop where
  ordered : w.components.Pairwise fun c d => c.unit.place < d.unit.place
  unit_eq : ∀ c ∈ w.components, c.unit = .years ∨ c.unit = .months

/-- As far as they count, the years and months are zero. -/
def NoMonths (w : Form) : Prop := w.amount .years = 0 ∧ w.amount .months = 0

/-- As far as they count, the days, hours, minutes and seconds are zero. -/
def NoDays (w : Form) : Prop :=
  w.amount .days = 0 ∧ w.amount .hours = 0 ∧ w.amount .minutes = 0 ∧ w.amount .seconds = 0 ∧
    w.fraction = 0

/-- The number with the sign of the form. -/
def signed (w : Form) (n : Int) : Int := if w.negative then -n else n

/-- The number of months that the form denotes. -/
def totalMonths (w : Form) : Int := w.signed (12 * w.amount .years + w.amount .months : Nat)

/-- The number of seconds that the form denotes, without the sign and the fraction. -/
def totalSeconds (w : Form) : Nat :=
  86400 * w.amount .days + 3600 * w.amount .hours + 60 * w.amount .minutes + w.amount .seconds

/-- The number of nanoseconds that the form denotes. -/
def totalNanoseconds (w : Form) : Int := w.signed (nanosPerSecond * w.totalSeconds + w.fraction)

/-! ## Units that are missing -/

theorem amount_eq_zero {w : Form} {u : CalendarUnit} (h : ∀ c ∈ w.components, c.unit ≠ u) :
    w.amount u = 0 := by
  have hnone : w.components.filter (fun c => decide (c.unit = u)) = [] := by
    simpa [List.filter_eq_nil_iff] using h
  rw [amount, hnone]
  rfl

theorem IsDayTime.noMonths {w : Form} (h : w.IsDayTime) : w.NoMonths :=
  ⟨amount_eq_zero fun c hc => (h.unit_ne c hc).1, amount_eq_zero fun c hc => (h.unit_ne c hc).2⟩

theorem IsYearMonth.noDays {w : Form} (h : w.IsYearMonth) : w.NoDays := by
  have hunit : ∀ u, u ≠ .years → u ≠ .months → w.amount u = 0 := by
    intro u hy hm
    refine amount_eq_zero fun c hc hu => ?_
    rcases h.unit_eq c hc with heq | heq
    · exact hy (hu.symm.trans heq)
    · exact hm (hu.symm.trans heq)
  have hfraction : w.components.filter (fun c => decide (c.fraction ≠ [])) = [] := by
    rw [List.filter_eq_nil_iff]
    intro c hc
    have hne : c.unit ≠ .seconds := by
      rcases h.unit_eq c hc with heq | heq <;> rw [heq] <;> decide
    simp [c.fraction_eq_nil hne]
  refine ⟨hunit _ (by decide) (by decide), hunit _ (by decide) (by decide),
    hunit _ (by decide) (by decide), hunit _ (by decide) (by decide), ?_⟩
  rw [fraction, hfraction]
  rfl

end Duration.Form

open Duration

/-! ## Days and times -/

namespace DayTimeDuration

/-- So many nanoseconds, if that is not too long. -/
def ofNanoseconds (n : Int) : Except Error DayTimeDuration :=
  if h : n.natAbs ≤ maxNanoseconds then .ok ⟨n, h⟩ else .error overflow

/-- A form is read as what it denotes, unless it has months or a number beyond 64 bits. -/
theorem read_text {s : List Char} {w : Form} (h : trim s = w.text) :
    (w.IsSmall ∧ w.NoMonths → read s = ofNanoseconds w.totalNanoseconds) ∧
      (¬ (w.IsSmall ∧ w.NoMonths) → read s = .error (.invalidLexical "day-time-duration" s)) := by
  have hread := read?_text h
  by_cases hsmall : w.IsSmall
  · have hfields : ¬ w.NoMonths ↔ w.parts.years ≠ 0 ∨ w.parts.months ≠ 0 := by
      simp only [Form.NoMonths, Form.parts]
      omega
    rw [if_pos hsmall] at hread
    rw [read, hread]
    simp only
    constructor
    · rintro ⟨-, hmonths⟩
      rw [if_neg (mt hfields.mpr (not_not.mpr hmonths))]
      rfl
    · intro hnot
      rw [if_pos (hfields.mp fun hmonths => hnot ⟨hsmall, hmonths⟩)]
  · rw [if_neg hsmall] at hread
    rw [read, hread]
    exact ⟨fun hboth => absurd hboth.1 hsmall, fun _ => rfl⟩

theorem read_of_no_form {s : List Char} (h : ¬ ∃ w : Form, trim s = w.text) :
    read s = .error (.invalidLexical "day-time-duration" s) := by
  rw [read, read?_eq_none h]

end DayTimeDuration

/-! ## Years and months -/

namespace YearMonthDuration

/-- So many months, if the magnitude is a number of 31 bits. -/
def ofMonths (n : Int) : Except Error Int32 :=
  if n.natAbs < monthsBound then .ok (Int32.ofInt n) else .error overflow

/-- A form is read as what it denotes, unless it has days, a time of day or a number beyond 64
bits. -/
theorem read_text {s : List Char} {w : Form} (h : trim s = w.text) :
    (w.IsSmall ∧ w.NoDays → read s = ofMonths w.totalMonths) ∧
      (¬ (w.IsSmall ∧ w.NoDays) → read s = .error (.invalidLexical "year-month-duration" s)) := by
  have hread := read?_text h
  by_cases hsmall : w.IsSmall
  · have hfields : ¬ w.NoDays ↔ w.parts.days ≠ 0 ∨ w.parts.hours ≠ 0 ∨ w.parts.minutes ≠ 0 ∨
        w.parts.seconds ≠ 0 ∨ w.parts.nanoseconds ≠ 0 := by
      simp only [Form.NoDays, Form.parts]
      omega
    have habs : w.totalMonths.natAbs = 12 * w.parts.years + w.parts.months := by
      simp only [Form.totalMonths, Form.signed, Form.parts]
      split <;> omega
    rw [if_pos hsmall] at hread
    rw [read, hread]
    simp only
    constructor
    · rintro ⟨-, hdays⟩
      rw [if_neg (mt hfields.mpr (not_not.mpr hdays)), ofMonths, habs]
      rfl
    · intro hnot
      rw [if_pos (hfields.mp fun hdays => hnot ⟨hsmall, hdays⟩)]
  · rw [if_neg hsmall] at hread
    rw [read, hread]
    exact ⟨fun hboth => absurd hboth.1 hsmall, fun _ => rfl⟩

theorem read_of_no_form {s : List Char} (h : ¬ ∃ w : Form, trim s = w.text) :
    read s = .error (.invalidLexical "year-month-duration" s) := by
  rw [read, read?_eq_none h]

end YearMonthDuration

/-! ## All texts -/

namespace Duration

/-- **What a text is read as, for every text.** The text of a form is read as what the form denotes,
unless a number is too large or units of the other type count; forms that keep to the grammar of a
type have no such units. A text of no form is invalid. -/
theorem read_forms (s : List Char) :
    (∀ w : Form, trim s = w.text →
      (w.IsDayTime → w.NoMonths) ∧
      (w.IsSmall ∧ w.NoMonths →
        DayTimeDuration.read s = DayTimeDuration.ofNanoseconds w.totalNanoseconds) ∧
      (¬ (w.IsSmall ∧ w.NoMonths) →
        DayTimeDuration.read s = .error (.invalidLexical "day-time-duration" s)) ∧
      (w.IsYearMonth → w.NoDays) ∧
      (w.IsSmall ∧ w.NoDays →
        YearMonthDuration.read s = YearMonthDuration.ofMonths w.totalMonths) ∧
      (¬ (w.IsSmall ∧ w.NoDays) →
        YearMonthDuration.read s = .error (.invalidLexical "year-month-duration" s))) ∧
    ((¬ ∃ w : Form, trim s = w.text) →
      DayTimeDuration.read s = .error (.invalidLexical "day-time-duration" s) ∧
      YearMonthDuration.read s = .error (.invalidLexical "year-month-duration" s)) := by
  refine ⟨fun w hw => ?_, fun hnone =>
    ⟨DayTimeDuration.read_of_no_form hnone, YearMonthDuration.read_of_no_form hnone⟩⟩
  obtain ⟨hdayTime, hnoDayTime⟩ := DayTimeDuration.read_text hw
  obtain ⟨hyearMonth, hnoYearMonth⟩ := YearMonthDuration.read_text hw
  exact ⟨Form.IsDayTime.noMonths, hdayTime, hnoDayTime, Form.IsYearMonth.noDays, hyearMonth,
    hnoYearMonth⟩

/-- A day and two and a half seconds, negative. -/
def sampleForm : Form where
  negative := true
  date := [⟨.days, ['1'], [], by decide, List.all_eq_true.mp rfl, List.all_eq_true.mp rfl,
    by decide⟩]
  time := [⟨.seconds, ['2'], ['5'], by decide, List.all_eq_true.mp rfl, List.all_eq_true.mp rfl,
    by decide⟩]
  isTime_of_mem_date := by decide
  isTime_of_mem_time := by decide
  ne_nil := by decide

theorem read_forms_of_day_and_seconds :
    trim "-P1DT2.5S".toList = sampleForm.text ∧ sampleForm.IsDayTime ∧ sampleForm.IsSmall ∧
      sampleForm.NoMonths ∧ sampleForm.totalNanoseconds = -86402500000000 ∧
      DayTimeDuration.read "-P1DT2.5S".toList
        = DayTimeDuration.ofNanoseconds sampleForm.totalNanoseconds := by
  have htext : trim "-P1DT2.5S".toList = sampleForm.text := by cbv
  have hdayTime : sampleForm.IsDayTime := ⟨by decide, by decide⟩
  have hsmall : sampleForm.IsSmall := by decide
  have hforms := (read_forms "-P1DT2.5S".toList).1 sampleForm htext
  have hmonths := hforms.1 hdayTime
  exact ⟨htext, hdayTime, hsmall, hmonths, by decide, hforms.2.1 ⟨hsmall, hmonths⟩⟩

/-- A letter that stands in a form, and is none of its marks, designates a unit. -/
theorem exists_unit_of_mem_text {w : Form} {x : Char} (hx : x ∈ w.text)
    (hdigit : isDigit x = false) (hmark : x ∉ ['-', 'P', 'T', '.']) :
    ∃ c ∈ w.components, c.unit.designator = x := by
  have htexts : ∀ cs : List Component, x ∈ cs.flatMap Component.text →
      ∃ c ∈ cs, c.unit.designator = x := by
    intro cs hmem
    obtain ⟨c, hc, hxc⟩ := List.mem_flatMap.mp hmem
    refine ⟨c, hc, ?_⟩
    rcases List.mem_append.mp hxc with hnumber | hdesignator
    · rcases c.isNumberChar_of_mem hnumber with hd | rfl
      · rw [hdigit] at hd
        cases hd
      · exact absurd hmark (by simp)
    · exact (List.mem_singleton.mp hdesignator).symm
  simp only [List.mem_cons, List.not_mem_nil, or_false, not_or] at hmark
  rw [Form.text] at hx
  rcases List.mem_append.mp hx with hsign | hx
  · split at hsign
    · exact absurd (List.mem_singleton.mp hsign) hmark.1
    · exact absurd hsign List.not_mem_nil
  · rcases List.mem_cons.mp hx with hP | hx
    · exact absurd hP hmark.2.1
    · rcases List.mem_append.mp hx with hdate | htime
      · obtain ⟨c, hc, hu⟩ := htexts _ hdate
        exact ⟨c, List.mem_append_left _ hc, hu⟩
      · split at htime
        · exact absurd htime List.not_mem_nil
        · rcases List.mem_cons.mp htime with hT | htime
          · exact absurd hT hmark.2.2.1
          · obtain ⟨c, hc, hu⟩ := htexts _ htime
            exact ⟨c, List.mem_append_right _ hc, hu⟩

/-- The smallest 32-bit number of months. -/
def smallestForm : Form where
  negative := true
  date := [⟨.months, "2147483648".toList, [], by decide, List.all_eq_true.mp rfl,
    List.all_eq_true.mp rfl, by decide⟩]
  time := []
  isTime_of_mem_date := by decide
  isTime_of_mem_time := by decide
  ne_nil := by decide

/-- The readers do not keep to the grammars of their types: no years at all are accepted in front of
a time of day, and the smallest 32-bit number of months is refused. -/
theorem read_beyond_grammar :
    (DayTimeDuration.read "P0YT1S".toList = .ok ⟨1000000000, by decide⟩ ∧
      ¬ ∃ w : Form, trim "P0YT1S".toList = w.text ∧ w.IsDayTime) ∧
    smallestForm.IsYearMonth ∧ smallestForm.totalMonths = -2147483648 ∧
      YearMonthDuration.read smallestForm.text = .error YearMonthDuration.overflow := by
  refine ⟨⟨by cbv, ?_⟩, ⟨by decide, by decide⟩, by decide, by cbv⟩
  rintro ⟨w, htext, hw⟩
  have htrim : trim "P0YT1S".toList = "P0YT1S".toList := by cbv
  have hY : 'Y' ∈ w.text := by
    rw [← htext, htrim]
    decide
  obtain ⟨c, hc, hu⟩ := exists_unit_of_mem_text hY (by decide) (by decide)
  have hne := (hw.unit_ne c hc).1
  cases hunit : c.unit <;> simp_all [CalendarUnit.designator]

end Duration

end TreePath
