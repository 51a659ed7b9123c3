/-
TreePath.Proofs.Calendar.Instant — what an instant leaves open about a date-time.

Days are counted without a gap and without a repetition, so a day number belongs to one date
(`Date.dayNumber_injective`). An instant keeps the day number, the second of the day and the
nanoseconds of a local date-time, all shifted by the zone: together with the zone it determines the
date-time (`DateTime.eq_of_instant_eq`), and without the zone it does not.
-/
import TreePath.Calendar.Date
import TreePath.Proofs.Calendar.DateRoundTrip

namespace TreePath

open Calendar

namespace Date

/-! ## Years that begin in March -/

/-- The year counted from March, so that January and February belong to the year before. -/
def marchYear (d : Date) : Int := if d.month ≤ 2 then d.year - 1 else d.year

/-- The month counted from March, which is 0. -/
def marchMonth (d : Date) : Int := if d.month ≤ 2 then d.month + 9 else (d.month : Int) - 3

/-- The number of days before the first of March of a year. -/
def daysBefore (year : Int) : Int := 365 * year + year / 4 - year / 100 + year / 400

/-- The number of days before a month, counted from the first of March. -/
def daysBeforeMonth (month : Int) : Int := (153 * month + 2) / 5

theorem dayNumber_eq (d : Date) :
    d.dayNumber
      = daysBefore d.marchYear + (daysBeforeMonth d.marchMonth + d.day - 1) - 719468 := by
  simp only [dayNumber, daysBefore, daysBeforeMonth, marchYear, marchMonth]
  generalize (if d.month ≤ 2 then d.year - 1 else d.year) = y
  omega

theorem daysBefore_mono {a b : Int} (h : a ≤ b) : daysBefore a ≤ daysBefore b := by
  simp only [daysBefore]
  omega

theorem daysBeforeMonth_mono {a b : Int} (h : a ≤ b) : daysBeforeMonth a ≤ daysBeforeMonth b := by
  simp only [daysBeforeMonth]
  omega

theorem isLeapYear_iff (year : Int) :
    isLeapYear year = true ↔ year % 4 = 0 ∧ (year % 100 ≠ 0 ∨ year % 400 = 0) := by
  simp [isLeapYear]

/-- A month ends before the next one begins, and the last one before the year ends. -/
theorem day_bounds (d : Date) :
    1 ≤ d.day ∧ 0 ≤ d.marchMonth ∧ d.marchMonth ≤ 11 ∧
      daysBeforeMonth d.marchMonth + d.day
        ≤ daysBefore (d.marchYear + 1) - daysBefore d.marchYear ∧
      (d.marchMonth < 11 →
        daysBeforeMonth d.marchMonth + d.day ≤ daysBeforeMonth (d.marchMonth + 1)) := by
  obtain ⟨hm1, hm12⟩ := d.month_le
  obtain ⟨hd1, hd⟩ := d.day_range
  have hleap := isLeapYear_iff d.year
  simp only [marchMonth, marchYear, daysBefore, daysBeforeMonth]
  generalize d.month = m at hm1 hm12 hd
  generalize d.day = day at hd1 hd
  generalize d.year = y at hd hleap
  have hcases : m = 1 ∨ m = 2 ∨ m = 3 ∨ m = 4 ∨ m = 5 ∨ m = 6 ∨ m = 7 ∨ m = 8 ∨ m = 9 ∨ m = 10 ∨
      m = 11 ∨ m = 12 := by omega
  rcases hcases with rfl | rfl | rfl | rfl | rfl | rfl | rfl | rfl | rfl | rfl | rfl | rfl
  case inr.inl =>
    simp only [daysInMonth] at hd
    split at hd
    · rename_i h
      have := hleap.mp h
      simp only [Nat.reduceLeDiff, if_true]
      omega
    · simp only [Nat.reduceLeDiff, if_true]
      omega
  all_goals
    simp only [daysInMonth] at hd
    simp only [Nat.reduceLeDiff, if_true, if_false]
    omega

/-- **Two dates with one day number are one date.** -/
theorem dayNumber_injective {a b : Date} (h : a.dayNumber = b.dayNumber) : a = b := by
  obtain ⟨ha1, ha0, ha11, haYear, haMonth⟩ := a.day_bounds
  obtain ⟨hb1, hb0, hb11, hbYear, hbMonth⟩ := b.day_bounds
  rw [dayNumber_eq, dayNumber_eq] at h
  have hstart : ∀ {m : Int}, 0 ≤ m → 0 ≤ daysBeforeMonth m := by
    intro m hm
    simp only [daysBeforeMonth]
    omega
  have ha' := hstart ha0
  have hb' := hstart hb0
  have hyear : a.marchYear = b.marchYear := by
    rcases Int.lt_trichotomy a.marchYear b.marchYear with hlt | heq | hlt
    · have := daysBefore_mono (a := a.marchYear + 1) (b := b.marchYear) hlt
      omega
    · exact heq
    · have := daysBefore_mono (a := b.marchYear + 1) (b := a.marchYear) hlt
      omega
  rw [hyear] at h
  have hmonth : a.marchMonth = b.marchMonth := by
    rcases Int.lt_trichotomy a.marchMonth b.marchMonth with hlt | heq | hlt
    · have := daysBeforeMonth_mono (a := a.marchMonth + 1) (b := b.marchMonth) hlt
      have := haMonth (by omega)
      omega
    · exact heq
    · have := daysBeforeMonth_mono (a := b.marchMonth + 1) (b := a.marchMonth) hlt
      have := hbMonth (by omega)
      omega
  rw [hmonth] at h
  have hday : a.day = b.day := by omega
  obtain ⟨ham1, ham12⟩ := a.month_le
  obtain ⟨hbm1, hbm12⟩ := b.month_le
  simp only [marchMonth, marchYear] at hmonth hyear
  obtain ⟨ya, ma, da, _, _⟩ := a
  obtain ⟨yb, mb, db, _, _⟩ := b
  simp only at ham1 ham12 hbm1 hbm12 hmonth hyear hday
  have hm : ma = mb := by
    split at hmonth <;> split at hmonth <;> omega
  subst hm hday
  have hy : ya = yb := by
    split at hyear <;> omega
  subst hy
  rfl

end Date

/-! ## Times of day -/

namespace TimeOfDay

theorem secondOfDay_lt (t : TimeOfDay) : t.secondOfDay < 86400 := by
  have hh := t.hour_lt
  have hm := t.minute_lt
  have hs := t.second_le
  simp only [secondOfDay]
  split <;> omega

/-- The nanoseconds tell a leap second from the second before it. -/
theorem eq_of_secondOfDay_eq {a b : TimeOfDay} (hs : a.secondOfDay = b.secondOfDay)
    (hn : a.nanosWithLeap = b.nanosWithLeap) : a = b := by
  obtain ⟨ha, ma, sa, na, hha, hma, hsa, hna⟩ := a
  obtain ⟨hb, mb, sb, nb, hhb, hmb, hsb, hnb⟩ := b
  simp only [secondOfDay, nanosWithLeap] at hs hn
  have hleap : (sa = 60 ↔ sb = 60) ∧ na = nb := by
    split at hn <;> split at hn <;> constructor <;> omega
  obtain ⟨hleap, rfl⟩ := hleap
  have hsecond : sa = sb := by
    split at hs <;> split at hs <;> omega
  subst hsecond
  have hminute : ma = mb ∧ ha = hb := by
    split at hs <;> omega
  obtain ⟨rfl, rfl⟩ := hminute
  rfl

end TimeOfDay

/-! ## Instants -/

namespace DateTime

/-- **In one zone an instant belongs to one local date-time.** -/
theorem eq_of_instant_eq {a b : DateTime} {zone : Zone}
    (h : a.instant (some zone) = b.instant (some zone)) : a = b := by
  obtain ⟨da, ta⟩ := a
  obtain ⟨db, tb⟩ := b
  simp only [instant, Instant.mk.injEq] at h
  obtain ⟨hseconds, hnanos⟩ := h
  have ha := ta.secondOfDay_lt
  have hb := tb.secondOfDay_lt
  have hday : da.dayNumber = db.dayNumber := by omega
  have htime : ta.secondOfDay = tb.secondOfDay := by omega
  rw [Date.dayNumber_injective hday, TimeOfDay.eq_of_secondOfDay_eq htime hnanos]

end DateTime

end TreePath
