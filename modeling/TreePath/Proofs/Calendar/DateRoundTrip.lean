/-
TreePath.Proofs.Calendar.DateRoundTrip — dates and date-times are read back from their written
forms.

Each reader takes a field off the front and leaves the rest alone, so a written field followed by
anything is read as the field and that rest (`field_padZeros`, `year_writeYear`, `fraction_write`).
The readers of dates and of times of day follow (`date_write`, `time_write`), and with the zone
split off first the round trips `Date.readZoned_write` and `DateTime.readZoned_write`. Leap seconds,
years before 0 and after 9999 and fractions of any length are covered.
-/
import TreePath.Calendar.DateText
import TreePath.Proofs.Calendar.ZoneRoundTrip

namespace TreePath

open TreePath.Text

/-! ## Fields -/

namespace DateReader

/-- Digits of the full width are taken, whatever follows them. -/
theorem number_width {w : Nat} {ds : List Char} (rest : List Char) (hw : ds.length = w)
    (hne : ds ≠ [])
    (hd : ∀ c ∈ ds, isDigit c = true) :
    number (some w) (ds ++ rest) = some (digitsValue ds, rest) := by
  subst hw
  have htake : ((ds ++ rest).take ds.length).takeWhile isDigit = ds := by
    rw [List.take_left]
    simpa using takeWhile_digits hd noDigit_nil
  simp only [number]
  rw [htake, List.drop_left]
  simp [hne]

/-- Digits without a bound on their number are taken up to the first other character. -/
theorem number_none {ds rest : List Char} (hne : ds ≠ []) (hd : ∀ c ∈ ds, isDigit c = true)
    (hr : NoDigit rest) : number none (ds ++ rest) = some (digitsValue ds, rest) := by
  simp only [number]
  rw [takeWhile_digits hd hr, List.drop_left]
  simp [hne]

theorem trimStart_of_isDigit {c : Char} {rest : List Char} (hc : isDigit c = true) :
    trimStart (c :: rest) = c :: rest := by
  simp [trimStart, not_white_of_isDigit hc]

theorem field_padZeros {n : Nat} (h : n < 100) (rest : List Char) :
    field (padZeros 2 (natDigits n) ++ rest) = some (n, rest) := by
  have hnumber := number_width rest (length_padZeros (w := 2) (by decide) h)
    (padZeros_ne_nil 2 n) fun _ => isDigit_of_mem_padZeros
  obtain ⟨a, b, hab, ha, -⟩ := padZeros_two h
  rw [field]
  rw [hab] at hnumber ⊢
  rw [List.cons_append, trimStart_of_isDigit ha, ← List.cons_append, hnumber, ← hab,
    digitsValue_padZeros, digitsValue_natDigits]

/-- A year of four digits needs no sign; with a sign it may have any number of digits. -/
theorem year_writeYear (y : Int) {rest : List Char} (hr : NoDigit rest) :
    year (Date.writeYear y ++ rest) = some (y, rest) := by
  have hvalue : digitsValue (padZeros 4 (natDigits y.natAbs)) = y.natAbs := by
    rw [digitsValue_padZeros, digitsValue_natDigits]
  have hlong := number_none (padZeros_ne_nil 4 y.natAbs) (fun _ => isDigit_of_mem_padZeros) hr
  rw [hvalue] at hlong
  rw [Date.writeYear]
  split
  · rename_i hy
    have hshort := number_width rest
      (length_padZeros (w := 4) (n := y.natAbs) (by decide) (by omega))
      (padZeros_ne_nil 4 y.natAbs) fun _ => isDigit_of_mem_padZeros
    rw [hvalue] at hshort
    have hpos : (y.natAbs : Int) = y := by omega
    cases hds : padZeros 4 (natDigits y.natAbs) with
    | nil => exact absurd hds (padZeros_ne_nil 4 y.natAbs)
    | cons c ds =>
      have hc : isDigit c = true := isDigit_of_mem_padZeros (by rw [hds]; simp)
      rw [hds] at hshort
      rw [List.cons_append] at hshort ⊢
      rw [year, trimStart_of_isDigit hc]
      split
      · exact absurd hc (by rename_i heq; cases heq; decide)
      · exact absurd hc (by rename_i heq; cases heq; decide)
      · rw [hshort]
        exact congrArg (fun i => some (i, rest)) hpos
  · rename_i hy
    by_cases hneg : y < 0
    · have habs : -(y.natAbs : Int) = y := by omega
      rw [if_pos hneg, List.cons_append, year]
      simp only [show trimStart ('-' :: (padZeros 4 (natDigits y.natAbs) ++ rest))
        = '-' :: (padZeros 4 (natDigits y.natAbs) ++ rest) from rfl, hlong]
      exact congrArg (fun i => some (i, rest)) habs
    · have habs : (y.natAbs : Int) = y := by omega
      rw [if_neg hneg, List.cons_append, year]
      simp only [show trimStart ('+' :: (padZeros 4 (natDigits y.natAbs) ++ rest))
        = '+' :: (padZeros 4 (natDigits y.natAbs) ++ rest) from rfl, hlong]
      exact congrArg (fun i => some (i, rest)) habs

theorem expect_cons (c : Char) (rest : List Char) : expect c (c :: rest) = some rest := by
  simp [expect]

/-! ## Dates -/

end DateReader

theorem Date.month_le (d : Date) : 1 ≤ d.month ∧ d.month ≤ 12 := by
  obtain ⟨y, m, day, _, h⟩ := d
  have hpos : Calendar.daysInMonth y m ≠ 0 := by have := h; omega
  rw [Calendar.daysInMonth.eq_def] at hpos
  split at hpos
  all_goals first | exact absurd rfl hpos | simp

theorem Date.day_le (d : Date) : 1 ≤ d.day ∧ d.day ≤ 31 := by
  have hle : Calendar.daysInMonth d.year d.month ≤ 31 := by
    rw [Calendar.daysInMonth.eq_def]
    split
    all_goals first | decide | (split <;> decide)
  exact ⟨d.day_range.1, Nat.le_trans d.day_range.2 hle⟩

theorem Date.ofFields?_self (d : Date) : Date.ofFields? d.year d.month d.day = some d := by
  rw [Date.ofFields?, dif_pos ⟨d.year_range, d.day_range⟩]

/-- A written date is read, and what follows is left. -/
theorem DateReader.date_write (d : Date) (rest : List Char) :
    DateReader.date (d.write ++ rest) = some ((d.year, d.month, d.day), rest) := by
  have hm := d.month_le
  have hday := d.day_le
  have htext : d.write ++ rest = Date.writeYear d.year ++ '-' :: (padZeros 2 (natDigits d.month)
      ++ '-' :: (padZeros 2 (natDigits d.day) ++ rest)) := by
    simp [Date.write]
  rw [htext, DateReader.date, DateReader.year_writeYear _ (noDigit_cons (by decide))]
  simp only [Option.bind_eq_bind, Option.bind_some, DateReader.expect_cons,
    DateReader.field_padZeros (n := d.month) (by omega),
    DateReader.field_padZeros (n := d.day) (by omega)]

theorem Date.read?_write (d : Date) : Date.read? d.write = some d := by
  have h := DateReader.date_write d []
  rw [List.append_nil] at h
  rw [Date.read?, h]
  exact d.ofFields?_self

/-! ## Times of day -/

theorem TimeOfDay.ofFields?_self (t : TimeOfDay) :
    TimeOfDay.ofFields? t.hour t.minute t.second t.nanosecond = some t := by
  rw [TimeOfDay.ofFields?, dif_pos ⟨t.hour_lt, t.minute_lt, t.second_le, t.nanosecond_lt⟩]

/-- At most nine digits stand for nanoseconds as if zeros followed. -/
theorem DateReader.fraction_digits {ds : List Char} (hne : ds ≠ []) (hlen : ds.length ≤ 9)
    (hd : ∀ c ∈ ds, isDigit c = true) :
    DateReader.fraction ('.' :: ds) = some (10 ^ (9 - ds.length) * digitsValue ds, []) := by
  have htake : (ds.take 9).takeWhile isDigit = ds := by
    rw [List.take_of_length_le hlen]
    simpa using takeWhile_digits hd noDigit_nil
  simp only [DateReader.fraction]
  rw [htake, List.drop_length, DateReader.nanoseconds, digitsValue_append,
    digitsValue_replicate_zero]
  simp [hne]

theorem DateReader.fraction_padZeros {w n : Nat} (hw : 0 < w) (hw9 : w ≤ 9) (hn : n < 10 ^ w) :
    DateReader.fraction ('.' :: padZeros w (natDigits n)) = some (10 ^ (9 - w) * n, []) := by
  have hlen := length_padZeros hw hn
  rw [DateReader.fraction_digits (padZeros_ne_nil w n) (by rw [hlen]; exact hw9)
    fun _ => isDigit_of_mem_padZeros, hlen, digitsValue_padZeros, digitsValue_natDigits]

theorem DateReader.fraction_write {n : Nat} (hn : n < nanosPerSecond) :
    DateReader.fraction (TimeOfDay.writeFraction n) = some (n, []) := by
  simp only [nanosPerSecond] at hn
  rw [TimeOfDay.writeFraction]
  split
  · rename_i h0; rw [h0]; rfl
  · split
    · rename_i hmilli
      rw [DateReader.fraction_padZeros (by decide) (by decide) (by omega)]
      have : 10 ^ (9 - 3) * (n / 1000000) = n := by omega
      rw [this]
    · split
      · rename_i hmicro
        rw [DateReader.fraction_padZeros (by decide) (by decide) (by omega)]
        have : 10 ^ (9 - 6) * (n / 1000) = n := by omega
        rw [this]
      · rw [DateReader.fraction_padZeros (by decide) (by decide) (by omega)]
        have : 10 ^ (9 - 9) * n = n := by omega
        rw [this]

theorem DateReader.time_write (t : TimeOfDay) :
    DateReader.time t.write = some ((t.hour, t.minute, t.second, t.nanosecond), []) := by
  have hh := t.hour_lt
  have hm := t.minute_lt
  have hs := t.second_le
  have htext : t.write = padZeros 2 (natDigits t.hour) ++ ':' :: (padZeros 2 (natDigits t.minute)
      ++ ':' :: (padZeros 2 (natDigits t.second) ++ TimeOfDay.writeFraction t.nanosecond)) := by
    simp [TimeOfDay.write]
  rw [htext, DateReader.time, DateReader.field_padZeros (by omega)]
  simp only [Option.bind_eq_bind, Option.bind_some, DateReader.expect_cons,
    DateReader.field_padZeros (n := t.minute) (by omega),
    DateReader.field_padZeros (n := t.second) (by omega),
    DateReader.fraction_write t.nanosecond_lt]

theorem DateTime.read?_write (t : DateTime) : DateTime.read? t.write = some t := by
  rw [DateTime.read?, DateTime.write, DateReader.date_write]
  simp only [Option.bind_eq_bind, Option.bind_some, DateReader.expect_cons,
    DateReader.time_write, List.isEmpty_nil, if_true, Date.ofFields?_self,
    TimeOfDay.ofFields?_self]

/-! ## The end of a written form -/

theorem Date.split_write (d : Date) : Zone.split d.write = .unzoned d.write := by
  have hday := d.day_le
  obtain ⟨a, b, hab, ha, hb⟩ := padZeros_two (n := d.day) (by omega)
  have htext : d.write = (Date.writeYear d.year ++ '-' :: padZeros 2 (natDigits d.month))
      ++ ['-', a, b] := by
    rw [Date.write, hab]
  rw [htext]
  exact Zone.split_mark (by decide) ha hb

/-- A fraction ends in at least three digits. -/
theorem TimeOfDay.writeFraction_cases (n : Nat) (hn : n < nanosPerSecond) :
    TimeOfDay.writeFraction n = [] ∨
      ∃ front a b c, TimeOfDay.writeFraction n = front ++ [a, b, c] ∧
        isDigit a = true ∧ isDigit b = true ∧ isDigit c = true := by
  have hthree : ∀ w k, 3 ≤ w → k < 10 ^ w → ∃ front a b c,
      '.' :: padZeros w (natDigits k) = front ++ [a, b, c] ∧
        isDigit a = true ∧ isDigit b = true ∧ isDigit c = true := by
    intro w k hw hk
    have hlen := length_padZeros (by omega) hk
    have hdrop : ((padZeros w (natDigits k)).drop (w - 3)).length = 3 := by
      rw [List.length_drop, hlen]; omega
    obtain ⟨a, b, c, habc⟩ := List.length_eq_three.mp hdrop
    have hd : ∀ x ∈ [a, b, c], isDigit x = true := by
      intro x hx
      rw [← habc] at hx
      exact isDigit_of_mem_padZeros (List.mem_of_mem_drop hx)
    refine ⟨'.' :: (padZeros w (natDigits k)).take (w - 3), a, b, c, ?_, hd a (by simp),
      hd b (by simp), hd c (by simp)⟩
    rw [← habc, List.cons_append, List.take_append_drop]
  simp only [nanosPerSecond] at hn
  rw [TimeOfDay.writeFraction]
  split
  · exact .inl rfl
  · right
    split
    · exact hthree 3 _ (by decide) (by omega)
    · split
      · exact hthree 6 _ (by decide) (by omega)
      · exact hthree 9 _ (by decide) (by omega)

theorem DateTime.split_write (t : DateTime) : Zone.split t.write = .unzoned t.write := by
  have hm := t.time.minute_lt
  have hs := t.time.second_le
  obtain ⟨a, b, hab, ha, hb⟩ := padZeros_two (n := t.time.minute) (by omega)
  obtain ⟨c, d, hcd, hc, hd⟩ := padZeros_two (n := t.time.second) (by omega)
  have htext : t.write = (t.date.write ++ 'T' :: padZeros 2 (natDigits t.time.hour))
      ++ [':', a, b, ':', c, d] ++ TimeOfDay.writeFraction t.time.nanosecond := by
    simp [DateTime.write, TimeOfDay.write, hab, hcd]
  rw [htext]
  rcases TimeOfDay.writeFraction_cases t.time.nanosecond t.time.nanosecond_lt with
    h | ⟨front, x, y, z, h, hx, hy, hz⟩
  · rw [h, List.append_nil]
    exact Zone.split_clock ha hb hc hd
  · rw [h, ← List.append_assoc]
    exact Zone.split_digits hx hy hz

/-! ## Only printing characters -/

theorem isGraphic_of_mem_padZeros {w n : Nat} {c : Char} (h : c ∈ padZeros w (natDigits n)) :
    IsGraphic c :=
  isGraphic_of_isDigit (isDigit_of_mem_padZeros h)

theorem Date.isGraphic_of_mem_write {d : Date} {c : Char} (h : c ∈ d.write) : IsGraphic c := by
  simp only [Date.write, Date.writeYear, List.mem_append, List.mem_cons] at h
  rcases h with (h | rfl | h) | rfl | h
  · split at h
    · exact isGraphic_of_mem_padZeros h
    · rcases List.mem_cons.mp h with rfl | h
      · split <;> decide
      · exact isGraphic_of_mem_padZeros h
  · decide
  · exact isGraphic_of_mem_padZeros h
  · decide
  · exact isGraphic_of_mem_padZeros h

theorem TimeOfDay.isGraphic_of_mem_writeFraction {n : Nat} {c : Char}
    (h : c ∈ TimeOfDay.writeFraction n) : IsGraphic c := by
  have hpoint : ∀ {w k : Nat}, c ∈ '.' :: padZeros w (natDigits k) → IsGraphic c := by
    intro w k hc
    rcases List.mem_cons.mp hc with rfl | hc
    · decide
    · exact isGraphic_of_mem_padZeros hc
  rw [TimeOfDay.writeFraction] at h
  split at h
  · exact absurd h List.not_mem_nil
  · split at h
    · exact hpoint h
    · split at h
      · exact hpoint h
      · exact hpoint h

theorem DateTime.isGraphic_of_mem_write {t : DateTime} {c : Char} (h : c ∈ t.write) :
    IsGraphic c := by
  simp only [DateTime.write, TimeOfDay.write, List.mem_append, List.mem_cons] at h
  rcases h with h | rfl | ((h | rfl | h) | rfl | h) | h
  · exact Date.isGraphic_of_mem_write h
  · decide
  · exact isGraphic_of_mem_padZeros h
  · decide
  · exact isGraphic_of_mem_padZeros h
  · decide
  · exact isGraphic_of_mem_padZeros h
  · exact TimeOfDay.isGraphic_of_mem_writeFraction h

/-! ## With a zone -/

theorem trim_zoned {body : List Char} (hg : ∀ c ∈ body, IsGraphic c) (zone : Option Zone) :
    trim (body ++ Zone.writeOptional zone) = body ++ Zone.writeOptional zone := by
  refine trim_of_graphic fun c hc => ?_
  rcases List.mem_append.mp hc with h | h
  · exact hg c h
  · exact Zone.isGraphic_of_mem_writeOptional h

/-- A body that is read back and is not taken for a zone is read back in front of a zone, or of
none. -/
theorem readZoned_append {α : Type} {form : String} {read : List Char → Option α}
    {body : List Char} {value : α} (hread : read body = some value)
    (hsplit : Zone.split body = .unzoned body) (hg : ∀ c ∈ body, IsGraphic c)
    (zone : Option Zone) :
    readZoned form read (body ++ Zone.writeOptional zone) = .ok (value, zone) := by
  have htrim := trim_zoned hg zone
  cases zone with
  | none =>
    rw [Zone.writeOptional, List.append_nil] at htrim ⊢
    simp only [readZoned, htrim, hsplit, hread]
  | some z =>
    rw [Zone.writeOptional] at htrim ⊢
    simp only [readZoned, htrim, Zone.split_write, hread]

/-- **A written date is read back, with its zone or without one.** -/
theorem Date.readZoned_write (d : Date) (zone : Option Zone) :
    Date.readZoned (d.write ++ Zone.writeOptional zone) = .ok (d, zone) :=
  readZoned_append d.read?_write d.split_write (fun _ => Date.isGraphic_of_mem_write) zone

/-- **A written date-time is read back, with its zone or without one.** -/
theorem DateTime.readZoned_write (t : DateTime) (zone : Option Zone) :
    DateTime.readZoned (t.write ++ Zone.writeOptional zone) = .ok (t, zone) :=
  readZoned_append t.read?_write t.split_write (fun _ => DateTime.isGraphic_of_mem_write) zone

end TreePath
