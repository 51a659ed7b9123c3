/-
TreePath.Proofs.Calendar.DurationRoundTrip — durations are read back from their written forms.

The reader collects the digits of a component until it meets the designator. `readParts_component`
is that step for one component, `readParts_optional` the step for one that is written only when it
is not zero. A written duration is a chain of such components, so reading it gives the parts it was
taken apart into, and the parts add up to the duration.

A year-month duration of -2^31 months has a written form that the reader refuses as an overflow; the
round trip is stated below that bound.
-/
import TreePath.Calendar.Duration
import TreePath.Proofs.Text.Cutting
import TreePath.Proofs.Text.Digits

namespace TreePath

open TreePath.Text

namespace Duration

/-! ## One component -/

/-- The characters that a component is written with before its designator. -/
def IsNumberChar (c : Char) : Prop := isDigit c = true ∨ c = '.'

theorem readParts_number : ∀ (number : List Char) (p : Progress) (rest : List Char),
    (∀ c ∈ number, IsNumberChar c) →
    readParts p (number ++ rest) = readParts { p with pending := p.pending ++ number } rest
  | [], p, rest, _ => by simp
  | c :: number, p, rest, h => by
      have hc : (isDigit c || decide (c = '.')) = true := by
        rcases h c (by simp) with hd | rfl
        · rw [hd, Bool.true_or]
        · rfl
      rw [List.cons_append, readParts.eq_def]
      simp only [hc, if_true]
      rw [readParts_number number _ rest fun x hx => h x (by simp [hx])]
      simp [List.append_assoc]

/-- A designator ends a component and starts the next one. -/
theorem readParts_component {parts parts' : Parts} {inTime any anyTime : Bool}
    {number : List Char} {designator : Char} (rest : List Char)
    (hn : ∀ c ∈ number, IsNumberChar c) (hdesignator : designator ∈ ['Y', 'M', 'D', 'H', 'S'])
    (hparts : component? parts inTime designator number = some parts') :
    readParts ⟨parts, [], inTime, any, anyTime⟩ (number ++ designator :: rest)
      = readParts ⟨parts', [], inTime, true, anyTime || inTime⟩ rest := by
  have hmark : (isDigit designator || decide (designator = '.')) = false ∧
      decide (designator = 'T') = false := by
    simp only [List.mem_cons, List.not_mem_nil, or_false] at hdesignator
    rcases hdesignator with rfl | rfl | rfl | rfl | rfl <;> exact ⟨rfl, rfl⟩
  rw [readParts_number number _ _ hn, readParts.eq_def]
  simp only [List.nil_append, hmark.1, hmark.2, Bool.false_and, Bool.false_eq_true, if_false,
    hparts]

theorem readParts_designateTime {parts : Parts} {any anyTime : Bool} (rest : List Char) :
    readParts ⟨parts, [], false, any, anyTime⟩ ('T' :: rest)
      = readParts ⟨parts, [], true, any, anyTime⟩ rest := by
  rw [readParts.eq_def]
  rfl

theorem isNumberChar_natDigits {n : Nat} {c : Char} (h : c ∈ natDigits n) : IsNumberChar c :=
  .inl (isDigit_of_mem_natDigits h)

theorem whole?_natDigits {n : Nat} (h : n < componentBound) : whole? (natDigits n) = some n := by
  rw [whole?, readNat_natDigits, Option.bind_some, if_pos h]

theorem point_not_mem_digits {ds : List Char} (hd : ∀ c ∈ ds, isDigit c = true) :
    ds.contains '.' = false := by
  have hnot : '.' ∉ ds := fun h => absurd (hd '.' h) (by decide)
  simpa using hnot

/-- A component that is written only when it is not zero. -/
theorem readParts_optional {parts : Parts} {inTime any anyTime : Bool} (set : Nat → Parts)
    {n : Nat} {designator : Char} (rest : List Char) (hn : n < componentBound)
    (hdesignator : designator ∈ ['Y', 'M', 'D', 'H', 'S']) (hzero : set 0 = parts)
    (hset : component? parts inTime designator (natDigits n) = (whole? (natDigits n)).map set) :
    readParts ⟨parts, [], inTime, any, anyTime⟩
        ((if 0 < n then natDigits n ++ [designator] else []) ++ rest)
      = readParts ⟨set n, [], inTime, any || decide (0 < n),
          anyTime || (inTime && decide (0 < n))⟩ rest := by
  rw [whole?_natDigits hn, Option.map_some] at hset
  by_cases h : 0 < n
  · rw [if_pos h, List.append_assoc, List.singleton_append,
      readParts_component rest (fun _ => isNumberChar_natDigits) hdesignator hset]
    simp [h]
  · have hn0 : n = 0 := by omega
    subst hn0
    simp [hzero]

/-- A component of digits alone is none of the cases that are refused. -/
theorem component?_natDigits (parts : Parts) (inTime : Bool) (designator : Char) (n : Nat) :
    component? parts inTime designator (natDigits n)
      = match inTime, designator with
        | false, 'Y' => (whole? (natDigits n)).map fun n => { parts with years := n }
        | false, 'M' => (whole? (natDigits n)).map fun n => { parts with months := n }
        | false, 'D' => (whole? (natDigits n)).map fun n => { parts with days := n }
        | true, 'H' => (whole? (natDigits n)).map fun n => { parts with hours := n }
        | true, 'M' => (whole? (natDigits n)).map fun n => { parts with minutes := n }
        | true, 'S' => seconds? parts (natDigits n)
        | _, _ => none := by
  have hne : (natDigits n).isEmpty = false := by simp [natDigits_ne_nil]
  have hpoint : (natDigits n).contains '.' = false :=
    point_not_mem_digits fun _ => isDigit_of_mem_natDigits
  rw [component?.eq_def]
  refine (if_neg (by simp [hne])).trans (if_neg ?_)
  rw [hpoint, Bool.false_and]
  exact Bool.false_ne_true

/-! ## Seconds with a fraction -/

theorem cutFirst_digits {sep : Char} {ds rest : List Char} (hd : ∀ c ∈ ds, isDigit c = true)
    (hsep : isDigit sep = false) : cutFirst sep (ds ++ sep :: rest) = some (ds, rest) :=
  cutFirst_eq_some_iff.mpr ⟨rfl, fun hmem => by simp [hd sep hmem] at hsep⟩

/-- The fraction of a second in as few digits as it takes. -/
def fractionDigits (nanos : Nat) : List Char := trimTrailingZeros (padZeros 9 (natDigits nanos))

theorem mem_of_mem_trimTrailingZeros {c : Char} {ds : List Char}
    (h : c ∈ trimTrailingZeros ds) : c ∈ ds := by
  rw [← trimTrailingZeros_append ds]
  exact List.mem_append_left _ h

theorem isDigit_of_mem_fractionDigits {nanos : Nat} {c : Char} (h : c ∈ fractionDigits nanos) :
    isDigit c = true :=
  isDigit_of_mem_padZeros (mem_of_mem_trimTrailingZeros h)

/-- The zeros dropped at the end are those that the reader fills up with. -/
theorem nanoseconds_fractionDigits {nanos : Nat} (h : nanos < nanosPerSecond) :
    DateReader.nanoseconds ((fractionDigits nanos).take 9) = nanos := by
  have hpad := length_padZeros (w := 9) (n := nanos) (by decide) h
  have hback := trimTrailingZeros_append (padZeros 9 (natDigits nanos))
  have hlen := congrArg List.length hback
  rw [hpad] at hback hlen
  simp only [List.length_append] at hlen
  rw [fractionDigits, List.take_of_length_le (by omega), DateReader.nanoseconds, hback,
    digitsValue_padZeros, digitsValue_natDigits]

theorem fractionDigits_ne_nil {nanos : Nat} (h : nanos < nanosPerSecond) (hpos : 0 < nanos) :
    fractionDigits nanos ≠ [] := by
  intro hnil
  have hvalue := nanoseconds_fractionDigits h
  rw [hnil] at hvalue
  have : (0 : Nat) = nanos := hvalue
  omega

theorem seconds?_natDigits {parts : Parts} {n : Nat} (h : n < componentBound) :
    seconds? parts (natDigits n) = some { parts with seconds := n } := by
  have hpoint : (natDigits n).contains '.' = false :=
    point_not_mem_digits fun _ => isDigit_of_mem_natDigits
  rw [seconds?, cutFirst_eq_none_iff.mpr (by simpa using hpoint), whole?_natDigits h]
  rfl

theorem component?_seconds_fraction {parts : Parts} {n nanos : Nat} (hn : n < componentBound)
    (h : nanos < nanosPerSecond) (hpos : 0 < nanos) :
    component? parts true 'S' (natDigits n ++ '.' :: fractionDigits nanos)
      = some { parts with seconds := n, nanoseconds := nanos } := by
  have hne : (natDigits n).isEmpty = false := by simp [natDigits_ne_nil]
  have hfne : (fractionDigits nanos).isEmpty = false := by simp [fractionDigits_ne_nil h hpos]
  have hpoint : (fractionDigits nanos).contains '.' = false :=
    point_not_mem_digits fun _ => isDigit_of_mem_fractionDigits
  have hseconds : seconds? parts (natDigits n ++ '.' :: fractionDigits nanos)
      = some { parts with seconds := n, nanoseconds := nanos } := by
    rw [seconds?, cutFirst_digits (fun _ => isDigit_of_mem_natDigits) (by decide)]
    simp only [hne, hfne, hpoint, whole?_natDigits hn, nanoseconds_fractionDigits h,
      Bool.or_false, Bool.false_eq_true, if_false]
    rfl
  rw [component?.eq_def]
  simp [hseconds]

/-! ## The sign -/

theorem read?_of_graphic (negative : Bool) {body : List Char} {parts : Parts}
    (hg : ∀ c ∈ body, IsGraphic c) (hbody : readParts {} body = some parts) :
    read? ((if negative = true then ['-'] else []) ++ 'P' :: body) = some (negative, parts) := by
  have hP : IsGraphic 'P' := by decide
  have hminus : IsGraphic '-' := by decide
  have htrim : trim ((if negative = true then ['-'] else []) ++ 'P' :: body)
      = (if negative = true then ['-'] else []) ++ 'P' :: body := by
    refine trim_of_graphic fun c hc => ?_
    cases negative with
    | false =>
      rcases List.mem_cons.mp hc with rfl | hc
      · exact hP
      · exact hg c hc
    | true =>
      rcases List.mem_cons.mp hc with rfl | hc
      · exact hminus
      · rcases List.mem_cons.mp hc with rfl | hc
        · exact hP
        · exact hg c hc
  rw [read?, htrim]
  cases negative with
  | false => simp [hbody]
  | true => simp [hbody]

end Duration

open Duration

/-! ## Years and months -/

theorem isGraphic_of_mem_optional {n : Nat} {designator c : Char} (hd : IsGraphic designator)
    (h : c ∈ if 0 < n then natDigits n ++ [designator] else []) : IsGraphic c := by
  split at h
  · rcases List.mem_append.mp h with h | h
    · exact isGraphic_of_isDigit (isDigit_of_mem_natDigits h)
    · rw [List.mem_singleton.mp h]; exact hd
  · exact absurd h List.not_mem_nil

namespace YearMonthDuration

theorem readParts_written {n : Nat} (hpos : 0 < n) (h : n < monthsBound) :
    readParts {} ((if 0 < n / 12 then natDigits (n / 12) ++ ['Y'] else []) ++
        (if 0 < n % 12 then natDigits (n % 12) ++ ['M'] else []))
      = some { years := n / 12, months := n % 12 } := by
  have hbound : n < componentBound := Nat.lt_trans h (by decide)
  rw [readParts_optional (fun k => { years := k }) _ (by omega) (by simp) rfl
      (component?_natDigits _ _ _ _),
    ← List.append_nil (if 0 < n % 12 then natDigits (n % 12) ++ ['M'] else []),
    readParts_optional (fun k => { years := n / 12, months := k }) _ (by omega) (by simp) rfl
      (component?_natDigits _ _ _ _), readParts]
  have hany : 0 < n / 12 ∨ 0 < n % 12 := by omega
  simp only [Bool.false_or, List.isEmpty_nil, Bool.true_and, Bool.not_false, Bool.true_or,
    Bool.and_true, Bool.or_eq_true, decide_eq_true_eq]
  rw [if_pos hany]

/-- **A written number of months is read back.** -/
theorem read_write {months : Int32} (h : months.toInt.natAbs < monthsBound) :
    read (write months) = .ok months := by
  rw [write]
  split
  · rename_i h0; rw [h0]; rfl
  · rename_i h0
    have hne : months.toInt ≠ 0 := fun hz => h0 (Int32.toInt_inj.mp (by simpa using hz))
    have hparts := readParts_written (n := months.toInt.natAbs) (by omega) h
    have hread := read?_of_graphic (decide (months.toInt < 0)) (fun c hc => by
      rcases List.mem_append.mp hc with hc | hc
      · exact isGraphic_of_mem_optional (by decide) hc
      · exact isGraphic_of_mem_optional (by decide) hc) hparts
    simp only [decide_eq_true_eq] at hread
    simp only [read, hread]
    have hmonths : 12 * (months.toInt.natAbs / 12) + months.toInt.natAbs % 12
        = months.toInt.natAbs := by omega
    rw [if_neg (by simp), hmonths, if_pos h]
    have hsigned : (if decide (months.toInt < 0) = true then -(months.toInt.natAbs : Int)
        else months.toInt.natAbs) = months.toInt := by
      by_cases hneg : months.toInt < 0
      · simp only [hneg, decide_true, if_true]; omega
      · simp only [hneg, decide_false, Bool.false_eq_true, if_false]; omega
    rw [hsigned, Int32.ofInt_toInt]

theorem isGraphic_of_mem_write {months : Int32} {c : Char}
    (h : c ∈ write months) : IsGraphic c := by
  rw [write] at h
  split at h
  · exact isGraphic_of_all (s := "P0M".toList) (by decide) h
  · rcases List.mem_append.mp h with h | h
    · split at h
      · rw [List.mem_singleton.mp h]; decide
      · exact absurd h List.not_mem_nil
    · rcases List.mem_cons.mp h with rfl | h
      · decide
      · rcases List.mem_append.mp h with h | h
        · exact isGraphic_of_mem_optional (by decide) h
        · exact isGraphic_of_mem_optional (by decide) h

end YearMonthDuration

/-! ## Days and times -/

namespace DayTimeDuration

/-- The seconds of a written duration: with a fraction, without one, or not at all. -/
def writeSeconds (seconds nanos : Nat) : List Char :=
  if 0 < nanos then natDigits seconds ++ '.' :: fractionDigits nanos ++ ['S']
  else if 0 < seconds then natDigits seconds ++ ['S']
  else []

theorem readParts_writeSeconds {parts : Parts} {any anyTime : Bool} {seconds nanos : Nat}
    (hs : seconds < componentBound) (hn : nanos < nanosPerSecond)
    (hseconds : parts.seconds = 0) (hnanos : parts.nanoseconds = 0) :
    readParts ⟨parts, [], true, any, anyTime⟩ (writeSeconds seconds nanos)
      = readParts ⟨{ parts with seconds := seconds, nanoseconds := nanos }, [], true,
          any || decide (0 < seconds ∨ 0 < nanos),
          anyTime || decide (0 < seconds ∨ 0 < nanos)⟩ [] := by
  obtain ⟨y, mo, d, ho, mi, s, ns⟩ := parts
  cases hseconds
  cases hnanos
  rw [writeSeconds]
  split
  · rename_i h
    rw [List.append_assoc, List.cons_append, ← List.cons_append, ← List.append_assoc,
      readParts_component [] (fun c hc => ?_) (by simp) (component?_seconds_fraction hs hn h)]
    · simp [h]
    · rcases List.mem_append.mp hc with hc | hc
      · exact isNumberChar_natDigits hc
      · rcases List.mem_cons.mp hc with rfl | hc
        · exact .inr rfl
        · exact .inl (isDigit_of_mem_fractionDigits hc)
  · rename_i h
    have hn0 : nanos = 0 := by omega
    subst hn0
    split
    · rename_i hpos
      rw [readParts_component [] (fun _ => isNumberChar_natDigits) (by simp)
        ((component?_natDigits _ true 'S' _).trans (seconds?_natDigits hs))]
      simp [hpos]
    · rename_i hzero
      have hs0 : seconds = 0 := by omega
      subst hs0
      simp

theorem isGraphic_of_mem_writeSeconds {seconds nanos : Nat} {c : Char}
    (h : c ∈ writeSeconds seconds nanos) : IsGraphic c := by
  rw [writeSeconds] at h
  split at h
  · simp only [List.append_assoc, List.cons_append, List.mem_append, List.mem_cons,
      List.not_mem_nil, or_false] at h
    rcases h with h | rfl | h | rfl
    · exact isGraphic_of_isDigit (isDigit_of_mem_natDigits h)
    · decide
    · exact isGraphic_of_isDigit (isDigit_of_mem_fractionDigits h)
    · decide
  · exact isGraphic_of_mem_optional (by decide) h

/-- Hours, minutes and seconds as they are written behind the `T`. -/
def writeTime (hours minutes seconds nanos : Nat) : List Char :=
  (if 0 < hours then natDigits hours ++ ['H'] else []) ++
    (if 0 < minutes then natDigits minutes ++ ['M'] else []) ++ writeSeconds seconds nanos

theorem isGraphic_of_mem_writeTime {hours minutes seconds nanos : Nat} {c : Char}
    (h : c ∈ writeTime hours minutes seconds nanos) : IsGraphic c := by
  rw [writeTime] at h
  rcases List.mem_append.mp h with h | h
  · rcases List.mem_append.mp h with h | h
    · exact isGraphic_of_mem_optional (by decide) h
    · exact isGraphic_of_mem_optional (by decide) h
  · exact isGraphic_of_mem_writeSeconds h

theorem writeTime_eq_nil {hours minutes seconds nanos : Nat}
    (h : writeTime hours minutes seconds nanos = []) :
    hours = 0 ∧ minutes = 0 ∧ seconds = 0 ∧ nanos = 0 := by
  simp only [writeTime, writeSeconds, List.append_eq_nil_iff] at h
  obtain ⟨⟨hh, hm⟩, hs⟩ := h
  refine ⟨?_, ?_, ?_, ?_⟩
  · by_contra hne
    rw [if_pos (by omega)] at hh
    simp at hh
  · by_contra hne
    rw [if_pos (by omega)] at hm
    simp at hm
  · by_contra hne
    split at hs
    · simp at hs
    · rw [if_pos (by omega)] at hs
      simp at hs
  · by_contra hne
    rw [if_pos (by omega)] at hs
    simp at hs

/-- The days, and behind a `T` the time, are read as the parts they were written from. -/
theorem readParts_written (days hours minutes seconds nanos : Nat) (hd : days < componentBound)
    (hh : hours < componentBound) (hm : minutes < componentBound) (hs : seconds < componentBound)
    (hn : nanos < nanosPerSecond)
    (hpos : 0 < days ∨ 0 < hours ∨ 0 < minutes ∨ 0 < seconds ∨ 0 < nanos) :
    readParts {} ((if 0 < days then natDigits days ++ ['D'] else []) ++
        (if (writeTime hours minutes seconds nanos).isEmpty then []
          else 'T' :: writeTime hours minutes seconds nanos))
      = some ⟨0, 0, days, hours, minutes, seconds, nanos⟩ := by
  rw [readParts_optional (fun k => { days := k }) _ hd (by simp) rfl
    (component?_natDigits _ _ _ _)]
  by_cases hnil : writeTime hours minutes seconds nanos = []
  · obtain ⟨rfl, rfl, rfl, rfl⟩ := writeTime_eq_nil hnil
    have hdays : 0 < days := by omega
    rw [hnil, List.isEmpty_nil, if_pos rfl, readParts]
    simp [hdays]
  · have hne : (writeTime hours minutes seconds nanos).isEmpty = false := by simp [hnil]
    rw [hne, if_neg (by decide), readParts_designateTime, writeTime, List.append_assoc,
      readParts_optional (fun k => { days := days, hours := k }) _ hh (by simp) rfl
        (component?_natDigits _ _ _ _),
      readParts_optional (fun k => { days := days, hours := hours, minutes := k }) _ hm (by simp)
        rfl (component?_natDigits _ _ _ _),
      readParts_writeSeconds hs hn rfl rfl, readParts]
    have htime : 0 < hours ∨ 0 < minutes ∨ 0 < seconds ∨ 0 < nanos := by
      by_contra hzero
      have hh0 : hours = 0 := by omega
      have hm0 : minutes = 0 := by omega
      have hs0 : seconds = 0 := by omega
      have hn0 : nanos = 0 := by omega
      exact hnil (by rw [hh0, hm0, hs0, hn0]; rfl)
    simp only [Bool.false_or, Bool.true_and, List.isEmpty_nil, Bool.not_true, Bool.and_eq_true,
      Bool.or_eq_true, decide_eq_true_eq]
    rw [if_pos ⟨by omega, by omega⟩]

theorem write_eq (d : DayTimeDuration) (hne : d.nanoseconds ≠ 0) :
    let total := d.nanoseconds.natAbs / nanosPerSecond
    let time := writeTime (total % 86400 / 3600) (total % 3600 / 60) (total % 60)
      (d.nanoseconds.natAbs % nanosPerSecond)
    d.write = (if decide (d.nanoseconds < 0) = true then ['-'] else []) ++ 'P' ::
      ((if 0 < total / 86400 then natDigits (total / 86400) ++ ['D'] else []) ++
        (if time.isEmpty then [] else 'T' :: time)) := by
  simp only [write, if_neg hne, decide_eq_true_eq]
  rfl

/-- **A written duration is read back.** -/
theorem read_write (d : DayTimeDuration) : read d.write = .ok d := by
  by_cases hne : d.nanoseconds = 0
  · obtain ⟨n, hn⟩ := d
    cases hne
    rfl
  · have hle := d.natAbs_le
    simp only [maxNanoseconds] at hle
    have hwritten := write_eq d hne
    simp only at hwritten
    generalize htotal : d.nanoseconds.natAbs / nanosPerSecond = total at hwritten
    generalize hnanos : d.nanoseconds.natAbs % nanosPerSecond = nanos at hwritten
    have hsplit : nanosPerSecond * total + nanos = d.nanoseconds.natAbs := by
      rw [← htotal, ← hnanos]
      exact Nat.div_add_mod _ _
    have hn : nanos < nanosPerSecond := hnanos ▸ Nat.mod_lt _ (by decide)
    simp only [nanosPerSecond] at hsplit
    have hbound : total < componentBound := by simp only [componentBound]; omega
    have hparts := readParts_written (total / 86400) (total % 86400 / 3600)
      (total % 3600 / 60) (total % 60) nanos (by omega) (by omega) (by omega) (by omega) hn
      (by omega)
    have hread := read?_of_graphic (decide (d.nanoseconds < 0)) (fun c hc => by
      rcases List.mem_append.mp hc with hc | hc
      · exact isGraphic_of_mem_optional (by decide) hc
      · split at hc
        · exact absurd hc List.not_mem_nil
        · rcases List.mem_cons.mp hc with rfl | hc
          · decide
          · exact isGraphic_of_mem_writeTime hc) hparts
    rw [hwritten]
    simp only [read, hread]
    have hseconds : 86400 * (total / 86400) + 3600 * (total % 86400 / 3600)
        + 60 * (total % 3600 / 60) + total % 60 = total := by omega
    have hmagnitude : (nanosPerSecond : Int) * total + nanos = d.nanoseconds.natAbs := by
      simp only [nanosPerSecond]
      omega
    have hsigned : (if decide (d.nanoseconds < 0) = true then -(d.nanoseconds.natAbs : Int)
        else d.nanoseconds.natAbs) = d.nanoseconds := by
      by_cases hneg : d.nanoseconds < 0
      · simp only [hneg, decide_true, if_true]; omega
      · simp only [hneg, decide_false, Bool.false_eq_true, if_false]; omega
    rw [if_neg (by simp)]
    simp only [hseconds, hmagnitude, hsigned]
    rw [dif_pos d.natAbs_le]

theorem isGraphic_of_mem_write {d : DayTimeDuration} {c : Char}
    (h : c ∈ d.write) : IsGraphic c := by
  by_cases hne : d.nanoseconds = 0
  · rw [write, if_pos hne] at h
    exact isGraphic_of_all (s := "PT0S".toList) (by decide) h
  · rw [write_eq d hne] at h
    rcases List.mem_append.mp h with h | h
    · split at h
      · rw [List.mem_singleton.mp h]; decide
      · exact absurd h List.not_mem_nil
    · rcases List.mem_cons.mp h with rfl | h
      · decide
      · rcases List.mem_append.mp h with h | h
        · exact isGraphic_of_mem_optional (by decide) h
        · split at h
          · exact absurd h List.not_mem_nil
          · rcases List.mem_cons.mp h with rfl | h
            · decide
            · exact isGraphic_of_mem_writeTime h

end DayTimeDuration

end TreePath
