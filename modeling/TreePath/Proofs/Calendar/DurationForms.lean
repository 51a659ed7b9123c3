/-
TreePath.Proofs.Calendar.DurationForms — the texts that are read as durations.

A written duration is a sign, `P`, components of the date and, behind a `T`, components of the time.
A component is digits, for seconds perhaps with a fraction, and the designator of its unit. The
reader wants no order of the components and lets them be repeated: `Form` holds all the texts it
goes through, and `read?_text` and `exists_form_of_read?` say that there are no others.

Of the components of one unit the last one counts, and a fraction counts until there is another
(`Form.amount`, `Form.fraction`).
-/
import TreePath.Proofs.Calendar.DurationRoundTrip

namespace TreePath.Duration

open TreePath.Text

/-! ## Units and components -/

/-- What the components of a duration count. -/
inductive CalendarUnit where
  | years
  | months
  | days
  | hours
  | minutes
  | seconds
deriving DecidableEq

namespace CalendarUnit

/-- Units of the time of day stand behind the `T`. -/
def isTime : CalendarUnit → Bool
  | years | months | days => false
  | hours | minutes | seconds => true

def designator : CalendarUnit → Char
  | years => 'Y'
  | months | minutes => 'M'
  | days => 'D'
  | hours => 'H'
  | seconds => 'S'

/-- The place of the unit in a text that goes from the largest to the smallest. -/
def place : CalendarUnit → Nat
  | years => 0
  | months => 1
  | days => 2
  | hours => 3
  | minutes => 4
  | seconds => 5

end CalendarUnit

/-- A written component: a whole number of a unit, and a fraction if the unit is that of seconds. -/
structure Component where
  unit : CalendarUnit
  digits : List Char
  fraction : List Char
  digits_ne_nil : digits ≠ []
  isDigit_of_mem_digits : ∀ c ∈ digits, isDigit c = true
  isDigit_of_mem_fraction : ∀ c ∈ fraction, isDigit c = true
  fraction_eq_nil : unit ≠ .seconds → fraction = []

namespace Component

/-- The digits, with a point before those of a fraction. -/
def number (c : Component) : List Char :=
  c.digits ++ if c.fraction = [] then [] else '.' :: c.fraction

def text (c : Component) : List Char := c.number ++ [c.unit.designator]

def value (c : Component) : Nat := digitsValue c.digits

/-- The nanoseconds of the fraction; digits after the ninth are cut off. -/
def nanoseconds (c : Component) : Nat :=
  digitsValue c.fraction * nanosPerSecond / 10 ^ c.fraction.length

/-- The number of the component is a 64-bit number. -/
def IsSmall (c : Component) : Prop := c.value < componentBound

instance (c : Component) : Decidable c.IsSmall := inferInstanceAs (Decidable (_ < _))

/-- The parts with this component put in. -/
def set (parts : Parts) (c : Component) : Parts :=
  match c.unit with
  | .years => { parts with years := c.value }
  | .months => { parts with months := c.value }
  | .days => { parts with days := c.value }
  | .hours => { parts with hours := c.value }
  | .minutes => { parts with minutes := c.value }
  | .seconds => { parts with
      seconds := c.value
      nanoseconds := if c.fraction = [] then parts.nanoseconds else c.nanoseconds }

end Component

/-! ## Forms -/

/-- A written duration, in the order of its text. -/
structure Form where
  negative : Bool
  date : List Component
  time : List Component
  isTime_of_mem_date : ∀ c ∈ date, c.unit.isTime = false
  isTime_of_mem_time : ∀ c ∈ time, c.unit.isTime = true
  ne_nil : date ≠ [] ∨ time ≠ []

namespace Form

def components (w : Form) : List Component := w.date ++ w.time

/-- The characters behind the `P`. -/
def body (w : Form) : List Char :=
  w.date.flatMap Component.text ++
    if w.time = [] then [] else 'T' :: w.time.flatMap Component.text

def text (w : Form) : List Char := (if w.negative then ['-'] else []) ++ 'P' :: w.body

/-- All numbers are 64-bit numbers. -/
def IsSmall (w : Form) : Prop := ∀ c ∈ w.components, c.IsSmall

instance (w : Form) : Decidable w.IsSmall := inferInstanceAs (Decidable (∀ c ∈ _, _))

/-- The number of the last component of the unit; none is as good as zero. -/
def amount (w : Form) (u : CalendarUnit) : Nat :=
  ((w.components.filter (·.unit = u)).getLast?.map Component.value).getD 0

/-- The nanoseconds of the last fraction. -/
def fraction (w : Form) : Nat :=
  ((w.components.filter (·.fraction ≠ [])).getLast?.map Component.nanoseconds).getD 0

/-- The numbers that count. -/
def parts (w : Form) : Parts :=
  ⟨w.amount .years, w.amount .months, w.amount .days, w.amount .hours, w.amount .minutes,
    w.amount .seconds, w.fraction⟩

end Form

/-! ## Reading components -/

/-- Nine digits of a fraction are its nanoseconds. -/
theorem nanoseconds_take {ds : List Char} (h : ∀ c ∈ ds, isDigit c = true) :
    DateReader.nanoseconds (ds.take 9) = digitsValue ds * nanosPerSecond / 10 ^ ds.length := by
  have hsecond : nanosPerSecond = 10 ^ 9 := by decide
  by_cases hlen : ds.length ≤ 9
  · have hpow : (10 : Nat) ^ 9 = 10 ^ (9 - ds.length) * 10 ^ ds.length := by
      rw [← pow_add, Nat.sub_add_cancel hlen]
    rw [List.take_of_length_le hlen, DateReader.nanoseconds, digitsValue_append,
      digitsValue_replicate_zero, List.length_replicate, hsecond, hpow, ← Nat.mul_assoc,
      Nat.mul_div_cancel _ (Nat.pow_pos (by decide)), Nat.add_zero, Nat.mul_comm]
  · have hlen9 : (ds.take 9).length = 9 := by rw [List.length_take]; omega
    have hrest : digitsValue (ds.drop 9) < 10 ^ (ds.length - 9) := by
      rw [← List.length_drop]
      exact digitsValue_lt fun c hc => h c (List.mem_of_mem_drop hc)
    have hsplit : digitsValue ds
        = 10 ^ (ds.length - 9) * digitsValue (ds.take 9) + digitsValue (ds.drop 9) := by
      rw [← List.length_drop, ← digitsValue_append, List.take_append_drop]
    have hpow : (10 : Nat) ^ ds.length = 10 ^ (ds.length - 9) * 10 ^ 9 := by
      rw [← pow_add, Nat.sub_add_cancel (by omega)]
    rw [DateReader.nanoseconds, hlen9, Nat.sub_self, List.replicate_zero, List.append_nil, hsecond,
      hpow, Nat.mul_div_mul_right _ _ (Nat.pow_pos (by decide)), hsplit,
      Nat.mul_add_div (Nat.pow_pos (by decide)), Nat.div_eq_of_lt hrest, Nat.add_zero]

theorem Component.whole?_digits (c : Component) :
    whole? c.digits = if c.IsSmall then some c.value else none := by
  rw [whole?, readNat_of_digits c.digits_ne_nil c.isDigit_of_mem_digits, Option.bind_some]
  rfl

theorem seconds?_number (parts : Parts) {c : Component} (hunit : c.unit = .seconds) :
    seconds? parts c.number = if c.IsSmall then some (c.set parts) else none := by
  have hset : c.set parts = { parts with
      seconds := c.value
      nanoseconds := if c.fraction = [] then parts.nanoseconds else c.nanoseconds } := by
    rw [Component.set, hunit]
  rw [hset, Component.number, seconds?]
  by_cases hf : c.fraction = []
  · have hpoint : '.' ∉ c.digits := by
      simpa using point_not_mem_digits c.isDigit_of_mem_digits
    simp only [if_pos hf, List.append_nil, cutFirst_eq_none_iff.mpr hpoint, c.whole?_digits]
    split
    · rfl
    · rfl
  · have hdigits : c.digits.isEmpty = false := by simp [c.digits_ne_nil]
    have hfraction : c.fraction.isEmpty = false := by simp [hf]
    have hpoint := point_not_mem_digits c.isDigit_of_mem_fraction
    simp only [if_neg hf,
      cutFirst_digits c.isDigit_of_mem_digits (show isDigit '.' = false from rfl),
      hdigits, hfraction, hpoint, Bool.or_false, Bool.false_eq_true, if_false, c.whole?_digits,
      nanoseconds_take c.isDigit_of_mem_fraction]
    split
    · rfl
    · rfl

/-- A component is taken in with its value, unless the value is too large. -/
theorem component?_number (parts : Parts) (c : Component) :
    component? parts c.unit.isTime c.unit.designator c.number
      = if c.IsSmall then some (c.set parts) else none := by
  have hnumber : c.number.isEmpty = false := by simp [Component.number, c.digits_ne_nil]
  rw [component?.eq_def]
  by_cases hunit : c.unit = .seconds
  · simp only [hnumber, hunit, CalendarUnit.isTime, CalendarUnit.designator, Bool.false_eq_true,
      if_false, decide_true, Bool.and_self, Bool.not_true, Bool.and_false]
    exact seconds?_number parts hunit
  · have hdigits : c.number = c.digits := by simp [Component.number, c.fraction_eq_nil hunit]
    have hpoint := point_not_mem_digits c.isDigit_of_mem_digits
    rw [hdigits] at hnumber ⊢
    simp only [hnumber, hpoint, Bool.false_eq_true, if_false, Bool.false_and, c.whole?_digits,
      Component.set]
    cases hu : c.unit with
    | seconds => exact absurd hu hunit
    | _ =>
      simp only [CalendarUnit.isTime, CalendarUnit.designator]
      split
      · rfl
      · rfl

/-! ## Reading forms -/

theorem Component.isNumberChar_of_mem {c : Component} {x : Char} (h : x ∈ c.number) :
    IsNumberChar x := by
  rcases List.mem_append.mp h with h | h
  · exact .inl (c.isDigit_of_mem_digits x h)
  · split at h
    · exact absurd h List.not_mem_nil
    · rcases List.mem_cons.mp h with rfl | h
      · exact .inr rfl
      · exact .inl (c.isDigit_of_mem_fraction x h)

/-- A designator neither continues a number nor stands before the time of day. -/
theorem CalendarUnit.designator_ne (u : CalendarUnit) :
    (isDigit u.designator || decide (u.designator = '.')) = false ∧
      decide (u.designator = 'T') = false := by
  cases u <;> exact ⟨rfl, rfl⟩

/-- A component is read up to its designator. -/
theorem readParts_text {parts : Parts} {any anyTime : Bool} (c : Component) (rest : List Char) :
    readParts ⟨parts, [], c.unit.isTime, any, anyTime⟩ (c.text ++ rest)
      = if c.IsSmall then
          readParts ⟨c.set parts, [], c.unit.isTime, true, anyTime || c.unit.isTime⟩ rest
        else none := by
  have hmark := c.unit.designator_ne
  rw [Component.text, List.append_assoc, List.singleton_append,
    readParts_number _ _ _ fun _ => c.isNumberChar_of_mem, readParts.eq_def]
  simp only [List.nil_append, hmark.1, hmark.2, Bool.false_and, Bool.false_eq_true, if_false,
    component?_number]
  by_cases hsmall : c.IsSmall
  · simp only [if_pos hsmall]
  · simp only [if_neg hsmall]

/-- Components are read one after another, and they are refused if one of them is too large. -/
theorem readParts_texts {inTime : Bool} {rest : List Char} :
    ∀ (cs : List Component) (parts : Parts) (any anyTime : Bool),
      (∀ c ∈ cs, c.unit.isTime = inTime) →
      readParts ⟨parts, [], inTime, any, anyTime⟩ (cs.flatMap Component.text ++ rest)
        = if ∀ c ∈ cs, c.IsSmall then
            readParts ⟨cs.foldl Component.set parts, [], inTime, any || !cs.isEmpty,
              anyTime || (inTime && !cs.isEmpty)⟩ rest
          else none
  | [], parts, any, anyTime, _ => by simp
  | c :: cs, parts, any, anyTime, h => by
      have hc := h c (by simp)
      subst hc
      rw [List.flatMap_cons, List.append_assoc, readParts_text,
        readParts_texts cs _ _ _ fun x hx => h x (by simp [hx])]
      by_cases hsmall : c.IsSmall
      · have hall : (∀ x ∈ c :: cs, x.IsSmall) ↔ ∀ x ∈ cs, x.IsSmall := by simp [hsmall]
        have hflag : ((anyTime || c.unit.isTime) || (c.unit.isTime && !cs.isEmpty))
            = (anyTime || (c.unit.isTime && !(c :: cs).isEmpty)) := by
          cases c.unit.isTime <;> simp
        simp only [if_pos hsmall, hall, hflag, List.foldl_cons, List.isEmpty_cons, Bool.true_or,
          Bool.not_false, Bool.or_true]
      · rw [if_neg hsmall, if_neg fun hall => hsmall (hall c (by simp))]

theorem readParts_body (w : Form) :
    readParts {} w.body
      = if w.IsSmall then some (w.components.foldl Component.set {}) else none := by
  have hall : w.IsSmall ↔ (∀ c ∈ w.date, c.IsSmall) ∧ ∀ c ∈ w.time, c.IsSmall := by
    simp only [Form.IsSmall, Form.components, List.forall_mem_append]
  rw [Form.body, readParts_texts w.date _ _ _ w.isTime_of_mem_date, Form.components,
    List.foldl_append]
  by_cases hdate : ∀ c ∈ w.date, c.IsSmall
  · rw [if_pos hdate]
    by_cases htime : w.time = []
    · have hne : w.date.isEmpty = false := by simpa [htime] using w.ne_nil
      have hsmall : w.IsSmall := hall.mpr ⟨hdate, by simp [htime]⟩
      rw [if_pos htime, if_pos hsmall, readParts]
      simp [hne, htime]
    · have hne : w.time.isEmpty = false := by simp [htime]
      rw [if_neg htime, readParts_designateTime, ← List.append_nil (w.time.flatMap Component.text),
        readParts_texts w.time _ _ _ w.isTime_of_mem_time]
      by_cases hsmall : ∀ c ∈ w.time, c.IsSmall
      · rw [if_pos hsmall, if_pos (hall.mpr ⟨hdate, hsmall⟩), readParts]
        simp [hne]
      · rw [if_neg hsmall, if_neg fun h => hsmall (hall.mp h).2]
  · rw [if_neg hdate, if_neg fun h => hdate (hall.mp h).1]

/-! ## The numbers that count -/

/-- A number that the components of a kind set is that of the last of them. -/
theorem foldl_set_eq (get : Parts → Nat) (kind : Component → Bool) (value : Component → Nat)
    (hset : ∀ (parts : Parts) (c : Component),
      get (c.set parts) = if kind c then value c else get parts) :
    ∀ (cs : List Component) (parts : Parts),
      get (cs.foldl Component.set parts)
        = ((cs.filter kind).getLast?.map value).getD (get parts)
  | [], _ => rfl
  | c :: cs, parts => by
      rw [List.foldl_cons, foldl_set_eq get kind value hset cs, hset]
      by_cases hc : kind c = true
      · rw [if_pos hc, List.filter_cons_of_pos hc, List.getLast?_cons]
        cases (cs.filter kind).getLast? with
        | none => rfl
        | some last => rfl
      · rw [if_neg hc, List.filter_cons_of_neg hc]

theorem foldl_components (w : Form) : w.components.foldl Component.set {} = w.parts := by
  have hunit : ∀ (get : Parts → Nat) (u : CalendarUnit), get {} = 0 →
      (∀ (parts : Parts) (c : Component), get (c.set parts)
        = if decide (c.unit = u) then c.value else get parts) →
      get (w.components.foldl Component.set {}) = w.amount u := by
    intro get u hzero hset
    rw [foldl_set_eq get _ _ hset, hzero]
    rfl
  have hfraction : (w.components.foldl Component.set {}).nanoseconds = w.fraction := by
    refine foldl_set_eq Parts.nanoseconds (fun c => decide (c.fraction ≠ []))
      Component.nanoseconds (fun parts c => ?_) _ _
    cases hu : c.unit with
    | seconds => by_cases hf : c.fraction = [] <;> simp [Component.set, hu, hf]
    | _ => simp [Component.set, hu, c.fraction_eq_nil]
  rw [Form.parts, ← hunit Parts.years .years rfl, ← hunit Parts.months .months rfl,
    ← hunit Parts.days .days rfl, ← hunit Parts.hours .hours rfl,
    ← hunit Parts.minutes .minutes rfl, ← hunit Parts.seconds .seconds rfl, ← hfraction]
  all_goals
    intro parts c
    cases hu : c.unit <;> simp [Component.set, hu]

/-- **What the reader makes of a form**: the numbers that count, unless one of its numbers is too
large. -/
theorem read?_text {s : List Char} {w : Form} (h : trim s = w.text) :
    read? s = if w.IsSmall then some (w.negative, w.parts) else none := by
  have hbody := readParts_body w
  rw [foldl_components] at hbody
  rw [read?, h, Form.text]
  cases w.negative with
  | false =>
    show (readParts {} w.body).map (fun parts => (false, parts)) = _
    rw [hbody]
    split
    · rfl
    · rfl
  | true =>
    show (readParts {} w.body).map (fun parts => (true, parts)) = _
    rw [hbody]
    split
    · rfl
    · rfl

/-! ## There are no other texts -/

theorem digits_of_whole? {ds : List Char} {n : Nat} (h : whole? ds = some n) :
    ds ≠ [] ∧ ∀ c ∈ ds, isDigit c = true := by
  obtain ⟨m, hm, -⟩ := Option.bind_eq_some_iff.mp h
  rw [readNat] at hm
  split at hm
  · rename_i hs
    simpa using hs
  · cases hm

/-- Seconds that are read are digits, with a point and more digits or without. -/
theorem exists_digits_of_seconds? {parts parts' : Parts} {number : List Char}
    (hn : ∀ x ∈ number, IsNumberChar x) (h : seconds? parts number = some parts') :
    ∃ ds fs, ds ≠ [] ∧ (∀ c ∈ ds, isDigit c = true) ∧ (∀ c ∈ fs, isDigit c = true) ∧
      number = ds ++ if fs = [] then [] else '.' :: fs := by
  rw [seconds?] at h
  split at h
  · obtain ⟨n, hwhole, -⟩ := Option.map_eq_some_iff.mp h
    obtain ⟨hne, hd⟩ := digits_of_whole? hwhole
    exact ⟨number, [], hne, hd, by simp, by simp⟩
  · rename_i ds fs hcut
    split at h
    · cases h
    · rename_i hempty
      simp only [Bool.or_eq_true, List.isEmpty_iff, List.contains_iff_mem, not_or] at hempty
      obtain ⟨n, hwhole, -⟩ := Option.map_eq_some_iff.mp h
      obtain ⟨hne, hd⟩ := digits_of_whole? hwhole
      have hnumber := (cutFirst_eq_some_iff.mp hcut).1
      refine ⟨ds, fs, hne, hd, fun c hc => ?_, by rw [if_neg hempty.1.2, hnumber]⟩
      rcases hn c (by rw [hnumber]; simp [hc]) with hdigit | rfl
      · exact hdigit
      · exact absurd hc hempty.2

/-- What is taken in as a component is one. -/
theorem exists_component {parts parts' : Parts} {inTime : Bool} {designator : Char}
    {number : List Char} (hn : ∀ x ∈ number, IsNumberChar x)
    (h : component? parts inTime designator number = some parts') :
    ∃ c : Component, c.unit.isTime = inTime ∧ c.unit.designator = designator ∧
      c.number = number := by
  have whole : ∀ (u : CalendarUnit) (set : Nat → Parts),
      (whole? number).map set = some parts' →
      ∃ c : Component, c.unit.isTime = u.isTime ∧ c.unit.designator = u.designator ∧
        c.number = number := by
    intro u set hset
    obtain ⟨n, hwhole, -⟩ := Option.map_eq_some_iff.mp hset
    obtain ⟨hne, hd⟩ := digits_of_whole? hwhole
    exact ⟨⟨u, number, [], hne, hd, by simp, fun _ => rfl⟩, rfl, rfl, by simp [Component.number]⟩
  rw [component?.eq_def] at h
  split at h
  · cases h
  · split at h
    · cases h
    · split at h
      · exact whole .years _ h
      · exact whole .months _ h
      · exact whole .days _ h
      · exact whole .hours _ h
      · exact whole .minutes _ h
      · obtain ⟨ds, fs, hne, hd, hf, hnumber⟩ := exists_digits_of_seconds? hn h
        exact ⟨⟨.seconds, ds, fs, hne, hd, hf, fun hu => absurd rfl hu⟩, rfl, rfl, hnumber.symm⟩
      · cases h

theorem forall_isNumberChar_concat {pending : List Char} {x : Char}
    (hpending : ∀ y ∈ pending, IsNumberChar y) (hx : (isDigit x || decide (x = '.')) = true) :
    ∀ y ∈ pending ++ [x], IsNumberChar y := by
  intro y hy
  rcases List.mem_append.mp hy with hy | hy
  · exact hpending y hy
  · rw [List.mem_singleton.mp hy]
    simpa [IsNumberChar] using hx

/-- Behind the `T`, what is read is a run of components of the time of day. -/
theorem exists_times_of_readParts {parts : Parts} :
    ∀ (s : List Char) (p : Progress), p.inTime = true → (∀ x ∈ p.pending, IsNumberChar x) →
      readParts p s = some parts →
      ∃ ts : List Component, (∀ c ∈ ts, c.unit.isTime = true) ∧
        p.pending ++ s = ts.flatMap Component.text ∧ (p.anyTimeComponent = true ∨ ts ≠ [])
  | [], p, htime, _, h => by
      rw [readParts] at h
      split at h
      · rename_i hend
        simp only [Bool.and_eq_true, List.isEmpty_iff, htime, Bool.not_true, Bool.false_or] at hend
        exact ⟨[], by simp, by simp [hend.1.1], .inl hend.2⟩
      · cases h
  | x :: s, p, htime, hpending, h => by
      rw [readParts] at h
      split at h
      · rename_i hx
        obtain ⟨ts, hts, htext, hany⟩ := exists_times_of_readParts s
          { p with pending := p.pending ++ [x] } htime (forall_isNumberChar_concat hpending hx) h
        exact ⟨ts, hts, by rw [← htext]; simp, hany⟩
      · split at h
        · rename_i hT
          simp [htime] at hT
        · split at h
          · rename_i parts' hcomponent
            obtain ⟨c, hunit, hdesignator, hnumber⟩ := exists_component hpending hcomponent
            obtain ⟨ts, hts, htext, -⟩ := exists_times_of_readParts s
              ⟨parts', [], p.inTime, true, p.anyTimeComponent || p.inTime⟩ htime (by simp) h
            refine ⟨c :: ts, ?_, ?_, .inr (by simp)⟩
            · intro y hy
              rcases List.mem_cons.mp hy with rfl | hy
              · exact hunit.trans htime
              · exact hts y hy
            · rw [List.flatMap_cons, ← htext, Component.text, hnumber, hdesignator]
              simp
          · cases h

/-- In front of the `T` there are components of the date, and behind it at least one of the time of
day. -/
theorem exists_dates_of_readParts {parts : Parts} :
    ∀ (s : List Char) (p : Progress), p.inTime = false → p.anyTimeComponent = false →
      (∀ x ∈ p.pending, IsNumberChar x) → readParts p s = some parts →
      ∃ ds ts : List Component, (∀ c ∈ ds, c.unit.isTime = false) ∧
        (∀ c ∈ ts, c.unit.isTime = true) ∧
        p.pending ++ s = ds.flatMap Component.text ++
          (if ts = [] then [] else 'T' :: ts.flatMap Component.text) ∧
        (p.anyComponent = true ∨ ds ≠ [] ∨ ts ≠ [])
  | [], p, htime, _, _, h => by
      rw [readParts] at h
      split at h
      · rename_i hend
        simp only [Bool.and_eq_true, List.isEmpty_iff] at hend
        exact ⟨[], [], by simp, by simp, by simp [hend.1.1], .inl hend.1.2⟩
      · cases h
  | x :: s, p, htime, hnone, hpending, h => by
      rw [readParts] at h
      split at h
      · rename_i hx
        obtain ⟨ds, ts, hds, hts, htext, hany⟩ := exists_dates_of_readParts s
          { p with pending := p.pending ++ [x] } htime hnone
          (forall_isNumberChar_concat hpending hx) h
        exact ⟨ds, ts, hds, hts, by rw [← htext]; simp, hany⟩
      · split at h
        · rename_i hT
          simp only [Bool.and_eq_true, decide_eq_true_eq, List.isEmpty_iff] at hT
          obtain ⟨⟨rfl, -⟩, hempty⟩ := hT
          obtain ⟨ts, hts, htext, hany⟩ := exists_times_of_readParts s
            { p with inTime := true } rfl hpending h
          have hne : ts ≠ [] := hany.resolve_left (by simp [hnone])
          refine ⟨[], ts, by simp, hts, ?_, .inr (.inr hne)⟩
          rw [if_neg hne, ← htext]
          simp [hempty]
        · split at h
          · rename_i parts' hcomponent
            obtain ⟨c, hunit, hdesignator, hnumber⟩ := exists_component hpending hcomponent
            obtain ⟨ds, ts, hds, hts, htext, -⟩ := exists_dates_of_readParts s
              ⟨parts', [], p.inTime, true, p.anyTimeComponent || p.inTime⟩ htime
              (by simp [hnone, htime]) (by simp) h
            refine ⟨c :: ds, ts, ?_, hts, ?_, .inr (.inl (by simp))⟩
            · intro y hy
              rcases List.mem_cons.mp hy with rfl | hy
              · exact hunit.trans htime
              · exact hds y hy
            · rw [List.flatMap_cons, List.append_assoc, ← htext, Component.text, hnumber,
                hdesignator]
              simp
          · cases h

/-- **A text that is read as a duration is that of a form.** -/
theorem exists_form_of_read? {s : List Char} {r : Bool × Parts} (h : read? s = some r) :
    ∃ w : Form, trim s = w.text := by
  have hform : ∀ (negative : Bool) (rest : List Char) (parts : Parts),
      readParts {} rest = some parts →
      ∃ w : Form, (if negative then ['-'] else []) ++ 'P' :: rest = w.text := by
    intro negative rest parts hread
    obtain ⟨ds, ts, hds, hts, htext, hany⟩ := exists_dates_of_readParts rest {} rfl rfl (by simp)
      hread
    have hne : ds ≠ [] ∨ ts ≠ [] := hany.resolve_left (by simp)
    refine ⟨⟨negative, ds, ts, hds, hts, hne⟩, ?_⟩
    rw [Form.text, Form.body, ← htext]
    rfl
  rw [read?] at h
  generalize trim s = text at h ⊢
  split at h
  rename_i negative rest hsign
  split at h
  · obtain ⟨parts, hread, -⟩ := Option.map_eq_some_iff.mp h
    split at hsign
    · cases hsign
      exact hform true _ parts hread
    · cases hsign
      exact hform false _ parts hread
  · cases h

theorem read?_eq_none {s : List Char} (h : ¬ ∃ w : Form, trim s = w.text) : read? s = none := by
  cases hr : read? s with
  | none => rfl
  | some r => exact absurd (exists_form_of_read? hr) h

end TreePath.Duration
