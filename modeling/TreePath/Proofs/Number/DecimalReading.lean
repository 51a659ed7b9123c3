/-
TreePath.Proofs.Number.DecimalReading — the texts that are read as decimals.

The reader takes more texts than the numerals in which there is a digit. Underscores may stand
behind the first digit, and where a number has used up its room the next character alone decides
how it is rounded, so that anything may follow (`Numeral.FillsAt`, `Numeral.CutsTo`).
`read?_eq_some_iff` says that there are no other texts, and what number is read from each.

A number is read without a loss exactly if some decimal stands for it (`toRat_eq_iff`).
-/
import TreePath.Proofs.Number.DecimalRoundTrip
import TreePath.Proofs.Number.Fit
import TreePath.Proofs.Number.Numeral

namespace TreePath

open TreePath.Text

/-! ## Following the reader -/

namespace Decimal.Reader

/-- What has been read behind one more character, as long as there is room. -/
def advance (p : Progress) (c : Char) : Option Progress :=
  if isDigit c then
    some ⟨10 * p.digits + digitValue c, if p.point then p.places + 1 else 0, p.point, true⟩
  else if c = '.' && !p.point then some { p with point := true }
  else if c = '_' && p.any then some p
  else none

/-- What has been read behind a text, as long as there is room. -/
def advanceAll (p : Progress) : List Char → Option Progress
  | [] => some p
  | c :: s => (advance p c).bind fun q => advanceAll q s

/-- The text has used up the room in front of the next character: there are as many places as there
may be, or one more digit makes the coefficient too large. -/
def Fills (front : List Char) (q : Progress) (next : Char) : Prop :=
  q.digits < coefficientBound ∧
    ((∃ c ∈ front.getLast?, isDigit c = true) ∧ q.places = 28 ∨
      q.point = true ∧ q.places < 28 ∧ isDigit next = true ∧
        coefficientBound ≤ 10 * q.digits + digitValue next)

theorem advanceAll_append (p : Progress) (s t : List Char) :
    advanceAll p (s ++ t) = (advanceAll p s).bind fun q => advanceAll q t := by
  induction s generalizing p with
  | nil => rfl
  | cons c s ih => simp [advanceAll, ih, Option.bind_assoc]

theorem advance_digit (p : Progress) {c : Char} (hc : isDigit c = true) :
    advance p c
      = some ⟨10 * p.digits + digitValue c, if p.point then p.places + 1 else 0, p.point,
          true⟩ := by
  rw [advance, if_pos hc]

/-- A character that is no digit changes neither the digits nor the places. -/
theorem advance_other {p q : Progress} {c : Char} (hc : isDigit c = false)
    (h : advance p c = some q) : q.digits = p.digits ∧ q.places = p.places ∧
      (p.point = true → q.point = true) := by
  rw [advance, if_neg (by simp [hc])] at h
  split at h
  · cases h
    exact ⟨rfl, rfl, fun _ => rfl⟩
  · split at h
    · cases h
      exact ⟨rfl, rfl, id⟩
    · cases h

/-- The digits only become more, and so do the places behind a point. -/
theorem le_of_advanceAll {p q : Progress} {s : List Char} (h : advanceAll p s = some q) :
    p.digits ≤ q.digits ∧ (p.point = true → q.point = true ∧ p.places ≤ q.places) := by
  induction s generalizing p with
  | nil => cases h; exact ⟨le_rfl, fun hp => ⟨hp, le_rfl⟩⟩
  | cons c s ih =>
    obtain ⟨p', hstep, hrest⟩ := Option.bind_eq_some_iff.mp h
    obtain ⟨hdigits, hpoint⟩ := ih hrest
    cases hc : isDigit c with
    | true =>
      rw [advance_digit p hc] at hstep
      cases hstep
      simp only at hdigits hpoint
      refine ⟨by omega, fun hp => ?_⟩
      have := hpoint hp
      rw [if_pos hp] at this
      exact ⟨this.1, by omega⟩
    | false =>
      obtain ⟨hd, hpl, hpt⟩ := advance_other hc hstep
      refine ⟨hd ▸ hdigits, fun hp => ?_⟩
      have := hpoint (hpt hp)
      exact ⟨this.1, hpl ▸ this.2⟩

theorem le_of_signed? {negative : Bool} {m s : Nat} {d : Decimal}
    (h : signed? negative m s = some d) : s ≤ 28 ∧ m < coefficientBound := by
  rw [signed?] at h
  split at h
  · assumption
  · cases h

theorem roundAt_underscore (negative : Bool) (m s : Nat) :
    roundAt negative m s '_' = signed? negative m s := rfl

/-- Off the digits, the reader does nothing but advance. -/
theorem readFrom_other (negative : Bool) (p : Progress) {c : Char} (rest : List Char)
    (hc : isDigit c = false) :
    readFrom negative p (c :: rest) = (advance p c).bind fun q => readFrom negative q rest := by
  rw [readFrom, advance]
  simp only [hc, Bool.false_eq_true, if_false]
  split
  · rfl
  · split <;> rfl

/-- What a text gives: the number of its digits if there is room for all of them, and otherwise the
number of those for which there is room, rounded by the next character. -/
def Gives (negative : Bool) (p : Progress) (s : List Char) (d : Decimal) : Prop :=
  (∃ q, advanceAll p s = some q ∧ q.any = true ∧ signed? negative q.digits q.places = some d) ∨
    ∃ front next rest q, s = front ++ next :: rest ∧ advanceAll p front = some q ∧
      Fills front q next ∧ roundAt negative q.digits q.places next = some d

section

variable {negative : Bool} {p q : Progress} {s rest : List Char} {c : Char} {d : Decimal}

theorem not_fills_of_other (hc : isDigit c = false) : ¬ Fills [] p c := by
  rintro ⟨-, ⟨⟨_, hlast, -⟩, -⟩ | ⟨-, -, hdigit, -⟩⟩
  · cases hlast
  · rw [hc] at hdigit
    cases hdigit

theorem fills_cons (hs : s ≠ []) {next : Char} : Fills (c :: s) q next ↔ Fills s q next := by
  rw [Fills, Fills, List.getLast?_cons, List.getLast?_eq_some_getLast hs]
  rfl

theorem not_fills_of_room (h : ¬ coefficientBound ≤ 10 * p.digits + digitValue c) :
    ¬ Fills [] p c := by
  rintro ⟨-, ⟨⟨_, hlast, -⟩, -⟩ | ⟨-, -, -, hover⟩⟩
  · cases hlast
  · exact h hover

/-- Nothing is given where the reader cannot advance. -/
theorem not_gives_of_advance (hstep : advance p c = none) (hempty : ¬ Fills [] p c) :
    ¬ Gives negative p (c :: s) d := by
  have hall : ∀ t, advanceAll p (c :: t) = none := fun t => by
    rw [advanceAll, hstep, Option.bind_none]
  rintro (⟨q, hq, -⟩ | ⟨front, next, rest, q, hs, hq, hfill, -⟩)
  · rw [hall] at hq
    cases hq
  · cases front with
    | nil =>
      cases hs
      cases hq
      exact hempty hfill
    | cons x front =>
      cases hs
      rw [hall] at hq
      cases hq

/-- A single character for which there is room. -/
theorem gives_one (hstep : advance p c = some q) (hempty : ¬ Fills [] p c) :
    Gives negative p [c] d ↔ q.any = true ∧ signed? negative q.digits q.places = some d := by
  have hall : advanceAll p [c] = some q := by rw [advanceAll, hstep]; rfl
  constructor
  · rintro (⟨q', hq', hsigned⟩ | ⟨front, next, rest, q', hs, hq', hfill, -⟩)
    · rw [hall] at hq'
      cases hq'
      exact hsigned
    · cases front with
      | nil =>
        cases hs
        cases hq'
        exact absurd hfill hempty
      | cons x front => simp at hs
  · rintro hsigned
    exact .inl ⟨q, hall, hsigned⟩

/-- A character for which there is room is read first. -/
theorem gives_cons (hstep : advance p c = some q) (hempty : ¬ Fills [] p c)
    (hroom : isDigit c = true → q.places ≠ 28) :
    Gives negative p (c :: s) d ↔ Gives negative q s d := by
  have hall : ∀ t, advanceAll p (c :: t) = advanceAll q t := fun t => by
    rw [advanceAll, hstep, Option.bind_some]
  have hfills : ∀ {t q' next}, advanceAll q t = some q' →
      (Fills (c :: t) q' next ↔ Fills t q' next) := by
    intro t q' next ht
    cases t with
    | cons x t => exact fills_cons (List.cons_ne_nil x t)
    | nil =>
      cases ht
      refine and_congr_right fun _ => or_congr_left (iff_of_false ?_ (by simp))
      rintro ⟨hlast, hfull⟩
      exact hroom (by simpa using hlast) hfull
  refine or_congr (by rw [hall]) ⟨?_, ?_⟩
  · rintro ⟨front, next, rest, q', hs, hq', hfill, hround⟩
    cases front with
    | nil =>
      cases hs
      cases hq'
      exact absurd hfill hempty
    | cons x front =>
      cases hs
      rw [hall] at hq'
      exact ⟨front, next, rest, q', rfl, hq', (hfills hq').mp hfill, hround⟩
  · rintro ⟨front, next, rest, q', rfl, hq', hfill, hround⟩
    exact ⟨c :: front, next, rest, q', rfl, by rw [hall, hq'], (hfills hq').mpr hfill, hround⟩

/-- A digit for which there is no room ends the number. -/
theorem gives_of_overflow (hc : isDigit c = true) (hdigits : p.digits < coefficientBound)
    (hplaces : p.places < 28) (hover : coefficientBound ≤ 10 * p.digits + digitValue c) :
    Gives negative p (c :: s) d ↔
      p.point = true ∧ roundAt negative p.digits p.places c = some d := by
  have hlarge : ∀ {t q}, advanceAll p (c :: t) = some q → coefficientBound ≤ q.digits := by
    intro t q h
    rw [advanceAll, advance_digit p hc, Option.bind_some] at h
    have := (le_of_advanceAll h).1
    simp only at this
    omega
  constructor
  · rintro (⟨q, hq, -, hsigned⟩ | ⟨front, next, rest, q, hs, hq, hfill, hround⟩)
    · rw [signed?, dif_neg (by have := hlarge hq; omega)] at hsigned
      cases hsigned
    · cases front with
      | nil =>
        cases hs
        cases hq
        rcases hfill.2 with ⟨⟨_, hlast, -⟩, -⟩ | ⟨hpoint, -⟩
        · cases hlast
        · exact ⟨hpoint, hround⟩
      | cons x front =>
        cases hs
        exact absurd hfill.1 (by have := hlarge hq; omega)
  · rintro ⟨hpoint, hround⟩
    exact .inr ⟨[], c, s, p, rfl, rfl, ⟨hdigits, .inr ⟨hpoint, hplaces, hc, hover⟩⟩, hround⟩

/-- Behind a point there is nothing but digits and underscores. -/
theorem eq_of_advanceAll (hpoint : q.point = true) (hno : ∀ x ∈ s, isDigit x = false)
    {q' : Progress} (h : advanceAll q s = some q') : q' = q ∧ ∀ x ∈ s, x = '_' := by
  induction s with
  | nil => cases h; exact ⟨rfl, by simp⟩
  | cons x s ih =>
    obtain ⟨q₁, hstep, hrest⟩ := Option.bind_eq_some_iff.mp h
    rw [advance, if_neg (by simp [hno x]), if_neg (by simp [hpoint])] at hstep
    split at hstep
    · rename_i hx
      cases hstep
      obtain ⟨rfl, hall⟩ := ih (fun y hy => hno y (List.mem_cons_of_mem x hy)) hrest
      simp only [Bool.and_eq_true, decide_eq_true_eq] at hx
      exact ⟨rfl, List.forall_mem_cons.mpr ⟨hx.1, hall⟩⟩
    · cases hstep

/-- The last place ends the number as well. -/
theorem gives_of_lastPlace {next : Char} (hc : isDigit c = true) (hstep : advance p c = some q)
    (hdigits : q.digits < coefficientBound) (hpoint : p.point = true) (hempty : ¬ Fills [] p c)
    (hfull : q.places = 28) :
    Gives negative p (c :: next :: s) d ↔ roundAt negative q.digits q.places next = some d := by
  have hall : ∀ t, advanceAll p (c :: t) = advanceAll q t := fun t => by
    rw [advanceAll, hstep, Option.bind_some]
  have hq : q.point = true ∧ q.any = true := by
    rw [advance_digit p hc] at hstep
    cases hstep
    exact ⟨hpoint, rfl⟩
  have hmore : ∀ {x t q'}, isDigit x = true → x ∈ t → advanceAll q t = some q' →
      28 < q'.places := by
    intro x t q' hx hmem ht
    obtain ⟨before, after, rfl⟩ := List.append_of_mem hmem
    rw [advanceAll_append] at ht
    obtain ⟨q₁, h₁, ht⟩ := Option.bind_eq_some_iff.mp ht
    rw [advanceAll, advance_digit q₁ hx, Option.bind_some] at ht
    obtain ⟨hp₁, hle₁⟩ := (le_of_advanceAll h₁).2 hq.1
    have hle₂ := ((le_of_advanceAll ht).2 hp₁).2
    simp only [hp₁, if_true] at hle₂
    omega
  constructor
  · rintro (⟨q', hq', -, hsigned⟩ | ⟨front, next', rest, q', hs, hq', hfill, hround⟩)
    · rw [hall] at hq'
      have hfits := le_of_signed? hsigned
      have hno : ∀ x ∈ next :: s, isDigit x = false := by
        intro x hx
        by_contra hdigit
        have := hmore (Bool.not_eq_false _ ▸ hdigit) hx hq'
        omega
      obtain ⟨rfl, hunderscores⟩ := eq_of_advanceAll hq.1 hno hq'
      obtain rfl := hunderscores next (List.mem_cons_self ..)
      rw [roundAt_underscore]
      exact hsigned
    · cases front with
      | nil =>
        cases hs
        cases hq'
        exact absurd hfill hempty
      | cons x front =>
        obtain ⟨rfl, hs⟩ := List.cons.inj hs
        rw [hall] at hq'
        cases front with
        | nil =>
          cases hs
          cases hq'
          exact hround
        | cons y front =>
          have hle := ((le_of_advanceAll hq').2 hq.1).2
          rcases hfill.2 with ⟨⟨x, hlast, hx⟩, hplaces⟩ | ⟨-, hless, -⟩
          · rw [List.getLast?_cons_cons] at hlast
            have := hmore hx (List.mem_of_getLast? hlast) hq'
            omega
          · omega
  · intro hround
    refine .inr ⟨[c], next, s, q, rfl, by rw [hall]; rfl, ⟨hdigits, .inl ⟨⟨c, rfl, hc⟩, hfull⟩⟩,
      hround⟩

/-- **What the reader makes of a text** is what it gives, from wherever there is still room. -/
theorem readFrom_eq_some_iff (hdigits : p.digits < coefficientBound) (hplaces : p.places < 28) :
    readFrom negative p s = some d ↔ Gives negative p s d := by
  induction s generalizing p with
  | nil =>
    rw [readFrom]
    constructor
    · intro h
      split at h
      · rename_i hany
        exact .inl ⟨p, rfl, hany, h⟩
      · cases h
    · rintro (⟨q, hq, hany, hsigned⟩ | ⟨front, next, rest, q, hs, -⟩)
      · cases hq
        rw [if_pos hany, hsigned]
      · exact absurd hs (by simp)
  | cons c s ih =>
    cases hc : isDigit c with
    | false =>
      rw [readFrom_other negative p s hc]
      cases hstep : advance p c with
      | none =>
        refine iff_of_false (by simp) (not_gives_of_advance hstep (not_fills_of_other hc))
      | some q =>
        obtain ⟨hd, hpl, -⟩ := advance_other hc hstep
        rw [Option.bind_some, ih (hd ▸ hdigits) (hpl ▸ hplaces),
          gives_cons hstep (not_fills_of_other hc) (by simp [hc])]
    | true =>
      rw [readFrom]
      simp only [hc, if_true]
      by_cases hover : coefficientBound ≤ 10 * p.digits + digitValue c
      · rw [if_pos hover, gives_of_overflow hc hdigits hplaces hover]
        cases p.point <;> simp
      · have hstep := advance_digit p hc
        have hempty := not_fills_of_room hover
        rw [if_neg hover]
        set places := if p.point = true then p.places + 1 else 0 with hnew
        cases s with
        | nil =>
          rw [gives_one hstep hempty]
          exact ⟨fun h => ⟨rfl, h⟩, fun h => h.2⟩
        | cons next t =>
          simp only
          split
          · rename_i hfull
            simp only [Bool.and_eq_true, decide_eq_true_eq] at hfull
            rw [if_pos hfull.1] at hnew
            have hplace : places = 28 := by omega
            rw [gives_of_lastPlace hc hstep (not_le.mp hover) hfull.1 hempty hplace]
          · rename_i hroom
            have hless : places < 28 := by
              rw [hnew] at hroom ⊢
              cases hpoint : p.point <;> simp [hpoint] at hroom ⊢
              omega
            rw [ih (not_le.mp hover) hless, gives_cons hstep hempty fun _ => hless.ne]

end

end Decimal.Reader

/-! ## Progress -/

namespace Numeral

open Decimal (coefficientBound)
open Decimal.Reader (Progress advance advanceAll advance_digit advanceAll_append)

variable {n : Numeral} {s : List Char} {c : Char}

/-- What the reader has seen behind the numeral. -/
def progress (n : Numeral) : Progress :=
  ⟨n.coefficient, n.places.length, n.point, !n.digits.isEmpty⟩

theorem digits_addDigit (hc : isDigit c = true) : (n.addDigit c hc).digits = n.digits ++ [c] := by
  simp only [digits, addDigit]
  cases hp : n.point <;> simp [hp, n.places_eq_nil]

theorem coefficient_addDigit (hc : isDigit c = true) :
    (n.addDigit c hc).coefficient = 10 * n.coefficient + digitValue c := by
  rw [coefficient, digits_addDigit, digitsValue_append]
  simp [coefficient, digitsValue]

theorem advance_progress_digit (hc : isDigit c = true) :
    advance n.progress c = some (n.addDigit c hc).progress := by
  rw [advance_digit _ hc, progress, progress, coefficient_addDigit, digits_addDigit]
  cases hp : n.point <;> simp [addDigit, hp, n.places_eq_nil]

theorem advance_progress_point (hp : n.point = false) :
    advance n.progress '.' = some n.addPoint.progress := by
  rw [advance, if_neg (by decide), if_pos (by simp [progress, hp])]
  rfl

/-- **What the reader has seen** while there was room is what the text spells. -/
theorem advanceAll_eq_some_iff {p : Progress} :
    advanceAll {} s = some p ↔ ∃ n : Numeral, n.Spells s ∧ n.progress = p := by
  induction s using List.reverseRecOn generalizing p with
  | nil =>
    constructor
    · intro h
      cases h
      exact ⟨empty, spells_text empty, rfl⟩
    · rintro ⟨n, h, rfl⟩
      rw [eq_empty_of_text h.filter_eq.symm]
      rfl
  | append_singleton s c ih =>
    have hstep : advanceAll {} (s ++ [c]) = some p ↔
        ∃ n : Numeral, n.Spells s ∧ advance n.progress c = some p := by
      have hone : ∀ q, advanceAll q [c] = advance q c := fun q => by
        rw [advanceAll]
        cases advance q c <;> rfl
      rw [advanceAll_append, Option.bind_eq_some_iff]
      constructor
      · rintro ⟨q, hq, hlast⟩
        obtain ⟨n, hn, rfl⟩ := ih.mp hq
        exact ⟨n, hn, hone _ ▸ hlast⟩
      · rintro ⟨n, hn, hlast⟩
        exact ⟨_, ih.mpr ⟨n, hn, rfl⟩, (hone _).trans hlast⟩
    rw [hstep]
    constructor
    · rintro ⟨n, hn, h⟩
      cases hc : isDigit c with
      | true =>
        rw [advance_progress_digit hc] at h
        exact ⟨n.addDigit c hc, spells_concat_iff.mpr (.inr (.inl ⟨n, hc, hn, rfl⟩)),
          Option.some.inj h⟩
      | false =>
        rw [advance, if_neg (by simp [hc])] at h
        split at h
        · rename_i hpoint
          simp only [progress, Bool.and_eq_true, decide_eq_true_eq, Bool.not_eq_true'] at hpoint
          obtain ⟨rfl, hp⟩ := hpoint
          exact ⟨n.addPoint, spells_concat_iff.mpr (.inr (.inr ⟨rfl, n, hn, hp, rfl⟩)),
            Option.some.inj h⟩
        · split at h
          · rename_i hunderscore
            simp only [progress, Bool.and_eq_true, decide_eq_true_eq, Bool.not_eq_true',
              List.isEmpty_eq_false_iff] at hunderscore
            exact ⟨n, spells_concat_iff.mpr (.inl ⟨hunderscore.1, hn, hunderscore.2⟩),
              Option.some.inj h⟩
          · cases h
    · rintro ⟨n, hn, rfl⟩
      rcases spells_concat_iff.mp hn with ⟨rfl, h, hne⟩ | ⟨n₀, hc, h, rfl⟩ | ⟨rfl, n₀, h, hp, rfl⟩
      · refine ⟨n, h, ?_⟩
        rw [advance, if_neg (by decide), if_neg (by simp), if_pos]
        simp [progress, hne]
      · exact ⟨n₀, h, advance_progress_digit hc⟩
      · exact ⟨n₀, h, advance_progress_point hp⟩

/-- The text has used up the room of its number, so that the character behind it is the last one
that counts: there are as many places as there may be, or behind the point comes a digit that makes
the coefficient too large. -/
def FillsAt (n : Numeral) (front : List Char) (next : Char) : Prop :=
  n.coefficient < coefficientBound ∧
    ((∃ c ∈ front.getLast?, isDigit c = true) ∧ n.places.length = 28 ∨
      n.point = true ∧ n.places.length < 28 ∧ isDigit next = true ∧
        coefficientBound ≤ 10 * n.coefficient + digitValue next)

theorem FillsAt.places_le {front : List Char} {next : Char} (h : n.FillsAt front next) :
    n.places.length ≤ 28 := by
  rcases h.2 with ⟨-, h⟩ | ⟨-, h, -⟩ <;> omega

theorem FillsAt.point_eq {front : List Char} {next : Char} (h : n.FillsAt front next) :
    n.point = true := by
  rcases h.2 with ⟨-, h⟩ | ⟨h, -⟩
  · by_contra hp
    rw [n.places_eq_nil (by simpa using hp)] at h
    cases h
  · exact h

theorem FillsAt.noSign {front rest : List Char} {next : Char} (h : n.FillsAt front next)
    (hn : n.Spells front) : NoSign (front ++ next :: rest) := by
  have hfront : front ≠ [] := by
    rintro rfl
    have hempty := eq_empty_of_text hn.filter_eq.symm
    have hpoint := h.point_eq
    rw [hempty] at hpoint
    cases hpoint
  intro c hc
  rw [List.head?_append_of_ne_nil _ hfront] at hc
  exact hn.noSign c hc

/-- The character does not carry. -/
def IsLow (next : Char) : Prop :=
  isDigit next = true ∧ digitValue next < 5 ∨ next = '_' ∨ next = '.'

/-- The number to which the next character cuts the numeral: a digit of five or more carries, and a
carry for which there is no room gives up the last place. -/
def CutsTo (n : Numeral) (next : Char) (q : ℚ) : Prop :=
  IsLow next ∧ q = n.toRat ∨
    (isDigit next = true ∧ 5 ≤ digitValue next) ∧
      (n.coefficient + 1 < coefficientBound ∧
          q = (n.coefficient + 1 : ℕ) / 10 ^ n.places.length ∨
        n.coefficient + 1 = coefficientBound ∧ 0 < n.places.length ∧
          q = ((n.coefficient + 5) / 10 : ℕ) / 10 ^ (n.places.length - 1))

end Numeral

namespace Decimal

open Reader Numeral

/-! ## Signed numbers -/

/-- Two decimals for one number are the same. -/
theorem toRat_injective {d e : Decimal} (h : d.toRat = e.toRat) : d = e := by
  wlog hle : d.scale ≤ e.scale generalizing d e
  · exact (this h.symm (Nat.le_of_not_le hle)).symm
  have hcoefficient : d.coefficient * 10 ^ (e.scale - d.scale) = e.coefficient := by
    have := toRat_mul_of_le d hle
    rw [h, toRat_mul] at this
    exact_mod_cast this.symm
  obtain ⟨c, s, _, _, _⟩ := d
  obtain ⟨c', s', _, _, hreduced⟩ := e
  simp only at hle hcoefficient hreduced
  have hs : s = s' := by
    by_contra hne
    obtain ⟨k, hk⟩ : ∃ k, s' - s = k + 1 := ⟨s' - s - 1, by omega⟩
    rw [hk, pow_succ, ← mul_assoc] at hcoefficient
    omega
  subst hs
  simp only [Nat.sub_self, pow_zero, mul_one] at hcoefficient
  subst hcoefficient
  rfl

theorem signed?_eq_some_iff {sign : Sign} {m s : Nat} {d : Decimal} :
    signed? (sign = .minus) m s = some d ↔
      s ≤ 28 ∧ m < coefficientBound ∧ d.toRat = sign.factor * (m / 10 ^ s) := by
  have hfactor : ((if decide (sign = .minus) = true then -(m : Int) else m : Int) : ℚ)
      = sign.factor * m := by
    cases sign <;> simp [Sign.factor]
  rw [signed?]
  split
  · rename_i hfits
    rw [Option.some.injEq]
    constructor
    · rintro rfl
      exact ⟨hfits.1, hfits.2, by rw [toRat_ofScaled, hfactor, mul_div_assoc]⟩
    · rintro ⟨-, -, hd⟩
      exact toRat_injective (by rw [toRat_ofScaled, hfactor, hd, mul_div_assoc])
  · rename_i hfits
    exact iff_of_false (by simp) fun h => hfits ⟨h.1, h.2.1⟩

theorem roundAt_low {negative : Bool} {m s : Nat} {next : Char} (h : IsLow next) :
    roundAt negative m s next = signed? negative m s := by
  rw [roundAt]
  rcases h with ⟨hdigit, hvalue⟩ | rfl | rfl
  · simp [hdigit, hvalue]
  · rfl
  · rfl

theorem roundAt_high {negative : Bool} {m s : Nat} {next : Char} (hdigit : isDigit next = true)
    (hvalue : 5 ≤ digitValue next) :
    roundAt negative m s next = if m + 1 < coefficientBound then signed? negative (m + 1) s
      else if s = 0 then none else signed? negative ((m + 5) / 10) (s - 1) := by
  rw [roundAt]
  simp [hdigit, hvalue]

theorem roundAt_other {negative : Bool} {m s : Nat} {next : Char} (hlow : ¬ IsLow next)
    (hhigh : ¬ (isDigit next = true ∧ 5 ≤ digitValue next)) : roundAt negative m s next = none := by
  rw [IsLow] at hlow
  have hdigit : isDigit next = false := by
    by_contra h
    rw [Bool.not_eq_false] at h
    exact hlow (.inl ⟨h, not_le.mp fun hvalue => hhigh ⟨h, hvalue⟩⟩)
  rw [roundAt, if_neg]
  simp only [hdigit, Bool.false_or, Bool.or_eq_true, decide_eq_true_eq]
  tauto

/-- A number without room for its next digits becomes the number to which that character cuts it. -/
theorem roundAt_eq_some_iff {sign : Sign} {n : Numeral} {next : Char} {d : Decimal}
    (hfit : n.coefficient < coefficientBound) (hplaces : n.places.length ≤ 28) :
    roundAt (sign = .minus) n.coefficient n.places.length next = some d ↔
      ∃ q, n.CutsTo next q ∧ d.toRat = sign.factor * q := by
  by_cases hhigh : isDigit next = true ∧ 5 ≤ digitValue next
  · have hlow : ¬ IsLow next := fun h => by
      rcases h with h | rfl | rfl
      · omega
      · exact absurd hhigh.1 (by decide)
      · exact absurd hhigh.1 (by decide)
    simp only [Numeral.CutsTo, hlow, hhigh, false_and, false_or, true_and, and_true]
    rw [roundAt_high hhigh.1 hhigh.2]
    by_cases hroom : n.coefficient + 1 < coefficientBound
    · rw [if_pos hroom, signed?_eq_some_iff]
      simp [hroom, hroom.ne, hplaces]
    · have hbound : n.coefficient + 1 = coefficientBound := by omega
      rw [if_neg hroom]
      split
      · rename_i hnone
        simp [hroom, hnone]
      · rename_i hsome
        have hpos : 0 < n.places.length := by omega
        have hless : (n.coefficient + 5) / 10 < coefficientBound := by omega
        rw [signed?_eq_some_iff]
        simp [hbound, hpos, hless, show n.places.length - 1 ≤ 28 by omega]
  · simp only [Numeral.CutsTo, hhigh, false_and, or_false]
    by_cases hlow : IsLow next
    · rw [roundAt_low hlow, signed?_eq_some_iff]
      simp [hlow, hfit, hplaces, Numeral.toRat]
    · rw [roundAt_other hlow hhigh]
      simp [hlow]

/-- The number `q` is read from the text: all of it, or as much as there is room for, behind a
sign. -/
def Reads (s : List Char) (q : ℚ) : Prop :=
  ∃ (sign : Sign) (u : List Char) (q₀ : ℚ), s = sign.text ++ u ∧ q = sign.factor * q₀ ∧
    ((∃ n : Numeral, n.Spells u ∧ n.digits ≠ [] ∧ n.coefficient < coefficientBound ∧
        n.places.length ≤ 28 ∧ q₀ = n.toRat) ∨
      ∃ (n : Numeral) (front rest : List Char) (next : Char), u = front ++ next :: rest ∧
        n.Spells front ∧ n.FillsAt front next ∧ n.CutsTo next q₀)

theorem read?_eq_readFrom {s : List Char} {d : Decimal} : read? s = some d ↔
    ∃ (sign : Sign) (u : List Char), s = sign.text ++ u ∧
      readFrom (sign = .minus) {} u = some d := by
  have hsign : ∀ c u, c = '-' ∨ c = '+' → readFrom false {} (c :: u) = none := by
    rintro c u (rfl | rfl)
    · rw [readFrom_other _ _ _ (by decide)]
      rfl
    · rw [readFrom_other _ _ _ (by decide)]
      rfl
  constructor
  · intro h
    rw [read?.eq_def] at h
    split at h
    · exact ⟨.minus, _, rfl, h⟩
    · exact ⟨.plus, _, rfl, h⟩
    · exact ⟨.absent, _, rfl, h⟩
  · rintro ⟨sign, u, rfl, h⟩
    cases sign with
    | minus => exact h
    | plus => exact h
    | absent =>
      rw [Sign.text, List.nil_append, read?.eq_def]
      split
      · exact absurd ((hsign _ _ (.inl rfl)).symm.trans h) (by simp)
      · exact absurd ((hsign _ _ (.inr rfl)).symm.trans h) (by simp)
      · exact h

/-- **The texts that are read as decimals**, and the numbers read from them. -/
theorem read?_eq_some_iff {s : List Char} {d : Decimal} : read? s = some d ↔ Reads s d.toRat := by
  rw [read?_eq_readFrom]
  constructor
  · rintro ⟨sign, u, rfl, h⟩
    rw [readFrom_eq_some_iff (by decide) (by decide)] at h
    rcases h with ⟨q, hq, hany, hsigned⟩ | ⟨front, next, rest, q, rfl, hq, hfill, hround⟩
    · obtain ⟨n, hn, rfl⟩ := advanceAll_eq_some_iff.mp hq
      obtain ⟨hplaces, hfit, hd⟩ := signed?_eq_some_iff.mp hsigned
      exact ⟨sign, u, n.toRat, rfl, hd, .inl ⟨n, hn, by simpa [progress] using hany, hfit, hplaces,
        rfl⟩⟩
    · obtain ⟨n, hn, rfl⟩ := advanceAll_eq_some_iff.mp hq
      have hfill : n.FillsAt front next := hfill
      obtain ⟨q₀, hcut, hd⟩ := (roundAt_eq_some_iff hfill.1 hfill.places_le).mp hround
      exact ⟨sign, _, q₀, rfl, hd, .inr ⟨n, front, rest, next, rfl, hn, hfill, hcut⟩⟩
  · rintro ⟨sign, u, q₀, rfl, hd, h⟩
    refine ⟨sign, u, rfl, ?_⟩
    rw [readFrom_eq_some_iff (by decide) (by decide)]
    rcases h with ⟨n, hn, hne, hfit, hplaces, rfl⟩ | ⟨n, front, rest, next, rfl, hn, hfill, hcut⟩
    · exact .inl ⟨n.progress, advanceAll_eq_some_iff.mpr ⟨n, hn, rfl⟩,
        by simpa [progress] using hne, signed?_eq_some_iff.mpr ⟨hplaces, hfit, hd⟩⟩
    · exact .inr ⟨front, next, rest, n.progress, rfl, advanceAll_eq_some_iff.mpr ⟨n, hn, rfl⟩,
        hfill, (roundAt_eq_some_iff hfill.1 hfill.places_le).mpr ⟨q₀, hcut, hd⟩⟩

/-! ## Numerals that are read -/

/-- What has been read in a text that begins with the sign of a numeral. -/
theorem Reads.of_text {sign : Sign} {n : Numeral} {q : ℚ} (h : Reads (sign.text ++ n.text) q) :
    ∃ q₀, q = sign.factor * q₀ ∧
      (n.coefficient < coefficientBound ∧ n.places.length ≤ 28 ∧ q₀ = n.toRat ∨
        ∃ (m : Numeral) (next : Char) (rest : List Char), m.point = true ∧
          n.places = m.places ++ next :: rest ∧ n.digits = m.digits ++ next :: rest ∧
          m.FillsAt m.text next ∧ m.CutsTo next q₀) := by
  obtain ⟨sign', u, q₀, hs, hq, h⟩ := h
  have hn := n.spells_text.noSign
  rcases h with ⟨m, hm, -, hfit, hplaces, rfl⟩ | ⟨m, front, rest, next, rfl, hm, hfill, hcut⟩
  · obtain ⟨rfl, rfl⟩ := Sign.eq_of_append_eq hn hm.noSign hs
    have : n = m := text_injective (hm.eq_text underscore_not_mem_text)
    subst this
    exact ⟨n.toRat, hq, .inl ⟨hfit, hplaces, rfl⟩⟩
  · have hpoint := hfill.point_eq
    obtain ⟨rfl, htext⟩ := Sign.eq_of_append_eq hn (hfill.noSign hm) hs
    have hmem : '_' ∉ front := fun hmem =>
      underscore_not_mem_text (n := n) (htext ▸ List.mem_append_left _ hmem)
    have hfronteq := hm.eq_text hmem
    subst hfronteq
    obtain ⟨hwhole, hplaces⟩ := places_of_text_append hpoint htext
    refine ⟨q₀, hq, .inr ⟨m, next, rest, hpoint, hplaces, ?_, hfill, hcut⟩⟩
    rw [digits, digits, hwhole, hplaces, List.append_assoc]

/-- Digits behind the last place of a number are zero. -/
theorem eq_zero_of_scaled {c : Int} {k m p r s : ℕ} (hr : r < 10 ^ k) (hle : s ≤ p)
    (h : ((10 ^ k * m + r : ℕ) : Int) * 10 ^ s = c * 10 ^ (p + k)) : r = 0 := by
  obtain ⟨j, rfl⟩ := Nat.exists_eq_add_of_le hle
  have hcancel : ((10 ^ k * m + r : ℕ) : Int) = c * 10 ^ j * 10 ^ k := by
    have hne : (10 : Int) ^ s ≠ 0 := by positivity
    refine mul_right_cancel₀ hne (h.trans ?_)
    ring
  have hdvd : ((10 ^ k : ℕ) : Int) ∣ (r : Int) := by
    refine (Int.dvd_add_right (Dvd.intro (m : Int) rfl)).mp ?_
    exact ⟨c * 10 ^ j, by push_cast at hcancel ⊢; rw [hcancel]; ring⟩
  exact Nat.eq_zero_of_dvd_of_lt (Int.natCast_dvd_natCast.mp hdvd) hr

/-- A number with places behind the first digits is as large, at its last place, as these digits
with the next one. -/
theorem le_natAbs_of_scaled {c : Int} {k m p r s x : ℕ} (hx : x * 10 ^ k ≤ r) (hlt : p < s)
    (h : ((10 ^ (k + 1) * m + r : ℕ) : Int) * 10 ^ s = c * 10 ^ (p + (k + 1))) :
    10 * m + x ≤ c.natAbs := by
  obtain ⟨j, rfl⟩ := Nat.exists_eq_add_of_lt hlt
  have hcancel : ((10 ^ (k + 1) * m + r : ℕ) : Int) * 10 ^ (j + 1) = c * 10 ^ (k + 1) := by
    have hne : (10 : Int) ^ p ≠ 0 := by positivity
    refine mul_right_cancel₀ hne ?_
    calc _ = ((10 ^ (k + 1) * m + r : ℕ) : Int) * 10 ^ (p + j + 1) := by ring
      _ = _ := by rw [h]; ring
  have hnat : (10 ^ (k + 1) * m + r) * 10 ^ (j + 1) = c.natAbs * 10 ^ (k + 1) := by
    have := congrArg Int.natAbs hcancel
    simpa only [Int.natAbs_mul, Int.natAbs_pow, Int.natAbs_natCast, Int.reduceAbs] using this
  have hpow : 10 ≤ 10 ^ (j + 1) := Nat.le_self_pow (Nat.succ_ne_zero j) 10
  refine Nat.le_of_mul_le_mul_right (c := 10 ^ (k + 1)) ?_ (by positivity)
  calc _ = (10 ^ (k + 1) * m + x * 10 ^ k) * 10 := by ring
    _ ≤ (10 ^ (k + 1) * m + r) * 10 ^ (j + 1) := by gcongr
    _ = _ := hnat

/-- A digit for which there was no room is lost, unless it and all behind it are zero. -/
theorem digitsValue_eq_zero_of_cut {m n : Numeral} {next : Char} {rest : List Char}
    (hplaces : n.places = m.places ++ next :: rest) (hdigits : n.digits = m.digits ++ next :: rest)
    (hfill : m.FillsAt m.text next) (hrep : IsRepresentable n.toRat) :
    digitsValue (next :: rest) = 0 := by
  obtain ⟨e, he⟩ := hrep
  have hcoefficient : n.coefficient
      = 10 ^ (next :: rest).length * m.coefficient + digitsValue (next :: rest) := by
    rw [Numeral.coefficient, hdigits, digitsValue_append, Numeral.coefficient]
  have hlength : n.places.length = m.places.length + (next :: rest).length := by
    rw [hplaces, List.length_append]
  have hscaled : (n.coefficient : Int) * 10 ^ e.scale = e.coefficient * 10 ^ n.places.length := by
    have hmul := toRat_mul e
    rw [he, Numeral.toRat, div_mul_eq_mul_div, div_eq_iff (by positivity)] at hmul
    exact_mod_cast hmul
  rw [hlength, hcoefficient] at hscaled
  rcases le_or_gt e.scale m.places.length with hle | hlt
  · have hless : digitsValue (next :: rest) < 10 ^ (next :: rest).length :=
      digitsValue_lt fun c hc => n.isDigit_of_mem_places c (hplaces ▸ List.mem_append_right _ hc)
    exact eq_zero_of_scaled hless hle hscaled
  · exfalso
    rcases hfill.2 with ⟨-, hfull⟩ | ⟨-, -, hdigit, hover⟩
    · have := e.scale_le
      omega
    -- The digits up to the next one alone would make the coefficient too large.
    · have hfirst : digitValue next * 10 ^ rest.length ≤ digitsValue (next :: rest) := by
        rw [← List.singleton_append, digitsValue_append]
        simp [digitsValue, Nat.mul_comm]
      have := le_natAbs_of_scaled hfirst hlt hscaled
      have := e.natAbs_lt
      omega

variable {sign : Sign} {n : Numeral} {d : Decimal}

/-- **A numeral is read without a loss exactly if some decimal stands for it.** -/
theorem toRat_eq_iff (h : read? (sign.text ++ n.text) = some d) :
    d.toRat = sign.factor * n.toRat ↔ IsRepresentable n.toRat := by
  constructor
  · intro hd
    cases sign
    case absent | plus => exact ⟨d, by simpa [Sign.factor] using hd⟩
    case minus => exact ⟨d.neg, by rw [toRat_neg, hd]; simp [Sign.factor]⟩
  · intro hrep
    obtain ⟨q₀, hd, ⟨-, -, rfl⟩ | ⟨m, next, rest, -, hplaces, hdigits, hfill, hcut⟩⟩ :=
      (read?_eq_some_iff.mp h).of_text
    · exact hd
    · have hzero := digitsValue_eq_zero_of_cut hplaces hdigits hfill hrep
      have hnext : digitValue next = 0 := by
        rw [← List.singleton_append, digitsValue_append, Nat.add_eq_zero_iff,
          Nat.mul_eq_zero] at hzero
        simpa [digitsValue] using hzero.1
      have hq : q₀ = m.toRat := by
        rcases hcut with ⟨-, hq⟩ | ⟨⟨-, hhigh⟩, -⟩
        · exact hq
        · omega
      rw [hd, hq, Numeral.toRat, Numeral.toRat, hplaces, Numeral.coefficient, Numeral.coefficient,
        hdigits, digitsValue_append, hzero, List.length_append, pow_add]
      push_cast
      field_simp
      ring

theorem toRat_lt (h : read? (sign.text ++ n.text) = some d) : n.toRat < coefficientBound := by
  obtain ⟨q₀, hd, ⟨hfit, -, -⟩ | ⟨m, next, rest, -, hplaces, hdigits, hfill, -⟩⟩ :=
    (read?_eq_some_iff.mp h).of_text
  · rw [Numeral.toRat]
    refine (div_le_self (by positivity) (one_le_pow₀ (by norm_num))).trans_lt ?_
    exact_mod_cast hfit
  · have hless : digitsValue (next :: rest) < 10 ^ (next :: rest).length :=
      digitsValue_lt fun c hc => n.isDigit_of_mem_places c (hplaces ▸ List.mem_append_right _ hc)
    have hcoefficient : n.coefficient < 10 ^ (next :: rest).length * coefficientBound := by
      have hfit := hfill.1
      rw [Numeral.coefficient] at hfit ⊢
      rw [hdigits, digitsValue_append]
      calc _ < 10 ^ (next :: rest).length * (digitsValue m.digits + 1) := by
            rw [Nat.mul_add_one]; omega
        _ ≤ _ := Nat.mul_le_mul_left _ hfit
    rw [Numeral.toRat, div_lt_iff₀ (by positivity), hplaces, List.length_append]
    calc (n.coefficient : ℚ) < (10 ^ (next :: rest).length * coefficientBound : ℕ) := by
          exact_mod_cast hcoefficient
      _ = coefficientBound * 10 ^ (next :: rest).length := by push_cast; ring
      _ ≤ coefficientBound * 10 ^ (m.places.length + (next :: rest).length) := by
          gcongr
          · norm_num
          · omega

/-- A numeral of at most 28 digits that count and at most 28 places is read without a loss. -/
theorem isRepresentable_of_significant (h : read? (sign.text ++ n.text) = some d)
    (hdigits : n.significant.length ≤ 28) (hplaces : n.places.length ≤ 28) :
    IsRepresentable n.toRat := by
  obtain ⟨j, hcoefficient⟩ := n.exists_coefficient_eq
  have hless : digitsValue n.significant < 10 ^ 28 :=
    (digitsValue_lt n.isDigit_of_mem_significant).trans_le
      (Nat.pow_le_pow_right (by decide) hdigits)
  rcases Nat.le_total j n.places.length with hle | hle
  · obtain ⟨k, hk⟩ := Nat.exists_eq_add_of_le hle
    refine isRepresentable_of_mul (c := digitsValue n.significant) (s := k) (by omega) ?_ ?_
    · exact hless.trans (by decide)
    · rw [Numeral.toRat, hcoefficient, hk]
      push_cast
      field_simp
      ring
  · obtain ⟨k, hk⟩ := Nat.exists_eq_add_of_le hle
    have hvalue : n.toRat = ((digitsValue n.significant * 10 ^ k : ℕ) : Int) := by
      rw [Numeral.toRat, hcoefficient, hk]
      push_cast
      field_simp
      ring
    have hlt := toRat_lt h
    rw [hvalue] at hlt ⊢
    rw [isRepresentable_intCast]
    exact_mod_cast hlt

/-- Where a number in the text uses up its room, nothing but digits follows. -/
def DigitsBehindRoom (s : List Char) : Prop :=
  ∀ (sign : Sign) (n : Numeral) (front rest : List Char) (next : Char),
    s = sign.text ++ (front ++ next :: rest) → n.Spells front → n.FillsAt front next →
      ∀ c ∈ next :: rest, isDigit c = true

/-- **A text that is read is a numeral**, with or without a sign, exactly if there is no underscore
in it and nothing but digits behind the room of its number. -/
theorem Reads.isNumeral_iff {s : List Char} {q : ℚ} (h : Reads s q) :
    (∃ (sign : Sign) (n : Numeral), n.digits ≠ [] ∧ s = sign.text ++ n.text) ↔
      '_' ∉ s ∧ DigitsBehindRoom s := by
  have hsign : ∀ sign : Sign, '_' ∉ sign.text := fun sign => by cases sign <;> decide
  constructor
  · rintro ⟨sign, n, -, rfl⟩
    refine ⟨by simp [hsign, underscore_not_mem_text], ?_⟩
    intro sign' m front rest next hs hm hfill
    obtain ⟨rfl, htext⟩ := Sign.eq_of_append_eq n.spells_text.noSign (hfill.noSign hm) hs
    have hfront := hm.eq_text fun hmem =>
      underscore_not_mem_text (n := n) (htext ▸ List.mem_append_left _ hmem)
    subst hfront
    obtain ⟨-, hplaces⟩ := places_of_text_append hfill.point_eq htext
    exact fun c hc => n.isDigit_of_mem_places c (hplaces ▸ List.mem_append_right _ hc)
  · rintro ⟨hnone, hdigits⟩
    obtain ⟨sign, u, q₀, rfl, -, h⟩ := h
    have hu : '_' ∉ u := fun hmem => hnone (List.mem_append_right _ hmem)
    rcases h with ⟨n, hn, hne, -⟩ | ⟨n, front, rest, next, rfl, hn, hfill, -⟩
    · exact ⟨sign, n, hne, by rw [hn.eq_text hu]⟩
    · have hrest := hdigits sign n front rest next rfl hn hfill
      have hfront := hn.eq_text fun hmem => hu (List.mem_append_left _ hmem)
      refine ⟨sign, n.addPlaces (next :: rest) hrest, by simp [addPlaces, digits], ?_⟩
      rw [text_addPlaces hfill.point_eq, ← hfront]

end Decimal

end TreePath
