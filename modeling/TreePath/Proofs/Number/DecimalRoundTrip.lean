/-
TreePath.Proofs.Number.DecimalRoundTrip — a decimal is read back from its written form.

The reader rounds when it runs out of room, and gives up when the whole part is too large. Neither
happens on a written decimal: the digits read so far are never more than the coefficient, and there
are never more places than the scale. `readFrom_whole` and `readFrom_final` follow the reader over
the digits before the point and over the last ones, and `read?_write` puts them together.
-/
import TreePath.Number.DecimalText
import TreePath.Proofs.Text.Digits

namespace TreePath.Decimal

open TreePath.Text

/-! ## Rebuilding from coefficient and scale -/

/-- A decimal keeps no zero that it could drop, so building it again drops none. -/
theorem ofScaled_reduced (d : Decimal) {c : Int} {s : Nat} (hc : c = d.coefficient)
    (hs : s = d.scale) (h28 : s ≤ 28) (hlt : c.natAbs < coefficientBound) :
    ofScaled c s h28 hlt = d := by
  subst hc hs
  obtain ⟨c, s, _, _, hred⟩ := d
  cases s with
  | zero => rfl
  | succ s =>
    have hne : c % 10 ≠ 0 := by simpa using hred
    simp only [ofScaled]
    rw [dif_neg hne]

namespace Reader

/-- The sign and the magnitude give the decimal. -/
theorem signed?_coefficient (d : Decimal) :
    signed? (d.coefficient < 0) d.coefficient.natAbs d.scale = some d := by
  rw [signed?, dif_pos ⟨d.scale_le, d.natAbs_lt⟩]
  refine congrArg some (ofScaled_reduced d ?_ rfl _ _)
  by_cases h : d.coefficient < 0
  · simp only [h, decide_true, if_true]
    omega
  · simp only [h, decide_false, Bool.false_eq_true, if_false]
    omega

/-! ## Following the reader -/

theorem le_ofDigitChars (ds : List Char) (m : Nat) : m ≤ Nat.ofDigitChars 10 ds m := by
  rw [Nat.ofDigitChars_eq_ofDigitChars_zero]
  have : 1 * m ≤ 10 ^ ds.length * m := Nat.mul_le_mul_right m (Nat.pow_pos (by decide))
  omega

/-- A digit that is not the last character is taken in while there is room for it. -/
theorem readFrom_digit (negative : Bool) (p : Progress) {c : Char} (next : Char)
    (rest : List Char) (hc : isDigit c = true)
    (hfit : 10 * p.digits + digitValue c < coefficientBound)
    (hroom : p.point = true → p.places + 1 < 28) :
    readFrom negative p (c :: next :: rest)
      = readFrom negative ⟨10 * p.digits + digitValue c,
          if p.point then p.places + 1 else 0, p.point, true⟩ (next :: rest) := by
  have hfits : ¬ coefficientBound ≤ 10 * p.digits + digitValue c := by omega
  rw [readFrom]
  simp only [hc, if_true, hfits, if_false]
  cases hp : p.point with
  | false => simp
  | true =>
    have := hroom hp
    have hless : ¬ 28 ≤ p.places + 1 := by omega
    simp [hless]

/-- The digits before the point are taken in as a number. -/
theorem readFrom_whole {negative : Bool} {next : Char} {rest : List Char} :
    ∀ (ds : List Char) (m : Nat) (any : Bool), (∀ c ∈ ds, isDigit c = true) →
      Nat.ofDigitChars 10 ds m < coefficientBound → (ds = [] → any = true) →
      readFrom negative ⟨m, 0, false, any⟩ (ds ++ next :: rest)
        = readFrom negative ⟨Nat.ofDigitChars 10 ds m, 0, false, true⟩ (next :: rest)
  | [], m, any, _, _, hany => by simp [hany rfl]
  | c :: ds, m, any, hd, hfit, _ => by
      rw [Nat.ofDigitChars_cons] at hfit ⊢
      have hle := le_ofDigitChars ds (10 * m + (c.toNat - '0'.toNat))
      obtain ⟨c', r, hcons⟩ : ∃ c' r, ds ++ next :: rest = c' :: r := by
        cases ds <;> exact ⟨_, _, rfl⟩
      have hstep := readFrom_digit negative ⟨m, 0, false, any⟩ c' r (hd c (by simp))
        (Nat.lt_of_le_of_lt hle hfit) (by simp)
      rw [List.cons_append, hcons, hstep, ← hcons]
      exact readFrom_whole ds _ true (fun x hx => hd x (by simp [hx])) hfit (by simp)

/-- The last digits complete the number: each of them counts as a place after the point. -/
theorem readFrom_final {negative : Bool} :
    ∀ (ds : List Char) (p : Progress), ds ≠ [] → (∀ c ∈ ds, isDigit c = true) →
      Nat.ofDigitChars 10 ds p.digits < coefficientBound →
      (p.point = true → p.places + ds.length ≤ 28) →
      readFrom negative p ds
        = signed? negative (Nat.ofDigitChars 10 ds p.digits)
            (if p.point then p.places + ds.length else 0)
  | [], _, hne, _, _, _ => absurd rfl hne
  | [c], p, _, hd, hfit, _ => by
      have hfits : ¬ coefficientBound ≤ 10 * p.digits + digitValue c := Nat.not_le.mpr hfit
      rw [readFrom]
      simp only [hd c (by simp), if_true, hfits, if_false]
      rfl
  | c :: next :: rest, p, _, hd, hfit, hroom => by
      rw [Nat.ofDigitChars_cons] at hfit ⊢
      have hle := le_ofDigitChars (next :: rest) (10 * p.digits + (c.toNat - '0'.toNat))
      have hstep := readFrom_digit negative p next rest
        (hd c (by simp)) (Nat.lt_of_le_of_lt hle hfit) (by
          intro hp
          have := hroom hp
          simp only [List.length_cons] at this
          omega)
      rw [hstep, readFrom_final (next :: rest) _ (by simp)
        (fun x hx => hd x (List.mem_cons_of_mem c hx)) hfit]
      · cases p.point with
        | false => rfl
        | true => simp [Nat.add_comm, Nat.add_left_comm, digitValue]
      · intro hp
        have hp' : p.point = true := hp
        have := hroom hp'
        simp only [hp', if_true, List.length_cons] at this ⊢
        omega

end Reader

/-! ## Reading what was written -/

/-- The digits without the sign: the whole part and, after a point, the places. -/
def writeDigits (d : Decimal) : List Char :=
  let whole := natDigits (d.coefficient.natAbs / powerOfTen d.scale)
  if d.scale = 0 then whole
  else whole ++ '.' :: padZeros d.scale (natDigits (d.coefficient.natAbs % powerOfTen d.scale))

theorem write_eq (d : Decimal) :
    d.write = (if d.coefficient < 0 then ['-'] else []) ++ d.writeDigits := by
  unfold write writeDigits
  by_cases h : d.scale = 0
  · simp [h]
  · simp [h]

theorem readFrom_writeDigits (d : Decimal) (negative : Bool) :
    Reader.readFrom negative {} d.writeDigits
      = Reader.signed? negative d.coefficient.natAbs d.scale := by
  have hlt := d.natAbs_lt
  rw [writeDigits]
  by_cases hs : d.scale = 0
  · simp only [hs, powerOfTen_zero, Nat.div_one, if_true]
    have hval : Nat.ofDigitChars 10 (natDigits d.coefficient.natAbs) 0 = d.coefficient.natAbs :=
      digitsValue_natDigits _
    rw [Reader.readFrom_final _ {} (natDigits_ne_nil _) (fun _ => isDigit_of_mem_natDigits)
      (by rw [hval]; exact hlt) (by simp), hval]
    rfl
  · have hw : 0 < d.scale := Nat.pos_of_ne_zero hs
    have hp := powerOfTen_pos d.scale
    simp only [hs, if_false]
    generalize hm : d.coefficient.natAbs = m at hlt ⊢
    have hwhole : Nat.ofDigitChars 10 (natDigits (m / powerOfTen d.scale)) 0
        = m / powerOfTen d.scale := digitsValue_natDigits _
    have hplaces : (padZeros d.scale (natDigits (m % powerOfTen d.scale))).length = d.scale :=
      length_padZeros hw (Nat.mod_lt m hp)
    have hfrac : Nat.ofDigitChars 10 (padZeros d.scale (natDigits (m % powerOfTen d.scale)))
        (m / powerOfTen d.scale) = m := by
      rw [Nat.ofDigitChars_eq_ofDigitChars_zero, ← digitsValue_eq_ofDigitChars,
        digitsValue_padZeros, digitsValue_natDigits, hplaces]
      exact Nat.div_add_mod m (powerOfTen d.scale)
    rw [Reader.readFrom_whole _ 0 false (fun _ => isDigit_of_mem_natDigits)
      (by rw [hwhole]; exact Nat.lt_of_le_of_lt (Nat.div_le_self _ _) hlt)
      (fun h => absurd h (natDigits_ne_nil _)), hwhole]
    have hpoint : ∀ rest, Reader.readFrom negative ⟨m / powerOfTen d.scale, 0, false, true⟩
        ('.' :: rest) = Reader.readFrom negative ⟨m / powerOfTen d.scale, 0, true, true⟩ rest := by
      intro rest
      rw [Reader.readFrom]
      rfl
    rw [hpoint, Reader.readFrom_final _ _ (padZeros_ne_nil _ _) (fun _ => isDigit_of_mem_padZeros)
      (by rw [hfrac]; exact hlt) (by rw [hplaces]; simpa using d.scale_le), hfrac, hplaces]
    simp

theorem writeDigits_eq_cons (d : Decimal) :
    ∃ c rest, d.writeDigits = c :: rest ∧ isDigit c = true := by
  obtain ⟨c, ds, h, hc⟩ := natDigits_eq_cons (d.coefficient.natAbs / powerOfTen d.scale)
  rw [writeDigits, h]
  split
  · exact ⟨c, ds, rfl, hc⟩
  · exact ⟨c, _, rfl, hc⟩

/-- **A decimal is read back from its written form.** -/
theorem read?_write (d : Decimal) : read? d.write = some d := by
  have hread := Reader.signed?_coefficient d
  rw [write_eq]
  by_cases hneg : d.coefficient < 0
  · simp only [hneg, decide_true, if_true] at hread ⊢
    rw [List.singleton_append, read?, readFrom_writeDigits, hread]
  · simp only [hneg, decide_false, if_false, List.nil_append] at hread ⊢
    obtain ⟨c, rest, hcons, hc⟩ := writeDigits_eq_cons d
    rw [hcons, read?.eq_def]
    split
    · rename_i heq; cases heq; exact absurd hc (by decide)
    · rename_i heq; cases heq; exact absurd hc (by decide)
    · rw [← hcons, readFrom_writeDigits, hread]

theorem isGraphic_of_mem_write {d : Decimal} {c : Char} (h : c ∈ d.write) : IsGraphic c := by
  rw [write_eq, writeDigits] at h
  rcases List.mem_append.mp h with hs | hd
  · split at hs
    · rw [List.mem_singleton.mp hs]; decide
    · exact absurd hs (by simp)
  · split at hd
    · exact isGraphic_of_isDigit (isDigit_of_mem_natDigits hd)
    · rcases List.mem_append.mp hd with hw | hp
      · exact isGraphic_of_isDigit (isDigit_of_mem_natDigits hw)
      · rcases List.mem_cons.mp hp with rfl | hz
        · decide
        · exact isGraphic_of_isDigit (isDigit_of_mem_padZeros hz)

end TreePath.Decimal
