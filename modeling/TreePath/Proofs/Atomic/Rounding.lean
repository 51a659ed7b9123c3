/-
TreePath.Proofs.Atomic.Rounding — what rounding computes.

With places, rounding takes the nearest multiple of the last place, the larger of two (`IsNearest`).
With a power of ten it rounds the magnitude to a multiple of the power, a half going up, and puts
the sign back (`powerRounded`). For integers this is computed as it is said. For decimals the
quotient by the power of ten has to be fitted to 28 places first, and large powers are cut off;
`roundTo_exact` says that the result is exact all the same, apart from two ranges of numbers: those
that are below half the power by so little that the quotient is fitted to a half (`JustBelowHalf`),
and those above half of 10^29, the one power of ten that is not a decimal although its half is
(`AboveLastHalf`).
-/
import TreePath.Proofs.Atomic.WellFormed
import TreePath.Proofs.Number.Fit

namespace TreePath

/-! ## The rules -/

/-- `r` is the multiple of `unit` that is nearest to `x`; of two that are equally near, the
larger. -/
structure IsNearest (unit x r : ℚ) : Prop where
  multiple : ∃ n : Int, r = n * unit
  nearest : ∀ n : Int, |x - r| ≤ |x - n * unit|
  larger : ∀ n : Int, |x - r| = |x - n * unit| → n * unit ≤ r

/-- The magnitude rounded to a multiple of a power of ten, a half going up, with the sign of `x`. -/
def powerRounded (x : ℚ) (k : Nat) : ℚ := SignType.sign x * (⌊|x| / 10 ^ k + 1 / 2⌋ * 10 ^ k)

/-- The quotient by the power of ten is less than a half, but is a half at 28 places. -/
def JustBelowHalf (x : ℚ) (k : Nat) : Prop :=
  k ≤ 28 ∧ |x| / 10 ^ k < 1 / 2 ∧ 1 / 2 - 1 / (2 * 10 ^ 28) ≤ |x| / 10 ^ k

/-- The quotient by the power of ten is at least a half, and the power is one more than the
largest that is a decimal. -/
def AboveLastHalf (x : ℚ) (k : Nat) : Prop := k = 29 ∧ 1 / 2 ≤ |x| / 10 ^ k

instance (x : ℚ) (k : Nat) : Decidable (JustBelowHalf x k) :=
  inferInstanceAs (Decidable (_ ∧ _ ∧ _))

instance (x : ℚ) (k : Nat) : Decidable (AboveLastHalf x k) := inferInstanceAs (Decidable (_ ∧ _))

/-! ## The nearest multiple -/

theorem isNearest_floor {unit : ℚ} (hunit : 0 < unit) (x : ℚ) :
    IsNearest unit x (⌊x / unit + 1 / 2⌋ * unit) := by
  have hscale : ∀ n : Int, |x - n * unit| = |x / unit - n| * unit := by
    intro n
    rw [← abs_of_pos hunit, ← abs_mul, abs_of_pos hunit, sub_mul, div_mul_cancel₀ _ hunit.ne']
  rw [← round_eq]
  refine ⟨⟨_, rfl⟩, fun n => ?_, fun n h => ?_⟩
  · rw [hscale, hscale]
    exact mul_le_mul_of_nonneg_right (round_le _ n) hunit.le
  · rw [hscale, hscale, mul_left_inj' hunit.ne'] at h
    refine mul_le_mul_of_nonneg_right ?_ hunit.le
    -- A larger multiple is farther away than the rounded one, which is less than a half below.
    by_contra hlt
    rw [not_le] at hlt
    have hstep : (round (x / unit) : ℚ) + 1 ≤ n := by exact_mod_cast (Int.cast_lt.mp hlt)
    have hfloor := Int.lt_floor_add_one (x / unit + 1 / 2)
    rw [← round_eq] at hfloor
    have hle := Int.floor_le (x / unit + 1 / 2)
    rw [← round_eq] at hle
    rw [abs_of_nonpos (a := x / unit - n) (by linarith)] at h
    have habs := (abs_le.mp (abs_sub_round (x / unit))).2
    rcases abs_cases (x / unit - round (x / unit)) with ⟨heq, _⟩ | ⟨heq, _⟩ <;> linarith

/-! ## Rounding to a power of ten -/

theorem powerRounded_of_nonneg {x : ℚ} (hx : 0 ≤ x) (k : Nat) :
    powerRounded x k = ⌊|x| / 10 ^ k + 1 / 2⌋ * 10 ^ k := by
  rw [powerRounded]
  rcases hx.eq_or_lt with rfl | hpos
  · rw [abs_zero, zero_div, zero_add, floor_half]
    simp
  · rw [sign_pos hpos]
    simp

theorem powerRounded_of_neg {x : ℚ} (hx : x < 0) (k : Nat) :
    powerRounded x k = -(⌊|x| / 10 ^ k + 1 / 2⌋ * 10 ^ k) := by
  rw [powerRounded, sign_neg hx]
  simp

/-- Below half of the power the magnitude is rounded to zero. -/
theorem powerRounded_eq_zero {x : ℚ} {k : Nat} (h : |x| / 10 ^ k < 1 / 2) :
    powerRounded x k = 0 := by
  have hfloor : ⌊|x| / 10 ^ k + 1 / 2⌋ = 0 := by
    rw [Int.floor_eq_zero_iff]
    exact ⟨by positivity, by linarith⟩
  rw [powerRounded, hfloor]
  simp

namespace Decimal

/-- The coefficient of the quotient of a magnitude by a power of ten. -/
theorem quotient_mul (d : Decimal) (k : Nat) :
    |d.toRat| / 10 ^ k * 10 ^ (d.scale + k) = |d.coefficient| := by
  have hpow : |(10 : ℚ) ^ d.scale| = 10 ^ d.scale := abs_of_pos (by positivity)
  rw [pow_add, mul_comm (10 ^ d.scale), ← mul_assoc, div_mul_cancel₀ _ (by positivity),
    Int.cast_abs, ← toRat_mul, abs_mul, hpow]

/-- A quotient of at most 28 places is not less than a half by as little as half of the last. -/
theorem not_justBelowHalf (d : Decimal) {k : Nat} (h : d.scale + k ≤ 28) :
    ¬ JustBelowHalf d.toRat k := by
  rintro ⟨_, hlt, hge⟩
  have hwhole : |d.toRat| / 10 ^ k * 10 ^ 28
      = (|d.coefficient| * 10 ^ (28 - (d.scale + k)) : Int) := by
    rw [show (10 : ℚ) ^ 28 = 10 ^ (d.scale + k) * 10 ^ (28 - (d.scale + k)) by
      rw [← pow_add, Nat.add_sub_cancel' h], ← mul_assoc, quotient_mul]
    push_cast
    rfl
  set m : Int := |d.coefficient| * 10 ^ (28 - (d.scale + k))
  have hupper : m < 5 * 10 ^ 27 := by
    have : (m : ℚ) < ((5 * 10 ^ 27 : Int) : ℚ) := by push_cast; linarith
    exact_mod_cast this
  have hlower : 5 * 10 ^ 27 - 1 < m := by
    have : ((5 * 10 ^ 27 - 1 : Int) : ℚ) < m := by push_cast; linarith
    exact_mod_cast this
  omega

/-- A quotient of more than 28 places is less than one. -/
theorem quotient_le (d : Decimal) {k : Nat} (h : 28 < d.scale + k) :
    |d.toRat| / 10 ^ k ≤ 4 / 5 := by
  have hnonneg : 0 ≤ |d.toRat| / 10 ^ k := by positivity
  have hpow : (10 : ℚ) ^ 29 ≤ 10 ^ (d.scale + k) := pow_le_pow_right₀ (by norm_num) h
  have hbound : ((|d.coefficient| : Int) : ℚ) < coefficientBound := by
    rw [Int.abs_eq_natAbs]
    exact_mod_cast d.natAbs_lt
  rw [coefficientBound, Nat.cast_ofNat, ← quotient_mul d k] at hbound
  have hstep := mul_le_mul_of_nonneg_left hpow hnonneg
  linarith

/-- Rounded at 28 places, a number is a half as soon as it is within half of the last place. -/
theorem FitsAt.half_le_iff {q : ℚ} {r : Decimal} (h : FitsAt q 28 r) :
    1 / 2 ≤ r.toRat ↔ 1 / 2 - 1 / (2 * 10 ^ 28) ≤ q := by
  have hiff := le_roundHalfEven_iff (q := q * 10 ^ 28) (n := 5 * 10 ^ 27) (by decide)
  have hcast : (5 * 10 ^ 27 ≤ roundHalfEven (q * 10 ^ 28)) ↔ 1 / 2 ≤ r.toRat := by
    rw [h.toRat_eq, le_div_iff₀ (by positivity), ← Int.cast_le (R := ℚ)]
    push_cast
    norm_num
  rw [← hcast, hiff]
  push_cast
  constructor <;> intro h <;> linarith

theorem FitsAt.mem_of_le {q : ℚ} {r : Decimal} (h : FitsAt q 28 r) (h0 : 0 ≤ q) (h1 : q ≤ 4 / 5) :
    0 ≤ r.toRat ∧ r.toRat ≤ 4 / 5 := by
  have hupper : roundHalfEven (q * 10 ^ 28) ≤ 8 * 10 ^ 27 :=
    roundHalfEven_le (by push_cast; linarith)
  have hlower : 0 ≤ roundHalfEven (q * 10 ^ 28) :=
    le_roundHalfEven (by push_cast; positivity)
  have hupper' : (roundHalfEven (q * 10 ^ 28) : ℚ) ≤ 8 * 10 ^ 27 := by exact_mod_cast hupper
  rw [h.toRat_eq, div_le_iff₀ (by positivity)]
  exact ⟨div_nonneg (by exact_mod_cast hlower) (by positivity), hupper'.trans (by norm_num)⟩

/-- Rounding a number below one, a half going up. -/
theorem floor_add_half {q : ℚ} (h0 : 0 ≤ q) (h1 : q < 1) :
    ⌊q + 1 / 2⌋ = if 1 / 2 ≤ q then 1 else 0 := by
  split <;> rename_i h
  · rw [Int.floor_eq_iff]
    exact ⟨by push_cast; linarith, by push_cast; linarith⟩
  · rw [Int.floor_eq_zero_iff]
    exact ⟨by positivity, by linarith⟩

/-- The quotient of a magnitude by a power of ten is always fitted. Whether it is a half or more is
seen in what it is fitted to, unless it is just below a half. -/
theorem exists_fit_quotient (d : Decimal) {k : Nat} (hk : k ≤ 28) :
    ∃ r, fit (|d.toRat| / 10 ^ k) = some r ∧
      (JustBelowHalf d.toRat k → ⌊r.toRat + 1 / 2⌋ = 1) ∧
      (¬ JustBelowHalf d.toRat k → ⌊r.toRat + 1 / 2⌋ = ⌊|d.toRat| / 10 ^ k + 1 / 2⌋) := by
  have hnonneg : 0 ≤ |d.toRat| / 10 ^ k := by positivity
  rcases Nat.lt_or_ge 28 (d.scale + k) with hlong | hshort
  · -- The quotient is less than one, so its places are rounded to 28.
    have hsmall := quotient_le d hlong
    obtain ⟨r, hr, hfits⟩ := fit_of_le_one hnonneg (hsmall.trans (by norm_num))
    obtain ⟨hr0, hr1⟩ := hfits.mem_of_le hnonneg hsmall
    have hhalf := hfits.half_le_iff
    refine ⟨r, hr, fun h => ?_, fun h => ?_⟩ <;> rw [floor_add_half hr0 (by linarith)]
    · exact if_pos (hhalf.mpr h.2.2)
    rw [floor_add_half hnonneg (by linarith)]
    by_cases hq : 1 / 2 ≤ |d.toRat| / 10 ^ k
    · rw [if_pos hq, if_pos (hhalf.mpr (by linarith))]
    · rw [if_neg hq, if_neg fun hr => h ⟨hk, not_le.mp hq, hhalf.mp hr⟩]
  · -- The quotient has at most 28 places itself.
    obtain ⟨r, hr, htoRat⟩ := fit_of_isRepresentable (isRepresentable_of_mul hshort
      (by rw [Int.natAbs_abs]; exact d.natAbs_lt) (quotient_mul d k))
    exact ⟨r, hr, fun h => absurd h (not_justBelowHalf d hshort), fun _ => by rw [htoRat]⟩

end Decimal

namespace AtomicValue

open Decimal

/-- Powers of ten up to the largest have room. -/
theorem exists_ofInt?_powerOfTen {k : Nat} (hk : k ≤ 28) :
    ∃ f, ofInt? (powerOfTen k) = some f ∧ f.toRat = 10 ^ k := by
  have hlt : ((powerOfTen k : Nat) : Int).natAbs < coefficientBound := by
    rw [Int.natAbs_natCast, powerOfTen_eq]
    exact (Nat.pow_le_pow_right (by decide) hk).trans_lt (by decide)
  refine ⟨_, dif_pos hlt, ?_⟩
  rw [toRat_of_ofInt? (dif_pos hlt), powerOfTen_eq]
  push_cast
  rfl

/-- The sign of a decimal, where zero has nothing to put it to. -/
theorem sign_mul (d : Decimal) {x : ℚ} (hzero : d.toRat = 0 → x = 0) :
    SignType.sign d.toRat * x = if d.isNegative then -x else x := by
  rcases lt_trichotomy d.toRat 0 with hneg | hz | hpos
  · rw [if_pos ((isNegative_iff d).mpr hneg), sign_neg hneg]
    simp
  · rw [hzero hz, mul_zero, neg_zero, ite_self]
  · rw [if_neg fun h => absurd ((isNegative_iff d).mp h) hpos.not_gt, sign_pos hpos]
    simp

/-- A sign makes no difference to whether there is a decimal. -/
theorem isRepresentable_sign_mul (d : Decimal) {x : ℚ} (hzero : d.toRat = 0 → x = 0) :
    IsRepresentable (SignType.sign d.toRat * x) ↔ IsRepresentable x := by
  rw [sign_mul d hzero]
  split
  · exact neg_isRepresentable
  · exact Iff.rfl

/-- Up to the largest power that is a decimal, the multiple to round to is computed from the
quotient, and then fitted. -/
theorem roundDecimal_eq (d : Decimal) {k : Nat} (hk : k ≤ 28) :
    ∃ n : Int, (JustBelowHalf d.toRat k → n = 1) ∧
      (¬ JustBelowHalf d.toRat k → n = ⌊|d.toRat| / 10 ^ k + 1 / 2⌋) ∧
      roundDecimal d k = (orOverflow (fit ((n * 10 ^ k : Int) : ℚ))).map
        fun m => if d.isNegative then m.neg else m := by
  obtain ⟨f, hf, hfactor⟩ := exists_ofInt?_powerOfTen hk
  obtain ⟨q, hq, hhalf, hrest⟩ := exists_fit_quotient d hk
  refine ⟨_, hhalf, hrest, ?_⟩
  have hquotient : d.abs.div? f = some q := by rw [div?, toRat_abs, hfactor, hq]
  have hproduct : (q.roundUp 0).mul? f = fit ((⌊q.toRat + 1 / 2⌋ * 10 ^ k : Int) : ℚ) := by
    rw [mul?, toRat_roundUp, hfactor, pow_zero, mul_one, div_one]
    push_cast
    rfl
  rw [roundDecimal, if_neg (not_lt.mpr hk), hf, ← hproduct]
  simp only [Option.bind_eq_bind, Option.bind_some, hquotient]

/-- A fitted multiple gets the sign of the decimal, or there is no decimal for it. -/
theorem signed_cases (d : Decimal) {n : Int} (hzero : d.toRat = 0 → n = 0) :
    (∃ r, (orOverflow (fit (n : ℚ))).map (fun m => if d.isNegative then m.neg else m) = .ok r ∧
        r.toRat = SignType.sign d.toRat * n) ∨
      ((orOverflow (fit (n : ℚ))).map (fun m => if d.isNegative then m.neg else m)
          = .error overflow ∧
        ¬ IsRepresentable (SignType.sign d.toRat * n)) := by
  have hcast : d.toRat = 0 → (n : ℚ) = 0 := fun h => by rw [hzero h, Int.cast_zero]
  rw [isRepresentable_sign_mul d hcast, sign_mul d hcast]
  rcases fit_intCast n with ⟨m, hm, htoRat⟩ | ⟨hnone, hno⟩
  · refine .inl ⟨if d.isNegative then m.neg else m, by rw [hm]; rfl, ?_⟩
    rw [← htoRat]
    split
    · exact toRat_neg m
    · rfl
  · exact .inr ⟨by rw [hnone]; rfl, hno⟩

theorem not_justBelowHalf_of_eq_zero {x : ℚ} (h : x = 0) (k : Nat) : ¬ JustBelowHalf x k := by
  rintro ⟨_, _, hge⟩
  norm_num [h] at hge

/-- Up to the largest power that is a decimal, the rule is kept, except just below a half. -/
theorem roundDecimal_rule_of_le (d : Decimal) {k : Nat} (hk : k ≤ 28)
    (h : ¬ JustBelowHalf d.toRat k) :
    (∃ r, roundDecimal d k = .ok r ∧ r.toRat = powerRounded d.toRat k) ∨
      (roundDecimal d k = .error overflow ∧ ¬ IsRepresentable (powerRounded d.toRat k)) := by
  obtain ⟨n, _, hn, hround⟩ := roundDecimal_eq d hk
  have hrule : powerRounded d.toRat k = SignType.sign d.toRat * ((n * 10 ^ k : Int) : ℚ) := by
    rw [powerRounded, ← hn h]
    push_cast
    rfl
  have hzero : d.toRat = 0 → n * 10 ^ k = 0 := by
    intro h0
    rw [hn h, h0, abs_zero, zero_div, zero_add, floor_half, zero_mul]
  rw [hround, hrule]
  exact signed_cases d hzero

/-- Just below a half the rule gives zero, but the result is the power with the sign. -/
theorem roundDecimal_justBelowHalf {d : Decimal} {k : Nat} (h : JustBelowHalf d.toRat k) :
    powerRounded d.toRat k = 0 ∧
      ∃ r, roundDecimal d k = .ok r ∧ r.toRat = SignType.sign d.toRat * 10 ^ k := by
  refine ⟨powerRounded_eq_zero h.2.1, ?_⟩
  obtain ⟨n, hn, _, hround⟩ := roundDecimal_eq d h.1
  have hpower : ((n * 10 ^ k : Int) : ℚ) = 10 ^ k := by
    rw [hn h]
    push_cast
    rw [one_mul]
  have hzero : d.toRat = 0 → n * 10 ^ k = 0 :=
    fun h0 => absurd h (not_justBelowHalf_of_eq_zero h0 k)
  have hroom : IsRepresentable ((n * 10 ^ k : Int) : ℚ) := by
    obtain ⟨f, _, hf⟩ := exists_ofInt?_powerOfTen h.1
    exact ⟨f, by rw [hf, hpower]⟩
  rw [hround, ← hpower]
  rcases signed_cases d hzero with hok | ⟨_, hno⟩
  · exact hok
  · rw [isRepresentable_sign_mul d fun h0 => by rw [hzero h0, Int.cast_zero]] at hno
    exact absurd hroom hno

/-- Half of 10^29 is within the range of decimals, but 10^29 is not. -/
theorem not_isRepresentable_of_aboveLastHalf {d : Decimal} {k : Nat}
    (h : AboveLastHalf d.toRat k) : ¬ IsRepresentable (powerRounded d.toRat k) := by
  obtain ⟨rfl, hhalf⟩ := h
  have hbound := abs_toRat_lt d
  rw [coefficientBound, Nat.cast_ofNat] at hbound
  have hlt : |d.toRat| / 10 ^ 29 < 1 := by
    rw [div_lt_one (by positivity)]
    linarith
  have hne : d.toRat ≠ 0 := by
    intro h0
    norm_num [h0] at hhalf
  have hpower : (10 : ℚ) ^ 29 = ((10 ^ 29 : Int) : ℚ) := by push_cast; rfl
  rw [powerRounded, floor_add_half (by positivity) hlt, if_pos hhalf, Int.cast_one, one_mul,
    isRepresentable_sign_mul d fun h0 => absurd h0 hne, hpower, isRepresentable_intCast]
  decide

/-- Past the largest power that is a decimal, the magnitude is rounded to zero, except above that
half. -/
theorem powerRounded_of_large {d : Decimal} {k : Nat} (hk : 28 < k)
    (h : ¬ AboveLastHalf d.toRat k) : powerRounded d.toRat k = 0 := by
  refine powerRounded_eq_zero ?_
  rcases Nat.eq_or_lt_of_le hk with rfl | hlarge
  · exact not_le.mp fun hhalf => h ⟨rfl, hhalf⟩
  · have hbound := abs_toRat_lt d
    have hpow : (10 : ℚ) ^ 30 ≤ 10 ^ k := pow_le_pow_right₀ (by norm_num) hlarge
    rw [coefficientBound, Nat.cast_ofNat] at hbound
    rw [div_lt_iff₀ (by positivity)]
    linarith

/-- Decimals are rounded as the rule says, as far as the result is a decimal, except near the two
halves. -/
theorem roundDecimal_rule (d : Decimal) (k : Nat) (hhalf : ¬ JustBelowHalf d.toRat k)
    (hlast : ¬ AboveLastHalf d.toRat k) :
    (∃ r, roundDecimal d k = .ok r ∧ r.toRat = powerRounded d.toRat k) ∨
      (roundDecimal d k = .error overflow ∧ ¬ IsRepresentable (powerRounded d.toRat k)) := by
  rcases Nat.lt_or_ge 28 k with hlarge | hsmall
  · exact .inl ⟨zero, if_pos hlarge, by rw [toRat_zero, powerRounded_of_large hlarge hlast]⟩
  · exact roundDecimal_rule_of_le d hsmall hhalf

/-! ## Integers -/

/-- Half of a power of ten is whole, so adding it before a whole division rounds a half up. -/
theorem floor_quotient (n k : Nat) :
    ⌊(n : ℚ) / 10 ^ k + 1 / 2⌋ = ((n + powerOfTen k / 2) / powerOfTen k : Nat) := by
  rw [powerOfTen_eq]
  cases k with
  | zero =>
    rw [pow_zero, pow_zero, div_one, Int.floor_natCast_add, floor_half, Nat.div_one]
    simp
  | succ k =>
    obtain ⟨h, hh⟩ : ∃ h, 10 ^ (k + 1) = 2 * h := ⟨5 * 10 ^ k, by ring⟩
    have hpower : (10 : ℚ) ^ (k + 1) = ((2 * h : Nat) : ℚ) := by
      rw [← hh]
      push_cast
      rfl
    have hpos : 0 < h := by
      have : 0 < 10 ^ (k + 1) := by positivity
      omega
    have hquotient : (n : ℚ) / ((2 * h : Nat) : ℚ) + 1 / 2
        = ((n + h : Nat) : Int) / ((2 * h : Nat) : ℚ) := by
      push_cast
      field_simp
    rw [hpower, hh, Nat.mul_div_cancel_left h (by decide), hquotient,
      Rat.floor_intCast_div_natCast]
    rfl

/-- The magnitude is rounded as the rule says. -/
theorem roundMagnitude_eq (i : Int) (k : Nat) :
    ((roundMagnitude i k : Int) : ℚ) = powerRounded i k := by
  have habs : |(i : ℚ)| = i.natAbs := by
    rw [← Int.cast_abs, Int.abs_eq_natAbs, Int.cast_natCast]
  have hpower : ((powerOfTen k : Nat) : ℚ) = 10 ^ k := by
    rw [powerOfTen_eq, Nat.cast_pow, Nat.cast_ofNat]
  rw [roundMagnitude]
  split
  · rename_i hneg
    rw [powerRounded_of_neg (by exact_mod_cast hneg), habs, floor_quotient, ← hpower]
    push_cast
    rfl
  · rename_i hnonneg
    rw [powerRounded_of_nonneg (by exact_mod_cast not_lt.mp hnonneg), habs, floor_quotient,
      ← hpower]
    push_cast
    rfl

/-- Integers are rounded as the rule says, as far as the result is an integer of 64 bits. -/
theorem roundInteger_rule (i : Int64) (k : Nat) :
    (∃ j, roundInteger i k = .ok j ∧ j.toInt = powerRounded i.toInt k) ∨
      (roundInteger i k = .error overflow ∧
        ∀ j : Int64, (j.toInt : ℚ) ≠ powerRounded i.toInt k) := by
  rw [roundInteger]
  split
  · rename_i hlarge
    refine .inl ⟨0, rfl, ?_⟩
    have hpow : (10 : ℚ) ^ 39 ≤ 10 ^ k := pow_le_pow_right₀ (by norm_num) hlarge
    have hbound : |(i.toInt : ℚ)| ≤ 2 ^ 63 := by
      rw [abs_le]
      have hle := i.le_toInt
      have hlt := i.toInt_lt
      exact ⟨by exact_mod_cast hle, by exact_mod_cast hlt.le⟩
    rw [powerRounded_eq_zero]
    · rfl
    · rw [div_lt_iff₀ (by positivity)]
      linarith
  · rw [← roundMagnitude_eq]
    rcases Int64.ofInt?_cases (roundMagnitude i.toInt k) with ⟨j, hj, htoInt⟩ | ⟨hnone, hno⟩
    · exact .inl ⟨j, by rw [hj]; rfl, by rw [htoInt]⟩
    · exact .inr ⟨by rw [hnone]; rfl, fun j => by exact_mod_cast hno j⟩

/-! ## Values -/

theorem roundTo_decimal_places (d : Decimal) {p : Int64} (hp : 0 ≤ p.toInt) :
    (decimal d).roundTo p = .ok (decimal (d.roundUp (min p.toInt.toNat 28))) :=
  if_pos hp

theorem roundTo_decimal_power (d : Decimal) {p : Int64} {k : Nat} (hk : 0 < k)
    (hp : p.toInt = -k) : (decimal d).roundTo p = (roundDecimal d k).map decimal := by
  have hnatAbs : p.toInt.natAbs = k := by omega
  exact (if_neg (by omega)).trans (by rw [hnatAbs])

theorem roundTo_integer_places {v : AtomicValue} {i : Int64} (hv : v.integer? = some i) {p : Int64}
    (hp : 0 ≤ p.toInt) : v.roundTo p = .ok v := by
  cases v <;> cases hv <;> exact if_pos hp

/-- The rounded integer is put into a value of an integer type. -/
theorem roundTo_integer_power {v : AtomicValue} {i : Int64} (hv : v.integer? = some i) {p : Int64}
    {k : Nat} (hk : 0 < k) (hp : p.toInt = -k) :
    ∃ f : Int64 → AtomicValue, (∀ r, (f r).integer? = some r) ∧
      v.roundTo p = (roundInteger i k).map f := by
  have hnatAbs : p.toInt.natAbs = k := by omega
  have hneg : ¬ 0 ≤ p.toInt := by omega
  cases v <;> cases hv
  case integer => exact ⟨integer, fun _ => rfl, (if_neg hneg).trans (by rw [hnatAbs])⟩
  case nonNegativeInteger =>
    exact ⟨nonNegativeInteger, fun _ => rfl, (if_neg hneg).trans (by rw [hnatAbs])⟩
  case positiveInteger =>
    refine ⟨fun r => if 0 < r then positiveInteger r else integer r, fun r => ?_,
      (if_neg hneg).trans (by rw [hnatAbs])⟩
    dsimp only
    split <;> rfl

/-- **Rounding is exact**, apart from decimals just below half a power of ten and above half of
10^29. The former become the power instead of zero, the latter zero instead of an overflow. Whatever
is found for a value that keeps the promise of its type keeps the promise of its own. -/
theorem roundTo_exact (p : Int64) :
    (∀ d : Decimal, 0 ≤ p.toInt → ∃ r : Decimal, (decimal d).roundTo p = .ok (decimal r) ∧
      IsNearest (1 / 10 ^ min p.toInt.toNat 28) d.toRat r.toRat) ∧
    (∀ (d : Decimal) (k : Nat), 0 < k → p.toInt = -k →
      (¬ JustBelowHalf d.toRat k → ¬ AboveLastHalf d.toRat k →
        (∃ r : Decimal, (decimal d).roundTo p = .ok (decimal r) ∧
          r.toRat = powerRounded d.toRat k) ∨
        ((decimal d).roundTo p = .error overflow ∧
          ¬ IsRepresentable (powerRounded d.toRat k))) ∧
      (JustBelowHalf d.toRat k → powerRounded d.toRat k = 0 ∧
        ∃ r : Decimal, (decimal d).roundTo p = .ok (decimal r) ∧
          r.toRat = SignType.sign d.toRat * 10 ^ k) ∧
      (AboveLastHalf d.toRat k → ¬ IsRepresentable (powerRounded d.toRat k) ∧
        (decimal d).roundTo p = .ok (decimal .zero))) ∧
    ∀ (v : AtomicValue) (i : Int64), v.integer? = some i →
      (0 ≤ p.toInt → v.roundTo p = .ok v) ∧
      (∀ k : Nat, 0 < k → p.toInt = -k →
        (∃ (w : AtomicValue) (j : Int64), v.roundTo p = .ok w ∧ w.integer? = some j ∧
          j.toInt = powerRounded i.toInt k) ∨
        (v.roundTo p = .error overflow ∧
          ∀ j : Int64, (j.toInt : ℚ) ≠ powerRounded i.toInt k)) ∧
      (v.WellFormed → ∀ w, v.roundTo p = .ok w → w.WellFormed) := by
  refine ⟨fun d hp => ⟨_, roundTo_decimal_places d hp, ?_⟩, fun d k hk hp => ?_,
    fun v i hv => ⟨roundTo_integer_places hv, fun k hk hp => ?_,
      fun hwell w hw => roundTo_wellFormed hwell hw⟩⟩
  · have hunit : (0 : ℚ) < 1 / 10 ^ min p.toInt.toNat 28 := by positivity
    have hnearest := isNearest_floor hunit d.toRat
    rwa [div_div_eq_mul_div, div_one, mul_one_div, ← toRat_roundUp] at hnearest
  · rw [roundTo_decimal_power d hk hp]
    refine ⟨fun hhalf hlast => ?_, fun hhalf => ?_, fun hlast => ?_⟩
    · rcases roundDecimal_rule d k hhalf hlast with ⟨r, hr, hrule⟩ | ⟨herror, hno⟩
      · exact .inl ⟨r, by rw [hr]; rfl, hrule⟩
      · exact .inr ⟨by rw [herror]; rfl, hno⟩
    · obtain ⟨hzero, r, hr, hpower⟩ := roundDecimal_justBelowHalf hhalf
      exact ⟨hzero, r, by rw [hr]; rfl, hpower⟩
    · refine ⟨not_isRepresentable_of_aboveLastHalf hlast, ?_⟩
      rw [roundDecimal, if_pos (by rw [hlast.1]; decide)]
      rfl
  · obtain ⟨f, hf, hround⟩ := roundTo_integer_power hv hk hp
    rw [hround]
    rcases roundInteger_rule i k with ⟨j, hj, hrule⟩ | ⟨herror, hno⟩
    · exact .inl ⟨f j, j, by rw [hj]; rfl, hf j, hrule⟩
    · exact .inr ⟨by rw [herror]; rfl, hno⟩

/-- Less than a half of a hundred, by one in the last of 27 places. -/
def nearlyFifty : Decimal :=
  ⟨49999999999999999999999999999, 27, by decide, by decide, by decide⟩

/-- Decimals and an integer that are rounded, and the decimals near the two halves. -/
theorem roundTo_exact_of_tens :
    (∃ r : Decimal, (decimal ⟨25, 1, by decide, by decide, by decide⟩).roundTo 0
        = .ok (decimal r) ∧
      IsNearest (1 / 10 ^ min 0 28) (toRat ⟨25, 1, by decide, by decide, by decide⟩) r.toRat) ∧
    ((∃ r : Decimal, (decimal ⟨-125, 1, by decide, by decide, by decide⟩).roundTo (-1)
          = .ok (decimal r) ∧
        r.toRat = powerRounded (toRat ⟨-125, 1, by decide, by decide, by decide⟩) 1) ∨
      ((decimal ⟨-125, 1, by decide, by decide, by decide⟩).roundTo (-1) = .error overflow ∧
        ¬ IsRepresentable
          (powerRounded (toRat ⟨-125, 1, by decide, by decide, by decide⟩) 1))) ∧
    (∃ r : Decimal, (decimal nearlyFifty).roundTo (-2) = .ok (decimal r) ∧
      r.toRat = SignType.sign nearlyFifty.toRat * 10 ^ 2) ∧
    (decimal ⟨70000000000000000000000000000, 0, by decide, by decide, by decide⟩).roundTo (-29)
      = .ok (decimal .zero) ∧
    ((∃ (w : AtomicValue) (j : Int64), (positiveInteger 4).roundTo (-1) = .ok w ∧
        w.integer? = some j ∧ j.toInt = powerRounded (4 : Int64).toInt 1) ∨
      ((positiveInteger 4).roundTo (-1) = .error overflow ∧
        ∀ j : Int64, (j.toInt : ℚ) ≠ powerRounded (4 : Int64).toInt 1)) ∧
    ∀ w, (positiveInteger 4).roundTo (-1) = .ok w → w.WellFormed := by
  have tens := roundTo_exact (-1)
  have tens_integer := tens.2.2 (positiveInteger 4) 4 rfl
  have hundreds := (roundTo_exact (-2)).2.1 nearlyFifty 2 (by decide) (by decide)
  have hpositive : (positiveInteger 4).WellFormed := show (0 : Int64) < 4 by decide
  exact ⟨(roundTo_exact 0).1 _ (by decide),
    (tens.2.1 _ 1 (by decide) (by decide)).1 (by decide +kernel) (by decide +kernel),
    (hundreds.2.1 (by decide +kernel)).2,
    (((roundTo_exact (-29)).2.1 _ 29 (by decide) (by decide)).2.2 (by decide +kernel)).2,
    tens_integer.2.1 1 (by decide) (by decide), tens_integer.2.2 hpositive⟩

/-- A decimal that is less than a half of a hundred is rounded to a hundred, and one that is more
than a half of 10^29 to zero. -/
theorem roundTo_near_halves :
    ((decimal nearlyFifty).roundTo (-2)
        = .ok (decimal ⟨100, 0, by decide, by decide, by decide⟩) ∧
      powerRounded nearlyFifty.toRat 2 = 0) ∧
    (decimal ⟨70000000000000000000000000000, 0, by decide, by decide, by decide⟩).roundTo (-29)
        = .ok (decimal .zero) ∧
      ¬ IsRepresentable
        (powerRounded (toRat ⟨70000000000000000000000000000, 0, by decide, by decide, by decide⟩)
          29) := by
  have hlast : powerRounded
      (toRat ⟨70000000000000000000000000000, 0, by decide, by decide, by decide⟩) 29
      = ((10 ^ 29 : Int) : ℚ) := by decide +kernel
  refine ⟨by decide +kernel, by decide +kernel, ?_⟩
  rw [hlast, isRepresentable_intCast]
  decide

end AtomicValue

end TreePath
