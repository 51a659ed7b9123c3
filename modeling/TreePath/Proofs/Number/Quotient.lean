/-
TreePath.Proofs.Number.Quotient — whole quotients of decimals and what is left.

The whole quotient of two numbers is their quotient without its fraction (`IsTruncation`). What is
left of the dividend has no more places than the two numbers and is no larger than either, so it is
always a decimal (`rem?_eq`). The whole quotient itself is taken from a fitted quotient, and
fitting may carry into the next whole number: this happens exactly when the quotient is within half
of the last place that there is room for beside that number (`NearNext`, `FitsAt.truncate_eq`).
-/
import TreePath.Proofs.Number.Fit
import Mathlib.Data.Nat.Find

namespace TreePath

/-! ## Cutting off a fraction -/

/-- `t` is `q` without its fraction. -/
structure IsTruncation (q : ℚ) (t : Int) : Prop where
  sign : 0 ≤ t * q
  abs_le : |(t : ℚ)| ≤ |q|
  lt : |q| < |(t : ℚ)| + 1

namespace IsTruncation

variable {q : ℚ} {s t : Int}

theorem of_floor (hq : 0 ≤ q) : IsTruncation q ⌊q⌋ := by
  have hfloor : (0 : ℚ) ≤ ⌊q⌋ := by exact_mod_cast Int.floor_nonneg.mpr hq
  refine ⟨mul_nonneg hfloor hq, ?_, ?_⟩ <;> rw [abs_of_nonneg hq, abs_of_nonneg hfloor]
  · exact Int.floor_le q
  · exact Int.lt_floor_add_one q

theorem neg (h : IsTruncation q t) : IsTruncation (-q) (-t) := by
  obtain ⟨hsign, hle, hlt⟩ := h
  refine ⟨?_, ?_, ?_⟩ <;> rw [Int.cast_neg]
  · rwa [neg_mul_neg]
  · rwa [abs_neg, abs_neg]
  · rwa [abs_neg, abs_neg]

theorem eq_floor (h : IsTruncation q t) (hq : 0 ≤ q) : t = ⌊q⌋ := by
  obtain ⟨hsign, hle, hlt⟩ := h
  rw [abs_of_nonneg hq] at hle hlt
  have ht : (0 : ℚ) ≤ t := by
    rcases hq.eq_or_lt with rfl | hpos
    · exact (abs_eq_zero.mp (le_antisymm hle (abs_nonneg _))).ge
    · exact nonneg_of_mul_nonneg_left hsign hpos
  rw [abs_of_nonneg ht] at hle hlt
  exact (Int.floor_eq_iff.mpr ⟨hle, hlt⟩).symm

/-- A number has one whole part. -/
theorem unique (hs : IsTruncation q s) (ht : IsTruncation q t) : s = t := by
  rcases le_total 0 q with hq | hq
  · rw [hs.eq_floor hq, ht.eq_floor hq]
  · have hneg : 0 ≤ -q := neg_nonneg.mpr hq
    have := (hs.neg.eq_floor hneg).trans (ht.neg.eq_floor hneg).symm
    omega

/-- The next whole number on the side away from zero is no smaller. -/
theorem natAbs_le_add_sign (h : IsTruncation q t) : t.natAbs ≤ (t + SignType.sign q).natAbs := by
  rcases lt_trichotomy q 0 with hq | rfl | hq
  · have ht : t ≤ 0 := by exact_mod_cast nonpos_of_mul_nonneg_left h.sign hq
    rw [sign_neg hq, SignType.coe_neg_one]
    omega
  · rw [sign_zero, SignType.coe_zero, add_zero]
  · have ht : 0 ≤ t := by exact_mod_cast nonneg_of_mul_nonneg_left h.sign hq
    rw [sign_pos hq, SignType.coe_one]
    omega

/-- The fraction has the sign of the number. -/
theorem abs_sub (h : IsTruncation q t) : |q - t| = |q| - |(t : ℚ)| := by
  have hnonneg : ∀ {q : ℚ} {t : Int}, IsTruncation q t → 0 ≤ q → |q - t| = |q| - |(t : ℚ)| := by
    intro q t h hq
    have hfloor : (0 : ℚ) ≤ ⌊q⌋ := by exact_mod_cast Int.floor_nonneg.mpr hq
    rw [h.eq_floor hq, abs_of_nonneg hq, abs_of_nonneg hfloor,
      abs_of_nonneg (sub_nonneg.mpr (Int.floor_le q))]
  rcases le_total 0 q with hq | hq
  · exact hnonneg h hq
  · have hneg := hnonneg h.neg (neg_nonneg.mpr hq)
    rwa [Int.cast_neg, abs_neg, abs_neg, ← neg_sub', abs_neg] at hneg

end IsTruncation

/-- Whole division of integers cuts off the fraction. -/
theorem isTruncation_tdiv (a b : Int) : IsTruncation (a / b) (a.tdiv b) := by
  have hnat : ∀ m n : Nat, IsTruncation (((m : Int) : ℚ) / ((n : Int) : ℚ)) ((m : Int).tdiv n) := by
    intro m n
    have h := IsTruncation.of_floor (q := ((m : Int) : ℚ) / (n : ℚ)) (by positivity)
    rwa [Rat.floor_intCast_div_natCast,
      ← Int.tdiv_eq_ediv_of_nonneg (Int.natCast_nonneg m)] at h
  rcases Int.eq_nat_or_neg a with ⟨m, rfl | rfl⟩ <;> rcases Int.eq_nat_or_neg b with ⟨n, rfl | rfl⟩
  · exact hnat m n
  · rw [Int.tdiv_neg, Int.cast_neg, div_neg]
    exact (hnat m n).neg
  · rw [Int.neg_tdiv, Int.cast_neg, neg_div]
    exact (hnat m n).neg
  · rw [Int.neg_tdiv, Int.tdiv_neg, neg_neg, Int.cast_neg, Int.cast_neg, neg_div_neg_eq]
    exact hnat m n

namespace Decimal

theorem isTruncation_truncateRat (q : ℚ) : IsTruncation q (truncateRat q) := by
  rw [truncateRat]
  split
  · rename_i hneg
    have h := (IsTruncation.of_floor (neg_nonneg.mpr hneg.le)).neg
    rw [Rat.ceil_eq_neg_floor_neg]
    rwa [neg_neg] at h
  · rename_i hnonneg
    exact IsTruncation.of_floor (not_lt.mp hnonneg)

theorem isTruncation_truncate (d : Decimal) : IsTruncation d.toRat d.truncate := by
  have h := isTruncation_tdiv d.coefficient (powerOfTen d.scale)
  rwa [Int.cast_natCast, powerOfTen_eq, Nat.cast_pow, Nat.cast_ofNat, ← toRat_eq] at h

/-! ## What is left -/

/-- A number that is no larger than a decimal, and has no more places, is a decimal. -/
theorem isRepresentable_of_abs_le {q : ℚ} {d : Decimal} (hle : |q| ≤ |d.toRat|) {c : Int}
    (hc : q * 10 ^ d.scale = c) : IsRepresentable q := by
  have hcoefficient : |(c : ℚ)| ≤ |(d.coefficient : ℚ)| := by
    rw [← hc, ← toRat_mul, abs_mul, abs_mul]
    exact mul_le_mul_of_nonneg_right hle (abs_nonneg _)
  have hnatAbs : c.natAbs ≤ d.coefficient.natAbs := by
    rw [← Int.cast_abs, ← Int.cast_abs, Int.cast_le, Int.abs_eq_natAbs, Int.abs_eq_natAbs]
      at hcoefficient
    exact_mod_cast hcoefficient
  exact isRepresentable_of_mul d.scale_le (hnatAbs.trans_lt d.natAbs_lt) hc

/-- What is left of a dividend is a decimal. -/
theorem isRepresentable_rest (x : Decimal) {y : Decimal} (hy : y.toRat ≠ 0) {t : Int}
    (ht : IsTruncation (x.toRat / y.toRat) t) : IsRepresentable (x.toRat - y.toRat * t) := by
  have hpos : 0 < |y.toRat| := abs_pos.mpr hy
  have habs : |x.toRat - y.toRat * t| = |x.toRat| - |y.toRat| * |(t : ℚ)| := by
    have hx : x.toRat = y.toRat * (x.toRat / y.toRat) := (mul_div_cancel₀ _ hy).symm
    calc |x.toRat - y.toRat * t| = |y.toRat| * |x.toRat / y.toRat - t| := by
          rw [← abs_mul, mul_sub, ← hx]
      _ = |x.toRat| - |y.toRat| * |(t : ℚ)| := by
          rw [ht.abs_sub, mul_sub, ← abs_mul, ← hx]
  have hlt : |x.toRat - y.toRat * t| < |y.toRat| := by
    have := mul_lt_mul_of_pos_left ht.lt hpos
    rw [mul_add, ← abs_mul, mul_div_cancel₀ _ hy] at this
    linarith
  have hle : |x.toRat - y.toRat * t| ≤ |x.toRat| := by
    have : 0 ≤ |y.toRat| * |(t : ℚ)| := by positivity
    linarith
  rcases le_total x.scale y.scale with hscale | hscale
  · refine isRepresentable_of_abs_le (d := y) hlt.le
      (c := x.coefficient * 10 ^ (y.scale - x.scale) - y.coefficient * t) ?_
    rw [sub_mul, toRat_mul_of_le x hscale, mul_right_comm, toRat_mul]
    push_cast
    rfl
  · refine isRepresentable_of_abs_le (d := x) hle
      (c := x.coefficient - y.coefficient * 10 ^ (x.scale - y.scale) * t) ?_
    rw [sub_mul, mul_right_comm, toRat_mul, toRat_mul_of_le y hscale]
    push_cast
    rfl

theorem rem?_eq (x : Decimal) {y : Decimal} (hy : y.toRat ≠ 0) {t : Int}
    (ht : IsTruncation (x.toRat / y.toRat) t) :
    ∃ m, x.rem? y = some m ∧ m.toRat = x.toRat - y.toRat * t := by
  rw [rem?, (isTruncation_truncateRat _).unique ht]
  exact fit_of_isRepresentable (isRepresentable_rest x hy ht)

/-! ## Whole quotients by way of a fitted one -/

/-- The number of places that there is room for beside the whole number `n`. -/
def placesBeside (n : Nat) : Nat := Nat.findGreatest (fun s => n * 10 ^ s < coefficientBound) 28

/-- The magnitude is so near to the next whole number that it is fitted to it. -/
def NearNext (q : ℚ) : Prop :=
  ⌊|q|⌋₊ + 1 - |q| ≤ 1 / (2 * 10 ^ placesBeside (⌊|q|⌋₊ + 1))

instance (q : ℚ) : Decidable (NearNext q) := inferInstanceAs (Decidable (_ ≤ _))

/-- Of a number that is not negative, the fitted one has the same whole part or the next. -/
theorem FitsAt.truncate_of_nonneg {q : ℚ} {s : Nat} {r : Decimal} (h : FitsAt q s r)
    (hq : 0 ≤ q) :
    r.truncate
      = if (⌊q⌋ + 1) * 10 ^ s ≤ roundHalfEven (q * 10 ^ s) then ⌊q⌋ + 1 else ⌊q⌋ := by
  have hpow : (0 : ℚ) < 10 ^ s := by positivity
  have hlower : ⌊q⌋ * 10 ^ s ≤ roundHalfEven (q * 10 ^ s) := by
    refine le_roundHalfEven ?_
    push_cast
    exact mul_le_mul_of_nonneg_right (Int.floor_le q) hpow.le
  have hupper : roundHalfEven (q * 10 ^ s) ≤ (⌊q⌋ + 1) * 10 ^ s := by
    refine roundHalfEven_le ?_
    push_cast
    exact mul_le_mul_of_nonneg_right (Int.lt_floor_add_one q).le hpow.le
  have hnonneg : 0 ≤ r.toRat := by
    have : 0 ≤ roundHalfEven (q * 10 ^ s) := le_roundHalfEven (by push_cast; positivity)
    rw [h.toRat_eq]
    exact div_nonneg (by exact_mod_cast this) hpow.le
  rw [(isTruncation_truncate r).eq_floor hnonneg, h.toRat_eq]
  split
  · rename_i hnext
    rw [le_antisymm hupper hnext]
    push_cast
    rw [mul_div_cancel_right₀ _ hpow.ne', ← Int.cast_one, ← Int.cast_add, Int.floor_intCast]
  · rename_i hsame
    rw [Int.floor_eq_iff, le_div_iff₀ hpow, div_lt_iff₀ hpow]
    exact ⟨by exact_mod_cast hlower, by exact_mod_cast not_le.mp hsame⟩

/-- The rounded coefficient of a number below `n` has the places that there is room for beside
`n`. -/
theorem FitsAt.placesBeside_le {q : ℚ} {s : Nat} {r : Decimal} (h : FitsAt q s r) (hq : 0 ≤ q)
    {n : Nat} (hn : n < coefficientBound) (hlt : q < n) : placesBeside n ≤ s := by
  by_contra hgt
  have hroom : n * 10 ^ placesBeside n < coefficientBound :=
    Nat.findGreatest_spec (P := fun s => n * 10 ^ s < coefficientBound) (Nat.zero_le 28) (by simpa)
  have hfull := h.le_natAbs (placesBeside n) (not_le.mp hgt) (Nat.findGreatest_le 28)
  have hnonneg : 0 ≤ roundHalfEven (q * 10 ^ placesBeside n) :=
    le_roundHalfEven (by push_cast; positivity)
  have hupper : roundHalfEven (q * 10 ^ placesBeside n) ≤ (n * 10 ^ placesBeside n : Nat) := by
    refine roundHalfEven_le ?_
    push_cast
    exact mul_le_mul_of_nonneg_right hlt.le (by positivity)
  omega

/-- So near to `n` there is no room for a place more than beside `n`: with the place, `n` has at
least the bound for a coefficient, ends in two zeros, and so is past the bound by more than the
difference. -/
theorem FitsAt.le_placesBeside {q : ℚ} {s : Nat} {r : Decimal} (h : FitsAt q s r) (hq : 0 ≤ q)
    {n : Nat} (hpos : 1 ≤ placesBeside n) (hnear : n - q ≤ 1 / (2 * 10 ^ placesBeside n)) :
    s ≤ placesBeside n := by
  by_contra hmore
  rw [not_le] at hmore
  have hscale := h.scale_le
  have hfull : coefficientBound ≤ n * 10 ^ (placesBeside n + 1) :=
    not_lt.mp (Nat.findGreatest_is_greatest (P := fun s => n * 10 ^ s < coefficientBound) (n := 28)
      (Nat.lt_succ_self _) (by omega))
  have hpast : coefficientBound + 5 ≤ n * 10 ^ (placesBeside n + 1) := by
    obtain ⟨k, hk⟩ := Nat.exists_eq_add_of_le hpos
    have hzeros : n * 10 ^ (placesBeside n + 1) = n * 10 ^ k * 100 := by rw [hk]; ring
    rw [hzeros] at hfull ⊢
    rw [coefficientBound] at hfull ⊢
    omega
  have hlarge : (coefficientBound : ℚ) ≤ q * 10 ^ (placesBeside n + 1) := by
    have hcast : (coefficientBound : ℚ) + 5 ≤ n * 10 ^ (placesBeside n + 1) := by
      exact_mod_cast hpast
    rw [le_div_iff₀ (by positivity)] at hnear
    rw [pow_succ] at hcast ⊢
    linarith
  have hpow : (10 : ℚ) ^ (placesBeside n + 1) ≤ 10 ^ s := pow_le_pow_right₀ (by norm_num) hmore
  have hbound : ((coefficientBound : Int) : ℚ) ≤ q * 10 ^ s :=
    (by exact_mod_cast hlarge.trans (mul_le_mul_of_nonneg_left hpow hq))
  have hle := le_roundHalfEven hbound
  have hlt := h.natAbs_lt
  omega

/-- Where the next whole number has room for a place, reaching it is being near to it. -/
theorem FitsAt.next_le_iff {q : ℚ} {s : Nat} {r : Decimal} (h : FitsAt q s r) (hq : 0 ≤ q)
    (hroom : (⌊q⌋₊ + 1) * 10 < coefficientBound) :
    ((⌊q⌋₊ + 1 : Nat) : Int) * 10 ^ s ≤ roundHalfEven (q * 10 ^ s) ↔ NearNext q := by
  rw [NearNext, abs_of_nonneg hq]
  have hlt : q < ((⌊q⌋₊ + 1 : Nat) : ℚ) := by
    push_cast
    exact Nat.lt_floor_add_one q
  rw [← Nat.cast_add_one]
  generalize ⌊q⌋₊ + 1 = n at *
  have hpos : 1 ≤ placesBeside n := Nat.le_findGreatest (by decide) (by rwa [pow_one])
  have hle := h.placesBeside_le hq (by omega) hlt
  have hnonneg : 0 ≤ roundHalfEven (q * 10 ^ s) := le_roundHalfEven (by push_cast; positivity)
  have heven : Even ((n : Int) * 10 ^ s) :=
    Even.mul_left (Even.pow_of_ne_zero (by decide) (by omega)) _
  have hiff : (n : Int) * 10 ^ s ≤ roundHalfEven (q * 10 ^ s) ↔ n - q ≤ 1 / (2 * 10 ^ s) := by
    rw [le_roundHalfEven_iff heven, le_div_iff₀ (by positivity)]
    push_cast
    constructor <;> intro h <;> linarith
  constructor
  · intro hnext
    -- The next whole number has room at these places, so there are no more beside it.
    have hs : s = placesBeside n := by
      refine le_antisymm (Nat.le_findGreatest h.scale_le ?_) hle
      have := h.natAbs_lt
      have hcast : ((n * 10 ^ s : Nat) : Int) = (n : Int) * 10 ^ s := by push_cast; rfl
      omega
    rw [← hs]
    exact hiff.mp hnext
  · intro hnear
    rw [le_antisymm hle (h.le_placesBeside hq hpos hnear)] at hnear
    exact hiff.mpr hnear

theorem truncate_neg (d : Decimal) : d.neg.truncate = -d.truncate := by
  have h := isTruncation_truncate d.neg
  rw [toRat_neg] at h
  exact h.unique (isTruncation_truncate d).neg

theorem FitsAt.neg {q : ℚ} {s : Nat} {r : Decimal} (h : FitsAt q s r) : FitsAt (-q) s r.neg where
  scale_le := h.scale_le
  toRat_eq := by
    rw [toRat_neg, h.toRat_eq, neg_mul, roundHalfEven_neg]
    push_cast
    ring
  natAbs_lt := by
    rw [neg_mul, roundHalfEven_neg, Int.natAbs_neg]
    exact h.natAbs_lt
  le_natAbs j hlt hj := by
    rw [neg_mul, roundHalfEven_neg, Int.natAbs_neg]
    exact h.le_natAbs j hlt hj

theorem nearNext_neg (q : ℚ) : NearNext (-q) ↔ NearNext q := by
  rw [NearNext, NearNext, abs_neg]

theorem NearNext.ne_zero {q : ℚ} (h : NearNext q) : q ≠ 0 := by
  rintro rfl
  rw [NearNext, abs_zero, Nat.floor_zero, sub_zero, le_div_iff₀ (by positivity)] at h
  have hpow : (1 : ℚ) ≤ 10 ^ placesBeside (0 + 1) := one_le_pow₀ (by norm_num)
  push_cast at h
  linarith

theorem FitsAt.truncate_eq_of_nonneg {q : ℚ} {s : Nat} {r : Decimal} (h : FitsAt q s r)
    (hq : 0 ≤ q) {t : Int} (ht : IsTruncation q t)
    (hroom : (t.natAbs + 1) * 10 < coefficientBound) :
    r.truncate = if NearNext q then t + SignType.sign q else t := by
  have hfloor : (⌊q⌋₊ : Int) = t := by rw [ht.eq_floor hq, Int.natCast_floor_eq_floor hq]
  have hnext := h.next_le_iff hq (by rwa [show ⌊q⌋₊ = t.natAbs by omega])
  rw [Nat.cast_add_one, hfloor, ht.eq_floor hq] at hnext
  rw [h.truncate_of_nonneg hq, ht.eq_floor hq]
  by_cases hnear : NearNext q
  · have hpos : 0 < q := hq.lt_of_ne' hnear.ne_zero
    rw [if_pos (hnext.mpr hnear), if_pos hnear, sign_pos hpos]
    rfl
  · rw [if_neg fun hle => hnear (hnext.mp hle), if_neg hnear]

/-- **The whole part of a fitted number** is the whole part of the number, or the next whole number
on the side away from zero if the number is near to it. -/
theorem FitsAt.truncate_eq {q : ℚ} {s : Nat} {r : Decimal} (h : FitsAt q s r) {t : Int}
    (ht : IsTruncation q t) (hroom : (t.natAbs + 1) * 10 < coefficientBound) :
    r.truncate = if NearNext q then t + SignType.sign q else t := by
  rcases le_total 0 q with hq | hq
  · exact h.truncate_eq_of_nonneg hq ht hroom
  · have hneg := h.neg.truncate_eq_of_nonneg (neg_nonneg.mpr hq) ht.neg
      (by rwa [Int.natAbs_neg])
    rw [truncate_neg, Left.sign_neg, SignType.coe_neg] at hneg
    by_cases hnear : NearNext q
    · rw [if_pos ((nearNext_neg q).mpr hnear)] at hneg
      rw [if_pos hnear]
      omega
    · rw [if_neg (mt (nearNext_neg q).mp hnear)] at hneg
      rw [if_neg hnear]
      omega

/-- A number is fitted where the next whole number has room. -/
theorem exists_fit {q : ℚ} {t : Int} (ht : IsTruncation q t)
    (hroom : t.natAbs + 1 < coefficientBound) : ∃ r s, fit q = some r ∧ FitsAt q s r := by
  rcases fit_cases q with hfits | ⟨_, hnone⟩
  · exact hfits
  · have hlarge := hnone 0 (Nat.zero_le 28)
    have habs : |q| ≤ ((t.natAbs + 1 : Int) : ℚ) := by
      have := ht.lt.le
      push_cast
      exact this
    obtain ⟨hlower, hupper⟩ := abs_le.mp habs
    rw [← Int.cast_neg] at hlower
    have hle := roundHalfEven_le hupper
    have hge := le_roundHalfEven hlower
    rw [pow_zero, mul_one] at hlarge
    omega

/-- However large the number is, the whole part of the fitted number is no smaller. -/
theorem FitsAt.natAbs_le_truncate {q : ℚ} {s : Nat} {r : Decimal} (h : FitsAt q s r) {t : Int}
    (ht : IsTruncation q t) : t.natAbs ≤ r.truncate.natAbs := by
  have hnonneg : ∀ {q : ℚ} {r : Decimal} {t : Int}, FitsAt q s r → IsTruncation q t → 0 ≤ q →
      t.natAbs ≤ r.truncate.natAbs := by
    intro q r t h ht hq
    have hfloor : 0 ≤ ⌊q⌋ := Int.floor_nonneg.mpr hq
    rw [h.truncate_of_nonneg hq, ht.eq_floor hq]
    split <;> omega
  rcases le_total 0 q with hq | hq
  · exact hnonneg h ht hq
  · have hneg := hnonneg h.neg ht.neg (neg_nonneg.mpr hq)
    rwa [truncate_neg, Int.natAbs_neg, Int.natAbs_neg] at hneg

end Decimal

end TreePath
