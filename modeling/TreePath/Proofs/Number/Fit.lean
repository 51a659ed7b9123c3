/-
TreePath.Proofs.Number.Fit — which decimal is found for a number.

Everything that decimals compute is said about the rational numbers they stand for. The nearest
whole number is within a half, and a tie is even (`roundHalfEven_spec`); compared with a whole
number it therefore says where the rounded number lies (`le_roundHalfEven_iff`). A number is fitted
to the largest number of places at which its rounded coefficient has room, and to none if there is
no such number of places (`fit_cases`). So a number that some decimal stands for is fitted without a
loss (`fit_of_isRepresentable`), and a whole number is fitted exactly when it has room by itself
(`isRepresentable_intCast`).
-/
import TreePath.Number.Decimal
import Mathlib.Algebra.Order.Round
import Mathlib.Algebra.Ring.Int.Parity
import Mathlib.Data.Rat.Floor
import Mathlib.Data.Sign.Basic
import Mathlib.Tactic.FieldSimp
import Mathlib.Tactic.Linarith
import Mathlib.Tactic.Push
import Mathlib.Tactic.Ring

namespace TreePath

theorem powerOfTen_eq (k : Nat) : powerOfTen k = 10 ^ k := rfl

theorem floor_half : ⌊(1 / 2 : ℚ)⌋ = 0 := by norm_num

namespace Decimal

/-! ## The number that a decimal stands for -/

theorem toRat_eq (d : Decimal) : d.toRat = d.coefficient / 10 ^ d.scale := by
  rw [toRat, Rat.mkRat_eq_div, powerOfTen_eq, Nat.cast_pow, Nat.cast_ofNat]

theorem toRat_ofInt64 (i : Int64) : (ofInt64 i).toRat = i.toInt := by
  simp [toRat_eq, ofInt64]

theorem toRat_zero : zero.toRat = 0 := by
  simp [toRat_eq, zero]

/-- Dropping the zeros at the end does not change the number. -/
theorem toRat_ofScaled (c : Int) (s : Nat) (hs : s ≤ 28) (hc : c.natAbs < coefficientBound) :
    (ofScaled c s hs hc).toRat = c / 10 ^ s := by
  induction s generalizing c with
  | zero => rw [ofScaled, toRat_eq]
  | succ s ih =>
    rw [ofScaled]
    split
    · rename_i hzero
      obtain ⟨n, rfl⟩ : ∃ n, c = n * 10 := ⟨c / 10, by omega⟩
      rw [ih, Int.mul_ediv_cancel _ (by decide)]
      push_cast
      rw [pow_succ, mul_div_mul_right _ _ (by norm_num)]
    · rw [toRat_eq]

theorem toRat_neg (d : Decimal) : d.neg.toRat = -d.toRat := by
  rw [toRat_eq, toRat_eq, neg]
  push_cast
  ring

theorem isNegative_iff (d : Decimal) : d.isNegative = true ↔ d.toRat < 0 := by
  have hpos : (0 : ℚ) < 10 ^ d.scale := by positivity
  rw [isNegative, decide_eq_true_iff, toRat_eq, div_neg_iff]
  simp [hpos, not_lt_of_gt hpos]

theorem isZero_iff (d : Decimal) : d.isZero = true ↔ d.toRat = 0 := by
  rw [isZero, beq_iff_eq, toRat_eq, div_eq_zero_iff]
  simp

theorem toRat_abs (d : Decimal) : d.abs.toRat = |d.toRat| := by
  rw [abs]
  split
  · rename_i h
    rw [toRat_neg, abs_of_neg ((isNegative_iff d).mp h)]
  · rename_i h
    rw [abs_of_nonneg (not_lt.mp fun hneg => h ((isNegative_iff d).mpr hneg))]

theorem toRat_of_ofInt? {n : Int} {d : Decimal} (h : ofInt? n = some d) : d.toRat = n := by
  rw [ofInt?] at h
  split at h
  · cases h
    simp [toRat_eq]
  · cases h

/-- The coefficient is the number at the decimal's own number of places. -/
theorem toRat_mul (d : Decimal) : d.toRat * 10 ^ d.scale = d.coefficient := by
  rw [toRat_eq, div_mul_cancel₀]
  positivity

/-- At any larger number of places the number is whole, too. -/
theorem toRat_mul_of_le (d : Decimal) {s : Nat} (h : d.scale ≤ s) :
    d.toRat * 10 ^ s = (d.coefficient * 10 ^ (s - d.scale) : Int) := by
  obtain ⟨k, rfl⟩ := Nat.exists_eq_add_of_le h
  rw [pow_add, ← mul_assoc, toRat_mul, Nat.add_sub_cancel_left]
  push_cast
  rfl

theorem abs_toRat_lt (d : Decimal) : |d.toRat| < coefficientBound := by
  have hpow : (1 : ℚ) ≤ 10 ^ d.scale := one_le_pow₀ (by norm_num)
  have hcoefficient : |(d.coefficient : ℚ)| < coefficientBound := by
    rw [← Int.cast_abs, Int.abs_eq_natAbs]
    exact_mod_cast d.natAbs_lt
  rw [toRat_eq, abs_div, abs_of_pos (by positivity : (0 : ℚ) < 10 ^ d.scale)]
  exact (div_le_self (abs_nonneg _) hpow).trans_lt hcoefficient

/-! ## The nearest whole number -/

/-- A rounded number is within a half, and a tie is even. -/
theorem roundHalfEven_spec (q : ℚ) :
    |q - roundHalfEven q| ≤ 1 / 2 ∧ (|q - roundHalfEven q| = 1 / 2 → Even (roundHalfEven q)) := by
  have hle : (⌊q⌋ : ℚ) ≤ q := Int.floor_le q
  have hlt : q < ⌊q⌋ + 1 := Int.lt_floor_add_one q
  have hdef : roundHalfEven q = if q - ⌊q⌋ < 1 / 2 then ⌊q⌋
      else if 1 / 2 < q - ⌊q⌋ then ⌊q⌋ + 1
      else if ⌊q⌋ % 2 = 0 then ⌊q⌋ else ⌊q⌋ + 1 := rfl
  rw [hdef]
  have habove : |q - ((⌊q⌋ + 1 : Int) : ℚ)| = 1 - (q - ⌊q⌋) := by
    rw [abs_of_nonpos (by push_cast; linarith)]
    push_cast
    ring
  have hbelow : |q - ⌊q⌋| = q - ⌊q⌋ := abs_of_nonneg (by linarith)
  split_ifs with h1 h2 h3
  · rw [hbelow]
    exact ⟨h1.le, fun h => absurd h h1.ne⟩
  · rw [habove]
    exact ⟨by linarith, fun h => by linarith⟩
  · rw [hbelow]
    exact ⟨not_lt.mp h2, fun _ => Int.even_iff.mpr h3⟩
  · rw [habove]
    refine ⟨by linarith, fun _ => ?_⟩
    rw [Int.even_iff]
    omega

/-- There is one whole number within a half that is even where it is a tie. -/
theorem roundHalfEven_eq {q : ℚ} {n : Int} (h : |q - n| ≤ 1 / 2)
    (heven : |q - n| = 1 / 2 → Even n) : roundHalfEven q = n := by
  obtain ⟨hspec, hties⟩ := roundHalfEven_spec q
  set m := roundHalfEven q
  have hm := abs_le.mp hspec
  have hn := abs_le.mp h
  have hle : m ≤ n + 1 := by
    have : (m : ℚ) ≤ ((n + 1 : Int) : ℚ) := by push_cast; linarith
    exact_mod_cast this
  have hge : n ≤ m + 1 := by
    have : (n : ℚ) ≤ ((m + 1 : Int) : ℚ) := by push_cast; linarith
    exact_mod_cast this
  rcases (show m = n ∨ m = n + 1 ∨ n = m + 1 by omega) with heq | heq | heq
  · exact heq
  -- Two neighbours are both a half away, and one of them is odd.
  · have hcast : (m : ℚ) = n + 1 := by exact_mod_cast heq
    have h1 : Even m := hties (by rw [abs_of_nonpos] <;> linarith)
    have h2 : Even n := heven (by rw [abs_of_nonneg] <;> linarith)
    rw [Int.even_iff] at h1 h2
    omega
  · have hcast : (n : ℚ) = m + 1 := by exact_mod_cast heq
    have h1 : Even m := hties (by rw [abs_of_nonneg] <;> linarith)
    have h2 : Even n := heven (by rw [abs_of_nonpos] <;> linarith)
    rw [Int.even_iff] at h1 h2
    omega

theorem roundHalfEven_intCast (n : Int) : roundHalfEven n = n :=
  roundHalfEven_eq (by simp) (by simp)

theorem roundHalfEven_neg (q : ℚ) : roundHalfEven (-q) = -roundHalfEven q := by
  obtain ⟨hspec, hties⟩ := roundHalfEven_spec q
  have habs : |-q - ((-roundHalfEven q : Int) : ℚ)| = |q - roundHalfEven q| := by
    rw [← abs_neg]
    push_cast
    ring_nf
  refine roundHalfEven_eq (by rw [habs]; exact hspec) fun h => ?_
  rw [habs] at h
  exact (hties h).neg

/-- Rounding does not go past a whole number. -/
theorem le_roundHalfEven {q : ℚ} {n : Int} (h : n ≤ q) : n ≤ roundHalfEven q := by
  by_contra hlt
  have hstep : (roundHalfEven q : ℚ) + 1 ≤ n := by exact_mod_cast not_le.mp hlt
  have := abs_le.mp (roundHalfEven_spec q).1
  linarith

theorem roundHalfEven_le {q : ℚ} {n : Int} (h : q ≤ n) : roundHalfEven q ≤ n := by
  have hneg : ((-n : Int) : ℚ) ≤ -q := by push_cast; linarith
  have := le_roundHalfEven hneg
  rw [roundHalfEven_neg] at this
  omega

/-- An even number is reached by everything that is at most a half below it. -/
theorem le_roundHalfEven_iff {q : ℚ} {n : Int} (hn : Even n) :
    n ≤ roundHalfEven q ↔ (n : ℚ) - 1 / 2 ≤ q := by
  obtain ⟨hspec, hties⟩ := roundHalfEven_spec q
  have habs := abs_le.mp hspec
  constructor
  · intro h
    have : (n : ℚ) ≤ roundHalfEven q := by exact_mod_cast h
    linarith
  · intro h
    by_contra hlt
    have hstep : (roundHalfEven q : ℚ) + 1 ≤ n := by exact_mod_cast not_le.mp hlt
    have heq : (n : ℚ) = roundHalfEven q + 1 := by linarith
    have htie : Even (roundHalfEven q) := hties (by rw [abs_of_nonneg] <;> linarith)
    have heq' : n = roundHalfEven q + 1 := by exact_mod_cast heq
    rw [Int.even_iff] at hn htie
    omega

/-! ## Fitting -/

/-- The decimal is the number rounded to `s` places, and these are all the places there is room
for. -/
structure FitsAt (q : ℚ) (s : Nat) (r : Decimal) : Prop where
  scale_le : s ≤ 28
  toRat_eq : r.toRat = roundHalfEven (q * 10 ^ s) / 10 ^ s
  natAbs_lt : (roundHalfEven (q * 10 ^ s)).natAbs < coefficientBound
  le_natAbs : ∀ j, s < j → j ≤ 28 → coefficientBound ≤ (roundHalfEven (q * 10 ^ j)).natAbs

theorem fitFrom_cases (q : ℚ) {s : Nat} (hs : s ≤ 28)
    (habove : ∀ j, s < j → j ≤ 28 → coefficientBound ≤ (roundHalfEven (q * 10 ^ j)).natAbs) :
    (∃ r places, fitFrom q s hs = some r ∧ FitsAt q places r) ∨
      (fitFrom q s hs = none ∧
        ∀ j ≤ 28, coefficientBound ≤ (roundHalfEven (q * 10 ^ j)).natAbs) := by
  induction s with
  | zero =>
    rw [fitFrom]
    split
    · rename_i hc
      refine .inl ⟨_, 0, rfl, hs, by rw [toRat_ofScaled, pow_zero, mul_one], ?_, habove⟩
      rwa [pow_zero, mul_one]
    · rename_i hc
      refine .inr ⟨rfl, fun j hj => ?_⟩
      rcases Nat.eq_zero_or_pos j with rfl | hpos
      · rw [pow_zero, mul_one]
        exact not_lt.mp hc
      · exact habove j hpos hj
  | succ s ih =>
    have hcast : ((powerOfTen (s + 1) : Nat) : ℚ) = 10 ^ (s + 1) := by
      rw [powerOfTen_eq, Nat.cast_pow, Nat.cast_ofNat]
    rw [fitFrom, hcast]
    split
    · rename_i hc
      exact .inl ⟨_, s + 1, rfl, hs, toRat_ofScaled .., hc, habove⟩
    · rename_i hc
      refine ih (by omega) fun j hlt hj => ?_
      rcases Nat.eq_or_lt_of_le hlt with rfl | hlt
      · exact not_lt.mp hc
      · exact habove j hlt hj

/-- **What fitting finds**: the number rounded to as many places as there is room for, or nothing
where there is no room at all. -/
theorem fit_cases (q : ℚ) :
    (∃ r s, fit q = some r ∧ FitsAt q s r) ∨
      (fit q = none ∧ ∀ j ≤ 28, coefficientBound ≤ (roundHalfEven (q * 10 ^ j)).natAbs) :=
  fitFrom_cases q (by omega) fun j hlt hj => by omega

/-- Some decimal stands for the number. -/
def IsRepresentable (q : ℚ) : Prop := ∃ d : Decimal, d.toRat = q

theorem isRepresentable_of_mul {q : ℚ} {c : Int} {s : Nat} (hs : s ≤ 28)
    (hc : c.natAbs < coefficientBound) (h : q * 10 ^ s = c) : IsRepresentable q :=
  ⟨ofScaled c s hs hc, by
    rw [toRat_ofScaled, ← h, mul_div_assoc, div_self (by positivity), mul_one]⟩

/-- A number that a decimal stands for is fitted without a loss. -/
theorem fit_of_isRepresentable {q : ℚ} (h : IsRepresentable q) :
    ∃ r, fit q = some r ∧ r.toRat = q := by
  obtain ⟨d, rfl⟩ := h
  have hown : (roundHalfEven (d.toRat * 10 ^ d.scale)).natAbs < coefficientBound := by
    rw [toRat_mul, roundHalfEven_intCast]
    exact d.natAbs_lt
  rcases fit_cases d.toRat with ⟨r, s, hr, hfits⟩ | ⟨_, hnone⟩
  · have hle : d.scale ≤ s := by
      by_contra hlt
      have := hfits.le_natAbs d.scale (not_le.mp hlt) d.scale_le
      omega
    refine ⟨r, hr, ?_⟩
    rw [hfits.toRat_eq, toRat_mul_of_le d hle, roundHalfEven_intCast, ← toRat_mul_of_le d hle,
      mul_div_assoc, div_self (by positivity), mul_one]
  · have := hnone d.scale d.scale_le
    omega

/-- A whole number needs room for itself. -/
theorem isRepresentable_intCast (n : Int) :
    IsRepresentable n ↔ n.natAbs < coefficientBound := by
  constructor
  · rintro ⟨d, hd⟩
    have hmul : n * 10 ^ d.scale = d.coefficient := by
      have := toRat_mul d
      rw [hd] at this
      exact_mod_cast this
    calc n.natAbs ≤ n.natAbs * 10 ^ d.scale := Nat.le_mul_of_pos_right _ (by positivity)
      _ = (n * 10 ^ d.scale).natAbs := by rw [Int.natAbs_mul, Int.natAbs_pow]; rfl
      _ < coefficientBound := by rw [hmul]; exact d.natAbs_lt
  · intro h
    exact isRepresentable_of_mul (Nat.zero_le 28) h (by rw [pow_zero, mul_one])

/-- A whole number is fitted without a loss, or has no room and is fitted nowhere. -/
theorem fit_intCast (n : Int) :
    (∃ r, fit (n : ℚ) = some r ∧ r.toRat = n) ∨
      (fit (n : ℚ) = none ∧ ¬ IsRepresentable (n : ℚ)) := by
  by_cases h : IsRepresentable (n : ℚ)
  · exact .inl (fit_of_isRepresentable h)
  · refine .inr ⟨?_, h⟩
    rw [isRepresentable_intCast, not_lt] at h
    rcases fit_cases (n : ℚ) with ⟨r, s, _, hfits⟩ | ⟨hnone, _⟩
    · have hcast : (n : ℚ) * 10 ^ s = (n * 10 ^ s : Int) := by push_cast; rfl
      have hlt := hfits.natAbs_lt
      rw [hcast, roundHalfEven_intCast, Int.natAbs_mul, Int.natAbs_pow] at hlt
      have hle : n.natAbs ≤ n.natAbs * 10 ^ s := Nat.le_mul_of_pos_right _ (by positivity)
      exact absurd ((h.trans hle).trans_lt hlt) (lt_irrefl _)
    · exact hnone

/-- There is room for all 28 places of a number up to one. -/
theorem fit_of_le_one {q : ℚ} (h0 : 0 ≤ q) (h1 : q ≤ 1) : ∃ r, fit q = some r ∧ FitsAt q 28 r := by
  have hle : roundHalfEven (q * 10 ^ 28) ≤ 10 ^ 28 := roundHalfEven_le (by push_cast; linarith)
  have hge : 0 ≤ roundHalfEven (q * 10 ^ 28) := le_roundHalfEven (by push_cast; positivity)
  have hroom : (roundHalfEven (q * 10 ^ 28)).natAbs < coefficientBound := by
    rw [coefficientBound]
    omega
  rcases fit_cases q with ⟨r, s, hr, hfits⟩ | ⟨_, hnone⟩
  · have hs : s = 28 := by
      by_contra hne
      have hfull := hfits.le_natAbs 28 (by have := hfits.scale_le; omega) le_rfl
      omega
    exact ⟨r, hr, hs ▸ hfits⟩
  · have hfull := hnone 28 le_rfl
    omega

theorem neg_isRepresentable {q : ℚ} : IsRepresentable (-q) ↔ IsRepresentable q := by
  constructor
  · rintro ⟨d, hd⟩
    exact ⟨d.neg, by rw [toRat_neg, hd, neg_neg]⟩
  · rintro ⟨d, rfl⟩
    exact ⟨d.neg, toRat_neg d⟩

/-! ## Dropping places -/

/-- Rounding to a number of places, a half going up. -/
theorem toRat_roundUp (d : Decimal) (places : Nat) :
    (d.roundUp places).toRat = ⌊d.toRat * 10 ^ places + 1 / 2⌋ / 10 ^ places := by
  rw [roundUp]
  split
  · rename_i h
    rw [toRat_mul_of_le d h, Int.floor_intCast_add, floor_half, add_zero, ← toRat_mul_of_le d h,
      mul_div_assoc, div_self (by positivity), mul_one]
  · rename_i h
    obtain ⟨k, hk⟩ := Nat.exists_eq_add_of_le (not_le.mp h).le
    have hfloor : ⌊d.toRat * 10 ^ places + 1 / 2⌋
        = (2 * d.coefficient + 10 ^ k) / (2 * 10 ^ k) := by
      rw [show (2 * 10 ^ k : Int) = ((2 * 10 ^ k : Nat) : Int) by push_cast; rfl,
        ← Rat.floor_intCast_div_natCast]
      congr 1
      rw [toRat_eq, hk, pow_add]
      push_cast
      field_simp
    rw [toRat_ofScaled, hfloor, hk, Nat.add_sub_cancel_left, powerOfTen_eq]
    push_cast
    rfl

end Decimal

end TreePath
