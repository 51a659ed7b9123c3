/-
TreePath.Number.Decimal — decimal numbers of at most 28 places and 96 bits.

A decimal is a whole coefficient and a number of places. The coefficient is smaller than 2^96 in
magnitude and there are at most 28 places; no representation keeps a zero that it could drop, so two
decimals are equal as data exactly when they are equal as numbers.

Every operation is a rule on the exact rational values: compute exactly, then take the nearest
decimal with as many places as fit, a tie going to the even neighbour. Where even a whole number is
too large for the coefficient there is no result.
-/

namespace TreePath

/-- The number that is written as a one and `k` zeros. -/
def powerOfTen (k : Nat) : Nat := Nat.pow 10 k

theorem powerOfTen_zero : powerOfTen 0 = 1 := rfl

theorem powerOfTen_succ (k : Nat) : powerOfTen (k + 1) = powerOfTen k * 10 := rfl

theorem powerOfTen_pos (k : Nat) : 0 < powerOfTen k := Nat.pow_pos (by decide)

/-- Coefficients stay below this magnitude, 2^96. -/
def Decimal.coefficientBound : Nat := 79228162514264337593543950336

/-- The coefficient divided by `powerOfTen scale`. -/
structure Decimal where
  coefficient : Int
  scale : Nat
  scale_le : scale ≤ 28
  natAbs_lt : coefficient.natAbs < Decimal.coefficientBound
  reduced : scale = 0 ∨ coefficient % 10 ≠ 0
deriving DecidableEq

namespace Decimal

/-- The largest number of places. -/
def maxScale : Nat := 28

/-! ## Building -/

/-- The decimal `c / powerOfTen s`, with the zeros at the end of its fraction dropped. -/
def ofScaled (c : Int) : (s : Nat) → s ≤ 28 → c.natAbs < coefficientBound → Decimal
  | 0, hs, hc => ⟨c, 0, hs, hc, .inl rfl⟩
  | s + 1, hs, hc =>
    if h : c % 10 = 0 then ofScaled (c / 10) s (by omega) (by omega)
    else ⟨c, s + 1, hs, hc, .inr h⟩

/-- The whole number `n`, if it is small enough. -/
def ofInt? (n : Int) : Option Decimal :=
  if h : n.natAbs < coefficientBound then some ⟨n, 0, by omega, h, .inl rfl⟩ else none

/-- A 64-bit integer always fits. -/
def ofInt64 (n : Int64) : Decimal :=
  ⟨n.toInt, 0, by omega, by
    have h := n.toInt_lt
    have h' := n.le_toInt
    simp only [coefficientBound]
    omega, .inl rfl⟩

def zero : Decimal := ⟨0, 0, by decide, by decide, .inl rfl⟩

def one : Decimal := ⟨1, 0, by decide, by decide, .inl rfl⟩

/-- The number the decimal stands for. -/
def toRat (d : Decimal) : Rat := mkRat d.coefficient (powerOfTen d.scale)

/-! ## Fitting a number -/

/-- The nearest whole number; a tie goes to the even one. -/
def roundHalfEven (q : Rat) : Int :=
  let below := q.floor
  let rest := q - below
  if rest < 1 / 2 then below
  else if 1 / 2 < rest then below + 1
  else if below % 2 = 0 then below
  else below + 1

/-- The nearest decimal with the largest number of places, at most `s`, whose coefficient fits. -/
def fitFrom (q : Rat) : (s : Nat) → s ≤ 28 → Option Decimal
  | 0, hs =>
    let c := roundHalfEven q
    if hc : c.natAbs < coefficientBound then some (ofScaled c 0 hs hc) else none
  | s + 1, hs =>
    let c := roundHalfEven (q * powerOfTen (s + 1))
    if hc : c.natAbs < coefficientBound then some (ofScaled c (s + 1) hs hc)
    else fitFrom q s (by omega)

/-- The nearest decimal, with as many places as fit; `none` if the number is too large. -/
def fit (q : Rat) : Option Decimal := fitFrom q 28 (by omega)

/-! ## Arithmetic -/

def isZero (d : Decimal) : Bool := d.coefficient == 0

def isNegative (d : Decimal) : Bool := d.coefficient < 0

def neg (d : Decimal) : Decimal :=
  ⟨-d.coefficient, d.scale, d.scale_le, by have := d.natAbs_lt; omega, by
    rcases d.reduced with h | h
    · exact .inl h
    · exact .inr (by omega)⟩

def abs (d : Decimal) : Decimal := if d.isNegative then d.neg else d

/-- The sum, or nothing if it is too large. -/
def add? (a b : Decimal) : Option Decimal := fit (a.toRat + b.toRat)

/-- The difference, or nothing if it is too large. -/
def sub? (a b : Decimal) : Option Decimal := fit (a.toRat - b.toRat)

/-- The product, or nothing if it is too large. -/
def mul? (a b : Decimal) : Option Decimal := fit (a.toRat * b.toRat)

/-- The quotient, or nothing if it is too large. The divisor is not zero. -/
def div? (a b : Decimal) : Option Decimal := fit (a.toRat / b.toRat)

/-- The whole number next to the quotient on the side of zero. -/
def truncateRat (q : Rat) : Int := if q < 0 then q.ceil else q.floor

/-- What is left of `a` after taking `b` as many whole times as its magnitude allows; it has the
sign of `a`. The divisor is not zero. -/
def rem? (a b : Decimal) : Option Decimal :=
  fit (a.toRat - b.toRat * truncateRat (a.toRat / b.toRat))

/-! ## Order -/

/-- Decimals are ordered as numbers. -/
def compare (a b : Decimal) : Ordering :=
  if a.toRat < b.toRat then .lt else if b.toRat < a.toRat then .gt else .eq

/-! ## Whole parts and rounding -/

/-- Dropping a positive number of digits leaves room for a carry. -/
private theorem natAbs_shift_lt {c n : Int} {b : Nat} (hc : c.natAbs < b) (hn : 2 ≤ n) :
    ((2 * c + n) / (2 * n)).natAbs < b := by
  have hpos : (0 : Int) < 2 * n := by omega
  by_cases h : 0 ≤ c
  · have h1 : (2 * c + n) / (2 * n) < c + 1 + 1 := by
      apply Int.ediv_lt_of_lt_mul hpos
      have : (c + 1 + 1) * (2 * n) = 2 * n * c + 4 * n := by
        rw [Int.mul_comm, Int.add_assoc, Int.mul_add]; omega
      have h2 : 2 * 2 * c ≤ 2 * n * c := Int.mul_le_mul_of_nonneg_right (by omega) h
      omega
    have h0 : 0 ≤ (2 * c + n) / (2 * n) := Int.ediv_nonneg (by omega) (by omega)
    by_cases hz : c = 0
    · subst hz
      have : (2 * 0 + n) / (2 * n) < 1 := Int.ediv_lt_of_lt_mul hpos (by omega)
      omega
    · have h3 : (2 * c + n) / (2 * n) < c + 1 := by
        apply Int.ediv_lt_of_lt_mul hpos
        have : (c + 1) * (2 * n) = 2 * n * c + 2 * n := by
          rw [Int.mul_comm, Int.mul_add]; omega
        have h2 : 2 * 2 * c ≤ 2 * n * c := Int.mul_le_mul_of_nonneg_right (by omega) h
        omega
      omega
  · have h1 : c ≤ (2 * c + n) / (2 * n) := by
      apply Int.le_ediv_of_mul_le hpos
      have h2 : c * (2 * n) ≤ c * 2 := Int.mul_le_mul_of_nonpos_left (by omega) (by omega)
      omega
    have h4 : (2 * c + n) / (2 * n) < 1 := Int.ediv_lt_of_lt_mul hpos (by omega)
    omega

/-- The quotient by a positive number is no larger than the dividend. -/
private theorem natAbs_floor_lt {c n : Int} {b : Nat} (hc : c.natAbs < b) (hn : 1 ≤ n) :
    (c / n).natAbs < b := by
  by_cases h : 0 ≤ c
  · have h0 : 0 ≤ c / n := Int.ediv_nonneg h (by omega)
    have h1 : c / n ≤ c := Int.ediv_le_self n h
    omega
  · have h1 : c ≤ c / n := by
      apply Int.le_ediv_of_mul_le (by omega)
      have h2 : c * n ≤ c * 1 := Int.mul_le_mul_of_nonpos_left (by omega) (by omega)
      omega
    have h4 : c / n < 1 := Int.ediv_lt_of_lt_mul (by omega) (by omega)
    omega

/-- The largest whole decimal not above `d`. -/
def floor (d : Decimal) : Decimal :=
  ⟨d.coefficient / powerOfTen d.scale, 0, by omega,
    natAbs_floor_lt d.natAbs_lt (by have := powerOfTen_pos d.scale; omega), .inl rfl⟩

/-- The smallest whole decimal not below `d`. -/
def ceil (d : Decimal) : Decimal := d.neg.floor.neg

/-- The whole number next to `d` on the side of zero. -/
def truncate (d : Decimal) : Int := Int.tdiv d.coefficient (powerOfTen d.scale)

/-- The nearest decimal with at most `places` places; a tie goes to the larger one. -/
def roundUp (d : Decimal) (places : Nat) : Decimal :=
  if h : d.scale ≤ places then d
  else
    let n := powerOfTen (d.scale - places)
    ofScaled ((2 * d.coefficient + n) / (2 * n)) places
      (by have := d.scale_le; omega)
      (natAbs_shift_lt d.natAbs_lt (by
        obtain ⟨k, hk⟩ : ∃ k, d.scale - places = k + 1 := ⟨d.scale - places - 1, by omega⟩
        have := powerOfTen_pos k
        show (2 : Int) ≤ powerOfTen (d.scale - places)
        rw [hk, powerOfTen_succ]
        omega))

end Decimal

end TreePath
