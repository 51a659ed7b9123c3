/-
TreePath.Proofs.Atomic.Division — whole division and what it leaves.

Two operations divide in whole numbers: one gives the whole quotient, the other what is left.
Integers are divided exactly, decimals by way of a fitted quotient, and the rest is found on a third
way. `arithmetic_division` compares both with the exact quotient without its fraction. They agree
with it and so with each other, with two exceptions: a quotient of decimals that is as near to the
next whole number as `NearNext` says is taken for that number, and the least integer divided by
minus one leaves nothing, but overflows like its quotient.
-/
import TreePath.Proofs.Atomic.WellFormed
import TreePath.Proofs.Number.Quotient

namespace TreePath.AtomicValue

open Decimal

/-- The outcome is the integer, or an overflow because the integer has more than 64 bits. -/
def IsInteger (t : Int) (outcome : Except Error AtomicValue) : Prop :=
  (∃ j : Int64, outcome = .ok (integer j) ∧ j.toInt = t) ∨
    (outcome = .error overflow ∧ ∀ j : Int64, j.toInt ≠ t)

/-- The operands are the least integer and minus one. -/
def LeastByMinusOne (a b : AtomicValue) : Prop :=
  a.integer? = some Int64.minValue ∧ b.integer? = some (-1)

/-- The operands are not both integers, and their quotient is near to the next whole number. -/
def CarriesOver (a b : AtomicValue) (q : ℚ) : Prop :=
  (a.integer? = none ∨ b.integer? = none) ∧ NearNext q

theorem isInteger_integerResult (t : Int) : IsInteger t (integerResult t) := by
  rw [integerResult]
  rcases Int64.ofInt?_cases t with ⟨j, hj, htoInt⟩ | ⟨hnone, hno⟩
  · exact .inl ⟨j, by rw [hj]; rfl, htoInt⟩
  · exact .inr ⟨by rw [hnone]; rfl, hno⟩

/-! ## Integers -/

section Integers

variable {i j : Int64}

theorem toInt_ne_zero (hj : j ≠ 0) : j.toInt ≠ 0 := fun h => hj (Int64.toInt_inj.mp h)

/-- Only the quotient of the least integer by minus one has more than 64 bits. -/
theorem ofInt?_tdiv (hj : j ≠ 0) :
    Int64.ofInt? (i.toInt.tdiv j.toInt) = none ↔ i = Int64.minValue ∧ j = -1 := by
  constructor
  · intro hnone
    have hrange : ¬ (-9223372036854775808 ≤ i.toInt.tdiv j.toInt ∧
        i.toInt.tdiv j.toInt ≤ 9223372036854775807) := by
      intro h
      rw [Int64.ofInt?, if_pos h] at hnone
      cases hnone
    have hle := i.le_toInt
    have hlt := i.toInt_lt
    have hnatAbs : (i.toInt.tdiv j.toInt).natAbs = i.toInt.natAbs / j.toInt.natAbs :=
      Int.natAbs_tdiv ..
    have hne := toInt_ne_zero hj
    rcases (show 2 ≤ j.toInt.natAbs ∨ j.toInt = 1 ∨ j.toInt = -1 by omega) with h2 | h1 | h1
    · have : i.toInt.natAbs / j.toInt.natAbs ≤ i.toInt.natAbs / 2 :=
        Nat.div_le_div_left h2 (by decide)
      omega
    · rw [h1, Int.tdiv_one] at hrange
      omega
    · rw [h1, Int.tdiv_neg, Int.tdiv_one] at hrange
      exact ⟨Int64.toInt_inj.mp (show i.toInt = -9223372036854775808 by omega),
        Int64.toInt_inj.mp h1⟩
  · rintro ⟨rfl, rfl⟩
    rfl

/-- Apart from that quotient, what an integer leaves is found, and is an integer. -/
theorem exists_integerArithmetic_mod (hj : j ≠ 0) (h : ¬ (i = Int64.minValue ∧ j = -1)) :
    ∃ r : Int64, integerArithmetic .mod i j = .ok (integer r) ∧
      r.toInt = i.toInt - j.toInt * i.toInt.tdiv j.toInt := by
  have hmod : integerArithmetic .mod i j = integerResult (i.toInt.tmod j.toInt) := by
    simp only [integerArithmetic]
    rw [if_neg hj, if_neg (mt (ofInt?_tdiv hj).mp h)]
  rw [hmod, ← Int.tmod_def]
  rcases isInteger_integerResult (i.toInt.tmod j.toInt) with ⟨r, hr, htoInt⟩ | ⟨_, hno⟩
  · exact ⟨r, hr, htoInt⟩
  · -- What is left is smaller than the divisor.
    have hnatAbs : (i.toInt.tmod j.toInt).natAbs < j.toInt.natAbs := by
      rw [Int.natAbs_tmod]
      exact Nat.mod_lt _ (Int.natAbs_pos.mpr (toInt_ne_zero hj))
    have hle := j.le_toInt
    have hlt := j.toInt_lt
    exact absurd (Int64.toInt_ofInt_of_le (by omega) (by omega)) (hno _)

end Integers

/-! ## Decimals -/

theorem toInt_ne_of_large {t : Int} (ht : 2 ^ 63 < t.natAbs) (j : Int64) : j.toInt ≠ t := by
  have hle := j.le_toInt
  have hlt := j.toInt_lt
  omega

/-- Numbers of more than 64 bits all overflow. -/
theorem isInteger_of_large {t u : Int} (ht : 2 ^ 63 < t.natAbs) (hu : 2 ^ 63 < u.natAbs) :
    IsInteger t (integerResult u) := by
  rcases isInteger_integerResult u with ⟨j, _, hj⟩ | ⟨herror, _⟩
  · exact absurd hj (toInt_ne_of_large hu j)
  · exact .inr ⟨herror, toInt_ne_of_large ht⟩

/-- The integer that is taken from the fitted quotient is the exact one, or the next. -/
theorem isInteger_decimalArithmetic_idiv {x y : Decimal} (hy : y.toRat ≠ 0) {t : Int}
    (ht : IsTruncation (x.toRat / y.toRat) t) :
    IsInteger (if NearNext (x.toRat / y.toRat) then t + SignType.sign (x.toRat / y.toRat) else t)
      (decimalArithmetic .idiv x y) := by
  have hidiv : decimalArithmetic .idiv x y
      = (orOverflow (fit (x.toRat / y.toRat))).bind fun q => integerResult q.truncate := by
    simp only [decimalArithmetic]
    rw [if_neg (mt (isZero_iff y).mp hy)]
    rfl
  rw [hidiv]
  rcases Nat.lt_or_ge (2 ^ 63) t.natAbs with hlarge | hsmall
  · have hnext : 2 ^ 63 < Int.natAbs (if NearNext (x.toRat / y.toRat)
        then t + SignType.sign (x.toRat / y.toRat) else t) := by
      split
      · exact hlarge.trans_le ht.natAbs_le_add_sign
      · exact hlarge
    rcases fit_cases (x.toRat / y.toRat) with ⟨q, s, hq, hfits⟩ | ⟨hnone, _⟩
    · rw [hq]
      exact isInteger_of_large hnext (hlarge.trans_le (hfits.natAbs_le_truncate ht))
    · rw [hnone]
      exact .inr ⟨rfl, toInt_ne_of_large hnext⟩
  · obtain ⟨q, s, hq, hfits⟩ := exists_fit ht (by rw [coefficientBound]; omega)
    have htruncate := hfits.truncate_eq ht (by rw [coefficientBound]; omega)
    rw [hq, ← htruncate]
    exact isInteger_integerResult _

theorem exists_decimalArithmetic_mod {x y : Decimal} (hy : y.toRat ≠ 0) {t : Int}
    (ht : IsTruncation (x.toRat / y.toRat) t) :
    ∃ r : Decimal, decimalArithmetic .mod x y = .ok (decimal r) ∧
      r.toRat = x.toRat - y.toRat * t := by
  obtain ⟨r, hr, htoRat⟩ := rem?_eq x hy ht
  refine ⟨r, ?_, htoRat⟩
  simp only [decimalArithmetic]
  rw [if_neg (mt (isZero_iff y).mp hy), hr]
  rfl

/-! ## Values -/

theorem decimal?_eq_of_integer? {v : AtomicValue} {i : Int64} (h : v.integer? = some i) :
    v.decimal? = some (ofInt64 i) := by
  cases v <;> cases h <;> rfl

theorem arithmetic_of_integers {op : Arithmetic} {a b : AtomicValue} {i j : Int64}
    (ha : a.integer? = some i) (hb : b.integer? = some j) :
    arithmetic op a b = integerArithmetic op i j := by
  rw [arithmetic, decimal?_eq_of_integer? ha, decimal?_eq_of_integer? hb]
  simp only [ha, hb]

/-- The least integer by minus one has no quotient of 64 bits, and is refused for the rest, too. -/
theorem arithmetic_of_leastByMinusOne {a b : AtomicValue} (h : LeastByMinusOne a b) :
    arithmetic .idiv a b = .error overflow ∧ arithmetic .mod a b = .error overflow := by
  rw [arithmetic_of_integers h.1 h.2, arithmetic_of_integers h.1 h.2]
  exact ⟨rfl, rfl⟩

section Values

variable {a b : AtomicValue} {x y : Decimal} {t : Int}

theorem arithmetic_of_decimals {op : Arithmetic} (ha : a.decimal? = some x)
    (hb : b.decimal? = some y) (h : a.integer? = none ∨ b.integer? = none) :
    arithmetic op a b = decimalArithmetic op x y := by
  rw [arithmetic, ha, hb]
  rcases h with h | h
  · simp only [h]
  · cases hi : a.integer? <;> simp only [h]

/-- Two numbers are two integers whose quotient is cut off in whole division, or are divided as
decimals. -/
theorem integers_or_decimals (ha : a.decimal? = some x) (hb : b.decimal? = some y)
    (hy : y.toRat ≠ 0) (ht : IsTruncation (x.toRat / y.toRat) t) :
    (∃ i j : Int64, a.integer? = some i ∧ b.integer? = some j ∧ j ≠ 0 ∧
      x.toRat = i.toInt ∧ y.toRat = j.toInt ∧ t = i.toInt.tdiv j.toInt) ∨
    (a.integer? = none ∨ b.integer? = none) := by
  cases hi : a.integer? with
  | none => exact .inr (.inl rfl)
  | some i =>
    cases hj : b.integer? with
    | none => exact .inr (.inr rfl)
    | some j =>
      have hx : x.toRat = i.toInt := by
        rw [decimal?_eq_of_integer? hi] at ha
        cases ha
        exact toRat_ofInt64 i
      have hy' : y.toRat = j.toInt := by
        rw [decimal?_eq_of_integer? hj] at hb
        cases hb
        exact toRat_ofInt64 j
      have hj0 : j ≠ 0 := by
        rintro rfl
        exact hy hy'
      rw [hx, hy'] at ht
      exact .inl ⟨i, j, rfl, rfl, hj0, hx, hy', ht.unique (isTruncation_tdiv _ _)⟩

theorem exists_arithmetic_mod (ha : a.decimal? = some x) (hb : b.decimal? = some y)
    (hy : y.toRat ≠ 0) (ht : IsTruncation (x.toRat / y.toRat) t) (h : ¬ LeastByMinusOne a b) :
    ∃ m n, arithmetic .mod a b = .ok m ∧ m.decimal? = some n ∧
      n.toRat = x.toRat - y.toRat * t := by
  rcases integers_or_decimals ha hb hy ht with ⟨i, j, hi, hj, hj0, hx, hy', rfl⟩ | hdecimal
  · have hleast : ¬ (i = Int64.minValue ∧ j = -1) :=
      fun hleast => h ⟨by rw [hi, hleast.1], by rw [hj, hleast.2]⟩
    obtain ⟨r, hr, hrest⟩ := exists_integerArithmetic_mod hj0 hleast
    refine ⟨integer r, ofInt64 r, by rw [arithmetic_of_integers hi hj, hr], rfl, ?_⟩
    rw [toRat_ofInt64, hrest, hx, hy']
    push_cast
    rfl
  · obtain ⟨r, hr, hrest⟩ := exists_decimalArithmetic_mod hy ht
    exact ⟨decimal r, r, by rw [arithmetic_of_decimals ha hb hdecimal, hr], rfl, hrest⟩

theorem isInteger_arithmetic_idiv (ha : a.decimal? = some x) (hb : b.decimal? = some y)
    (hy : y.toRat ≠ 0) (ht : IsTruncation (x.toRat / y.toRat) t)
    (h : ¬ CarriesOver a b (x.toRat / y.toRat)) : IsInteger t (arithmetic .idiv a b) := by
  rcases integers_or_decimals ha hb hy ht with ⟨i, j, hi, hj, hj0, _, _, rfl⟩ | hdecimal
  · have hidiv : integerArithmetic .idiv i j = integerResult (i.toInt.tdiv j.toInt) := if_neg hj0
    rw [arithmetic_of_integers hi hj, hidiv]
    exact isInteger_integerResult _
  · have hinteger := isInteger_decimalArithmetic_idiv hy ht
    rw [if_neg fun hnear => h ⟨hdecimal, hnear⟩] at hinteger
    rwa [arithmetic_of_decimals ha hb hdecimal]

theorem isInteger_arithmetic_idiv_of_carriesOver (ha : a.decimal? = some x)
    (hb : b.decimal? = some y) (hy : y.toRat ≠ 0) (ht : IsTruncation (x.toRat / y.toRat) t)
    (h : CarriesOver a b (x.toRat / y.toRat)) :
    IsInteger (t + SignType.sign (x.toRat / y.toRat)) (arithmetic .idiv a b) := by
  have hinteger := isInteger_decimalArithmetic_idiv hy ht
  rw [if_pos h.2] at hinteger
  rwa [arithmetic_of_decimals ha hb h.1]

/-- **Whole division and its rest**: the rest of the exact whole quotient is found, except for the
least integer by minus one, and the quotient is found as far as it has 64 bits, except where it
carries over to the next whole number. Where it does not, quotient and rest make up the dividend. -/
theorem arithmetic_division (ha : a.decimal? = some x) (hb : b.decimal? = some y)
    (hy : y.toRat ≠ 0) :
    ∃ t : Int, IsTruncation (x.toRat / y.toRat) t ∧
      (¬ LeastByMinusOne a b → ∃ m n, arithmetic .mod a b = .ok m ∧ m.decimal? = some n ∧
        n.toRat = x.toRat - y.toRat * t) ∧
      (LeastByMinusOne a b → arithmetic .mod a b = .error overflow) ∧
      (¬ CarriesOver a b (x.toRat / y.toRat) → IsInteger t (arithmetic .idiv a b)) ∧
      (CarriesOver a b (x.toRat / y.toRat) →
        IsInteger (t + SignType.sign (x.toRat / y.toRat)) (arithmetic .idiv a b)) ∧
      (¬ CarriesOver a b (x.toRat / y.toRat) → ∀ j, arithmetic .idiv a b = .ok (integer j) →
        ∃ m n, arithmetic .mod a b = .ok m ∧ m.decimal? = some n ∧
          x.toRat = y.toRat * j.toInt + n.toRat) := by
  have ht := isTruncation_truncateRat (x.toRat / y.toRat)
  refine ⟨_, ht, exists_arithmetic_mod ha hb hy ht,
    fun hleast => (arithmetic_of_leastByMinusOne hleast).2, isInteger_arithmetic_idiv ha hb hy ht,
    isInteger_arithmetic_idiv_of_carriesOver ha hb hy ht, fun hcarries j hj => ?_⟩
  have hleast : ¬ LeastByMinusOne a b := by
    intro hleast
    rw [(arithmetic_of_leastByMinusOne hleast).1] at hj
    cases hj
  obtain ⟨m, n, hm, hn, hrest⟩ := exists_arithmetic_mod ha hb hy ht hleast
  refine ⟨m, n, hm, hn, ?_⟩
  rcases isInteger_arithmetic_idiv ha hb hy ht hcarries with ⟨i, hi, htoInt⟩ | ⟨herror, _⟩
  · rw [hi] at hj
    cases hj
    rw [htoInt, hrest]
    ring
  · rw [herror] at hj
    cases hj

end Values

def minusSevenAndAHalf : Decimal := ⟨-75, 1, by decide, by decide, by decide⟩

/-- Minus seven and a half divided by the integer two. -/
theorem arithmetic_division_by_two :
    ∃ t : Int, IsTruncation (minusSevenAndAHalf.toRat / (ofInt64 2).toRat) t ∧
      (∃ m n, arithmetic .mod (decimal minusSevenAndAHalf) (integer 2) = .ok m ∧
        m.decimal? = some n ∧ n.toRat = minusSevenAndAHalf.toRat - (ofInt64 2).toRat * t) ∧
      IsInteger t (arithmetic .idiv (decimal minusSevenAndAHalf) (integer 2)) := by
  obtain ⟨t, ht, hmod, _, hidiv, _⟩ := arithmetic_division
    (a := decimal minusSevenAndAHalf) (b := integer 2) rfl rfl (by decide +kernel)
  exact ⟨t, ht, hmod (by rintro ⟨h, _⟩; cases h), hidiv (mt And.right (by decide +kernel))⟩

/-- The largest coefficient at 26 places. -/
def largestAtPlaces : Decimal :=
  ⟨79228162514264337593543950335, 26, by decide, by decide, by decide⟩

/-- One less in the last place. -/
def nextToLargest : Decimal :=
  ⟨79228162514264337593543950334, 26, by decide, by decide, by decide⟩

/-- The quotient of these decimals is less than one, but its whole part is one; and nothing is left
of the least integer by minus one, but it overflows. -/
theorem arithmetic_near_whole :
    (IsTruncation (nextToLargest.toRat / largestAtPlaces.toRat) 0 ∧
      arithmetic .idiv (decimal nextToLargest) (decimal largestAtPlaces) = .ok (integer 1) ∧
      arithmetic .mod (decimal nextToLargest) (decimal largestAtPlaces)
        = .ok (decimal nextToLargest)) ∧
    IsTruncation ((Int64.minValue.toInt : ℚ) / ((-1 : Int64).toInt : ℚ)) 9223372036854775808 ∧
      arithmetic .mod (integer Int64.minValue) (integer (-1)) = .error overflow := by
  refine ⟨⟨⟨?_, ?_, ?_⟩, ?_, ?_⟩, ⟨?_, ?_, ?_⟩, ?_⟩ <;> decide +kernel

end TreePath.AtomicValue
