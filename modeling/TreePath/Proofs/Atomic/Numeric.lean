/-
TreePath.Proofs.Atomic.Numeric — arithmetic gives integers and decimals.

Results of arithmetic leave the narrower integer types: whatever the operands are, a result is of
the type of integers or of the type of decimals (`isNumber_arithmetic`, `isNumber_negate`).
-/
import TreePath.Atomic.Numeric

namespace TreePath.AtomicValue

/-- An integer or a decimal, not of a narrower type. -/
def IsNumber (v : AtomicValue) : Prop := (∃ i, v = integer i) ∨ ∃ d, v = decimal d

theorem IsNumber.isNumeric {v : AtomicValue} (h : v.IsNumber) : v.isNumeric = true := by
  rcases h with ⟨i, rfl⟩ | ⟨d, rfl⟩ <;> rfl

theorem isNumber_integerResult {i : Int} {v : AtomicValue} (h : integerResult i = .ok v) :
    v.IsNumber := by
  rw [integerResult] at h
  cases hi : Int64.ofInt? i with
  | none => rw [hi] at h; cases h
  | some j => rw [hi] at h; cases h; exact .inl ⟨j, rfl⟩

/-- A decimal that may have overflowed. -/
theorem isNumber_map_decimal {r : Except Error Decimal} {v : AtomicValue}
    (h : r.map decimal = .ok v) : v.IsNumber := by
  cases r with
  | error e => cases h
  | ok d => cases h; exact .inr ⟨d, rfl⟩

theorem isNumber_negate {v w : AtomicValue} (h : v.negate = .ok w) : w.IsNumber := by
  rw [negate.eq_def] at h
  split at h
  · cases h; exact .inr ⟨_, rfl⟩
  · split at h
    · exact isNumber_integerResult h
    · cases h

theorem isNumber_integerArithmetic {op : Arithmetic} {i j : Int64} {v : AtomicValue}
    (h : integerArithmetic op i j = .ok v) : v.IsNumber := by
  cases op <;> simp only [integerArithmetic] at h
  case add | sub | mul => exact isNumber_integerResult h
  case div =>
    split at h
    · cases h
    · exact isNumber_map_decimal h
  case idiv =>
    split at h
    · cases h
    · exact isNumber_integerResult h
  case mod =>
    split at h
    · cases h
    · split at h
      · cases h
      · exact isNumber_integerResult h

theorem isNumber_decimalArithmetic {op : Arithmetic} {x y : Decimal} {v : AtomicValue}
    (h : decimalArithmetic op x y = .ok v) : v.IsNumber := by
  cases op <;> simp only [decimalArithmetic] at h
  case add | sub | mul => exact isNumber_map_decimal h
  case div | mod =>
    split at h
    · cases h
    · exact isNumber_map_decimal h
  case idiv =>
    split at h
    · cases h
    · cases hq : orOverflow (x.div? y) with
      | error e => rw [hq] at h; cases h
      | ok q => rw [hq] at h; exact isNumber_integerResult h

/-- **Arithmetic gives integers and decimals.** -/
theorem isNumber_arithmetic {op : Arithmetic} {a b v : AtomicValue}
    (h : arithmetic op a b = .ok v) : v.IsNumber := by
  rw [arithmetic] at h
  split at h
  · cases h
  · cases h
  · split at h
    · exact isNumber_integerArithmetic h
    · exact isNumber_decimalArithmetic h

end TreePath.AtomicValue
