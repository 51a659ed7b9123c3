/-
TreePath.Proofs.Atomic.Widening — casting to a wider type and back.

A value is also an instance of the types that its own type derives from, and a cast to one of them
may build it anew: a token becomes a plain text, an integer a decimal, a date with a zone a date
that may have one. Nothing is lost by that. The wider value is written as the narrow one, neither
comes before the other, and casting back gives the narrow value again (`cast_widening`). There are
four families of types in which values are widened (`Datatype.widening_cases`), each with its own
reason: texts are read again as they are written, integers are whole decimals, and URIs and zones
are kept.
-/
import TreePath.Proofs.Atomic.Casting
import TreePath.Proofs.Atomic.Preorder

namespace TreePath

open TreePath.Text

/-! ## Integers as decimals -/

namespace Decimal

theorem truncate_ofInt64 (i : Int64) : (ofInt64 i).truncate = i.toInt := by
  rw [truncate, ofInt64, powerOfTen_zero]
  exact Int.tdiv_one _

theorem write_ofInt64 (i : Int64) : (ofInt64 i).write = intDigits i.toInt := by
  rw [write, ofInt64, intDigits, powerOfTen_zero, Nat.div_one, if_pos rfl]
  by_cases h : i.toInt < 0
  · simp [h]
  · simp [h]

end Decimal

namespace AtomicValue

variable {v w : AtomicValue} {t : Datatype}

/-! ## Values that are compared as equal -/

theorem compare_eq_of_order (hprimitive : v.type.primitive = w.type.primitive)
    (h : order v w = .eq) : v.compare w = .ok .eq := by
  rw [compare_eq_ok hprimitive, h]

/-- Neither of the values comes before the other. -/
def Ties (v w : AtomicValue) : Prop := v.compare w = .ok .eq ∧ w.compare v = .ok .eq

theorem Ties.of_order (hprimitive : v.type.primitive = w.type.primitive) (h : order v w = .eq) :
    Ties v w := by
  obtain ⟨s, hs⟩ := exists_scale_of_two hprimitive
  exact ⟨compare_eq_of_order hprimitive h,
    compare_eq_of_order hprimitive.symm (by rw [hs.swap, h]; rfl)⟩

theorem Ties.refl (v : AtomicValue) : Ties v v := by
  obtain ⟨s, hs⟩ := exists_scale_of_two (a := v) rfl
  exact .of_order rfl hs.self

/-- A text ties with every value that is written as it is. -/
theorem Ties.of_text (hv : v.type.primitive = .string) : Ties (string v.text) v := by
  refine .of_order hv.symm ?_
  rw [order_of_texts (a := string v.text) trivial (not_addressPair_string _)]
  exact Std.ReflCmp.compare_self

theorem Ties.of_number {d : Decimal} (hv : v.decimal? = some d) (hw : w.decimal? = some d)
    (hprimitive : v.type.primitive = w.type.primitive) : Ties v w := by
  refine .of_order hprimitive ?_
  rw [order_of_numbers hv hw]
  exact Std.ReflCmp.compare_self

theorem Ties.of_instant {i : Instant} (hv : v.instant? = some i) (hw : w.instant? = some i)
    (hprimitive : v.type.primitive = w.type.primitive) : Ties v w := by
  refine .of_order hprimitive ?_
  rw [order_of_instants hv hw]
  exact Std.ReflCmp.compare_self

/-! ## Widening -/

/-- The value can be cast to the type without a loss: the result is written like it, ties with it,
and can be cast back to it. -/
def Widens (v : AtomicValue) (t : Datatype) : Prop :=
  ∃ w, v.cast t = .ok w ∧ w.text = v.text ∧ Ties w v ∧ w.cast v.type = .ok v

/-- A string is read as any other text type. -/
theorem cast_string (ht : t.parent = some .string) (s : String) :
    (string s).cast t = (string s).castText t := by
  cases t <;> cases ht <;> rfl

/-- Texts of the string family become plain strings, and are read from them again. -/
theorem widens_string (hv : v.WellFormed) (hparent : v.type.parent = some .string) :
    v.Widens .string := by
  have hne : ¬(v.type = .string ∨ Datatype.string = .anyAtomic) := by
    rintro (h | h)
    · rw [h] at hparent
      cases hparent
    · cases h
  have hprimitive : v.type.primitive = .string := by
    generalize v.type = t at hparent
    cases t <;> cases hparent <;> rfl
  refine ⟨string v.text, ?_, rfl, .of_text hprimitive, ?_⟩
  · rw [cast, if_neg hne, if_pos rfl]
  · rw [cast_string hparent, castText]
    have hread : v.type.read (string v.text).text = .ok v := read_text hv
    rw [hread]

/-- A number becomes a number of any type that holds its whole part. -/
theorem cast_number {d : Decimal} (hv : v.decimal? = some d) (hnumeric : t.isNumeric = true)
    (hne : v.type ≠ t) (hw : ofDecimal? t d = some w) : v.cast t = .ok w := by
  have hstop : ¬(v.type = t ∨ t = .anyAtomic) := by
    rintro (h | rfl)
    · exact hne h
    · cases hnumeric
  have hstring : t ≠ .string := by
    rintro rfl
    cases hnumeric
  rw [cast, if_neg hstop, if_neg hstring, hnumeric, hv]
  simp only [hw]

theorem decimal?_of_integer? {i : Int64} (h : v.integer? = some i) :
    v.decimal? = some (.ofInt64 i) := by
  cases v <;> cases h <;> rfl

theorem text_of_integer? {i : Int64} (h : v.integer? = some i) :
    v.text = String.ofList (intDigits i.toInt) := by
  cases v <;> cases h <;> rfl

theorem ofDecimal?_ofInt64 (ht : t ≠ .decimal) (i : Int64) :
    ofDecimal? t (.ofInt64 i) = ofInteger? t i := by
  rw [ofDecimal?.eq_def]
  split
  · exact absurd rfl ht
  · rw [Decimal.truncate_ofInt64, Int64.ofInt?_toInt, Option.bind_some]

theorem integer?_of_ofInteger? {i : Int64} (h : ofInteger? t i = some w) : w.integer? = some i := by
  cases t <;> simp only [ofInteger?, reduceCtorEq] at h
  case integer => cases h; rfl
  case nonNegativeInteger | positiveInteger =>
    split at h
    · cases h; rfl
    · cases h

/-- An integer that has become a number of another type is the same number, written the same. -/
theorem number_of_ofDecimal? {i : Int64} (h : ofDecimal? t (.ofInt64 i) = some w) :
    w.decimal? = some (.ofInt64 i) ∧ w.text = String.ofList (intDigits i.toInt) := by
  by_cases ht : t = .decimal
  · subst ht
    cases h
    exact ⟨rfl, congrArg String.ofList (Decimal.write_ofInt64 i)⟩
  · rw [ofDecimal?_ofInt64 ht] at h
    have hi := integer?_of_ofInteger? h
    exact ⟨decimal?_of_integer? hi, text_of_integer? hi⟩

/-- A value of an integer type is what its type makes of its number. -/
theorem ofDecimal?_type {i : Int64} (hv : v.WellFormed) (hi : v.integer? = some i) :
    ofDecimal? v.type (.ofInt64 i) = some v := by
  have hne : v.type ≠ .decimal := by
    cases v <;> cases hi <;> nofun
  rw [ofDecimal?_ofInt64 hne]
  cases v <;> cases hi
  case integer => rfl
  case nonNegativeInteger | positiveInteger => exact if_pos hv

/-- The types above an integer type hold all of its numbers. -/
theorem exists_ofDecimal? {i : Int64} (hv : v.WellFormed) (hi : v.integer? = some i)
    (hnumeric : t.isNumeric = true) (hsub : v.type.isSubtypeOf t = true) :
    ∃ w, ofDecimal? t (.ofInt64 i) = some w := by
  cases t <;> cases hnumeric
  case decimal => exact ⟨_, rfl⟩
  all_goals rw [ofDecimal?_ofInt64 (by decide)]
  case integer => exact ⟨_, rfl⟩
  case nonNegativeInteger =>
    have hnonneg : 0 ≤ i := by
      cases v <;> cases hi
      case integer => cases hsub
      case nonNegativeInteger => exact hv
      case positiveInteger => exact Int64.le_of_lt hv
    exact ⟨_, if_pos hnonneg⟩
  case positiveInteger =>
    have hpos : 0 < i := by
      cases v <;> cases hi
      case integer | nonNegativeInteger => cases hsub
      case positiveInteger => exact hv
    exact ⟨_, if_pos hpos⟩

/-- Integers become integers of a wider type and decimals, and are cut off to integers again. -/
theorem widens_number {i : Int64} (hv : v.WellFormed) (hi : v.integer? = some i)
    (hnumeric : t.isNumeric = true) (hsub : v.type.isSubtypeOf t = true) (hne : v.type ≠ t) :
    v.Widens t := by
  obtain ⟨w, hw⟩ := exists_ofDecimal? hv hi hnumeric hsub
  obtain ⟨hdecimal, htext⟩ := number_of_ofDecimal? hw
  have htype : w.type = t := type_ofDecimal? hw
  have hsource : v.type.isNumeric = true := by
    cases v <;> cases hi <;> rfl
  have hprimitive : w.type.primitive = v.type.primitive := by
    rw [htype]
    generalize v.type = s at hsource
    cases s <;> cases hsource <;> cases t <;> cases hnumeric <;> rfl
  exact ⟨w, cast_number (decimal?_of_integer? hi) hnumeric hne hw,
    htext.trans (text_of_integer? hi).symm,
    .of_number hdecimal (decimal?_of_integer? hi) hprimitive,
    cast_number hdecimal hsource (htype ▸ hne.symm) (ofDecimal?_type hv hi)⟩

/-- A URI is a reference, and stays a URI as one. -/
theorem widens_uri {s : String} (hv : (uri s).WellFormed) : (uri s).Widens .uriReference := by
  obtain ⟨htrim, hform⟩ := hv
  refine ⟨uri s, ?_, rfl, .refl _, rfl⟩
  have hread : Datatype.uriReference.read s = .ok (uri s) := by
    rw [Datatype.read.eq_def]
    simp only [htrim, hform, Option.map_some, String.ofList_toList]
  rw [cast.eq_def]
  simp only [hread]
  rfl

/-- A date with a zone is a date that may have one. -/
theorem widens_date (d : Date) (zone : Zone) : (dateWithTimezone d zone).Widens .date :=
  ⟨date d (some zone), rfl, rfl, .of_instant rfl rfl rfl, rfl⟩

/-- A date-time with a zone is one that may have a zone, at an instant that is in range. -/
theorem widens_dateTime {time : DateTime} {zone : Zone}
    (hv : (dateTimeWithTimezone time zone).WellFormed) :
    (dateTimeWithTimezone time zone).Widens .dateTime := by
  refine ⟨dateTime time (some zone), rfl, rfl, .of_instant rfl rfl rfl, ?_⟩
  have htemporal : (dateTime time (some zone)).castTemporal? .dateTimeWithTimezone
      = some (dateTimeWithTimezone time zone) := if_pos hv
  show (dateTime time (some zone)).cast .dateTimeWithTimezone = .ok (dateTimeWithTimezone time zone)
  rw [cast.eq_def]
  simp only [htemporal]
  rfl

end AtomicValue

/-! ## Types and the types above them -/

/-- Which types have a type above them below the topmost one, and which that is. -/
theorem Datatype.widening_cases {s t : Datatype} (hsub : s.isSubtypeOf t = true) (hne : s ≠ t)
    (htop : t ≠ .anyAtomic) :
    (s.parent = some .string ∧ t = .string) ∨
      (s.isSubtypeOf .integer = true ∧ t.isNumeric = true) ∨ (s = .uri ∧ t = .uriReference) ∨
      (s = .dateWithTimezone ∧ t = .date) ∨ (s = .dateTimeWithTimezone ∧ t = .dateTime) := by
  have hmem : t ∈ s.lineage := by simpa [isSubtypeOf] using hsub
  cases s <;> simp [lineage, lineageUpTo, depth, parent] at hmem <;>
    rcases hmem with rfl | rfl | rfl | rfl | rfl <;> simp_all <;> decide

namespace AtomicValue

variable {v w : AtomicValue} {t : Datatype}

theorem widens (hv : v.WellFormed) (hsub : v.type.isSubtypeOf t = true) (hne : v.type ≠ t)
    (htop : t ≠ .anyAtomic) : v.Widens t := by
  rcases Datatype.widening_cases hsub hne htop with
    ⟨hparent, rfl⟩ | ⟨hinteger, hnumeric⟩ | ⟨huri, rfl⟩ | ⟨hdate, rfl⟩ | ⟨hdateTime, rfl⟩
  · exact widens_string hv hparent
  · obtain ⟨i, hi⟩ : ∃ i, v.integer? = some i := by
      cases v <;> first | exact ⟨_, rfl⟩ | cases hinteger
    exact widens_number hv hi hnumeric hsub hne
  · cases v <;> cases huri
    exact widens_uri hv
  · cases v <;> cases hdate
    exact widens_date _ _
  · cases v <;> cases hdateTime
    exact widens_dateTime hv

/-- The image of a wider type is an instance of it: exactly of that type, or a URI as a
reference. -/
theorem isInstanceOf_of_cast (htop : t ≠ .anyAtomic) (h : v.cast t = .ok w) :
    w.isInstanceOf t = true := by
  rw [isInstanceOf]
  rcases type_of_cast htop h with htype | ⟨rfl, htype⟩
  · rw [htype]
    cases t <;> rfl
  · rw [htype]
    rfl

/-- **Widening loses nothing.** Let a value be one that a text can be read as, and let a type other
than the topmost one lie properly above its own. Then the cast to that type succeeds with an
instance of it, which is written as the value is and is neither before nor after it; and the cast
back succeeds with the value itself, so that it is written as it was. -/
theorem cast_widening (hv : v.IsRead) (hsub : v.type.isSubtypeOf t = true) (hne : v.type ≠ t)
    (htop : t ≠ .anyAtomic) :
    ∃ w, v.cast t = .ok w ∧ w.isInstanceOf t = true ∧ w.text = v.text ∧
      w.compare v = .ok .eq ∧ v.compare w = .ok .eq ∧ w.cast v.type = .ok v := by
  obtain ⟨w, hcast, htext, ⟨hwv, hvw⟩, hback⟩ :=
    widens (isRead_iff_wellFormed.mp hv) hsub hne htop
  exact ⟨w, hcast, isInstanceOf_of_cast htop hcast, htext, hwv, hvw, hback⟩

/-- The first instant of the calendar, read fourteen hours west of Greenwich, is an optionally zoned
date-time like any other. -/
theorem cast_widening_of_first_dateTime :
    (dateTimeWithTimezone (.atMidnight .first) ⟨-840, by decide⟩).cast .dateTime
        = .ok (dateTime (.atMidnight .first) (some ⟨-840, by decide⟩)) ∧
      (dateTime (.atMidnight .first) (some ⟨-840, by decide⟩)).compare
          (dateTimeWithTimezone (.atMidnight .first) ⟨-840, by decide⟩) = .ok .eq ∧
      (dateTime (.atMidnight .first) (some ⟨-840, by decide⟩)).cast .dateTimeWithTimezone
        = .ok (dateTimeWithTimezone (.atMidnight .first) ⟨-840, by decide⟩) := by
  have hread : (dateTimeWithTimezone (.atMidnight .first) ⟨-840, by decide⟩).IsRead :=
    isRead_iff_wellFormed.mpr (by rfl)
  obtain ⟨w, hcast, -, -, hcompare, -, hback⟩ :=
    cast_widening (t := .dateTime) hread (by rfl) (by nofun) (by nofun)
  cases hcast
  exact ⟨rfl, hcompare, hback⟩

end AtomicValue

end TreePath
