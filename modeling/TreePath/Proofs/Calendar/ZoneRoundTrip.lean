/-
TreePath.Proofs.Calendar.ZoneRoundTrip — a zone is split off the text it was written behind.

The splitter looks at the end of a text only. A text that ends in a written zone gives the zone back
(`split_write`). A text that ends in one of the two ways in which dates and times of day end has no
zone: a mark and two digits, or three digits (`split_field`, `split_digits`). What stands in front
of these ends must not be looked at, and is not.
-/
import TreePath.Calendar.Zone
import TreePath.Proofs.Text.Digits

namespace TreePath.Zone

open TreePath.Text

/-! ## The end of a text -/

/-- Two ASCII characters take two bytes. -/
theorem takeUtf8_two {a b : Char} {rest : List Char} (ha : IsGraphic a) (hb : IsGraphic b) :
    takeUtf8 2 (a :: b :: rest) = some ([a, b], rest) := by
  rw [takeUtf8, utf8Size_of_isGraphic ha, if_pos (by decide), takeUtf8, utf8Size_of_isGraphic hb,
    if_pos (by decide), takeUtf8]
  rfl

theorem ne_of_isDigit {c mark : Char} (hc : isDigit c = true) (hm : isDigit mark = false) :
    c ≠ mark := by
  rintro rfl
  rw [hm] at hc
  exact absurd hc (by decide)

/-- A text that does not end in `Z` and has not the shape of a zone has no zone. -/
theorem split_of_shape?_none {s : List Char} (hz : s.getLast? ≠ some 'Z') (h : shape? s = none) :
    split s = .unzoned s := by
  rw [← List.head?_reverse] at hz
  rw [split, h]
  split
  · rename_i heq
    rw [heq] at hz
    exact absurd rfl hz
  · rfl

/-- Three digits at the end belong to no zone: a zone has two behind its colon. -/
theorem split_digits {body : List Char} {a b c : Char} (ha : isDigit a = true)
    (hb : isDigit b = true) (hc : isDigit c = true) :
    split (body ++ [a, b, c]) = .unzoned (body ++ [a, b, c]) := by
  have hcolon : a ≠ ':' := ne_of_isDigit ha (by decide)
  refine split_of_shape?_none ?_ ?_
  · simpa using ne_of_isDigit hc (by decide)
  · rw [shape?, show (body ++ [a, b, c]).reverse = c :: b :: a :: body.reverse by simp,
      takeUtf8_two (isGraphic_of_isDigit hc) (isGraphic_of_isDigit hb)]
    simp [hcolon]

/-- Two digits behind a mark other than a colon belong to no zone. -/
theorem split_mark {body : List Char} {mark a b : Char} (hm : mark ≠ ':')
    (ha : isDigit a = true) (hb : isDigit b = true) :
    split (body ++ [mark, a, b]) = .unzoned (body ++ [mark, a, b]) := by
  refine split_of_shape?_none ?_ ?_
  · simpa using ne_of_isDigit hb (by decide)
  · rw [shape?, show (body ++ [mark, a, b]).reverse = b :: a :: mark :: body.reverse by simp,
      takeUtf8_two (isGraphic_of_isDigit hb) (isGraphic_of_isDigit ha)]
    simp [hm]

/-- Nor do two digits behind a colon, when the field before them stands behind a colon as well. -/
theorem split_clock {body : List Char} {a b c d : Char} (ha : isDigit a = true)
    (hb : isDigit b = true) (hc : isDigit c = true) (hd : isDigit d = true) :
    split (body ++ [':', a, b, ':', c, d]) = .unzoned (body ++ [':', a, b, ':', c, d]) := by
  refine split_of_shape?_none ?_ ?_
  · simpa using ne_of_isDigit hd (by decide)
  · rw [shape?, show (body ++ [':', a, b, ':', c, d]).reverse
        = d :: c :: ':' :: b :: a :: ':' :: body.reverse by simp,
      takeUtf8_two (isGraphic_of_isDigit hd) (isGraphic_of_isDigit hc)]
    simp only
    rw [takeUtf8_two (isGraphic_of_isDigit hb) (isGraphic_of_isDigit ha)]
    simp

/-! ## Written zones -/

/-- Hours and minutes of a zone give the zone back. -/
theorem ofFields?_minutes (z : Zone) :
    ofFields? (decide (z.minutes < 0)) ((z.minutes.natAbs / 60 : Nat) : Int)
      ((z.minutes.natAbs % 60 : Nat) : Int) = some z := by
  obtain ⟨m, hm⟩ := z
  simp only [ofFields?]
  rw [if_neg (by omega)]
  by_cases hneg : m < 0
  · have hval : -(60 * ((m.natAbs / 60 : Nat) : Int) + ((m.natAbs % 60 : Nat) : Int)) = m := by
      omega
    simp only [hneg, decide_true, if_true, hval, dif_pos hm]
  · have hval : 60 * ((m.natAbs / 60 : Nat) : Int) + ((m.natAbs % 60 : Nat) : Int) = m := by
      omega
    simp only [hneg, decide_false, Bool.false_eq_true, if_false, hval, dif_pos hm]

/-- **A written zone is split off again.** -/
theorem split_write (body : List Char) (z : Zone) : split (body ++ z.write) = .zoned body z := by
  rw [write]
  by_cases hz : z.minutes = 0
  · have hutc : z = utc := by
      obtain ⟨m, _⟩ := z
      cases hz
      rfl
    rw [if_pos hz, split, hutc]
    simp
  · rw [if_neg hz]
    have hle := z.natAbs_le
    obtain ⟨a, b, hours, ha, hb⟩ := padZeros_two (n := z.minutes.natAbs / 60) (by omega)
    obtain ⟨c, d, minutes, hc, hd⟩ := padZeros_two (n := z.minutes.natAbs % 60) (by omega)
    have hH := readInt_padZeros 2 (z.minutes.natAbs / 60)
    have hM := readInt_padZeros 2 (z.minutes.natAbs % 60)
    rw [hours] at hH
    rw [minutes] at hM
    have hshape : ∀ sign : Char, sign = '+' ∨ sign = '-' →
        shape? (body ++ [sign, a, b, ':', c, d])
          = some (body, sign == '-', [a, b], [c, d]) := by
      intro sign hsign
      rw [shape?, show (body ++ [sign, a, b, ':', c, d]).reverse
          = d :: c :: ':' :: b :: a :: sign :: body.reverse by simp,
        takeUtf8_two (isGraphic_of_isDigit hd) (isGraphic_of_isDigit hc)]
      simp only
      rw [takeUtf8_two (isGraphic_of_isDigit hb) (isGraphic_of_isDigit ha)]
      simp [hsign]
    have hnz : d ≠ 'Z' := ne_of_isDigit hd (by decide)
    have hsign : (if z.minutes < 0 then '-' else '+' : Char) = '+' ∨
        (if z.minutes < 0 then '-' else '+' : Char) = '-' := by
      split <;> simp
    have hnegative : ((if z.minutes < 0 then '-' else '+' : Char) == '-')
        = decide (z.minutes < 0) := by
      split <;> rename_i h <;> simp [h]
    have htext : body ++ (if z.minutes < 0 then '-' else '+') ::
          padZeros 2 (natDigits (z.minutes.natAbs / 60)) ++
          ':' :: padZeros 2 (natDigits (z.minutes.natAbs % 60))
        = body ++ [if z.minutes < 0 then '-' else '+', a, b, ':', c, d] := by
      rw [hours, minutes]
      simp
    rw [← List.append_assoc, htext, split, hshape _ hsign, hnegative]
    split
    · rename_i heq
      simp [hnz] at heq
    · simp only [hH, hM, ofFields?_minutes]

theorem isGraphic_of_mem_write {z : Zone} {c : Char} (h : c ∈ z.write) : IsGraphic c := by
  rw [write] at h
  split at h
  · rw [List.mem_singleton.mp h]; decide
  · simp only [List.cons_append, List.mem_cons, List.mem_append] at h
    rcases h with h | h | h | h
    · rw [h]; split <;> decide
    · exact isGraphic_of_isDigit (isDigit_of_mem_padZeros h)
    · rw [h]; decide
    · exact isGraphic_of_isDigit (isDigit_of_mem_padZeros h)

theorem isGraphic_of_mem_writeOptional {zone : Option Zone} {c : Char}
    (h : c ∈ writeOptional zone) : IsGraphic c := by
  cases zone with
  | none => exact absurd h List.not_mem_nil
  | some z => exact isGraphic_of_mem_write h

end TreePath.Zone
