/-
TreePath.Proofs.Calendar.ZoneBytes — a zone is split off by bytes without a fault.

The splitter may be run on the bytes of a text: the sign and the colon are looked up by their
distances from the end, the fields and the body are cut out at byte positions, and the offset is
worked out in 32-bit words (`splitBytes`). Whatever the characters of the text are, no index is
beyond the text, no cut goes through a character and no word overflows, and the result is the same
(`splitBytes_eq`). What makes the cuts safe is that the sign and the colon are ASCII.
-/
import TreePath.Proofs.Calendar.ZoneSplitting
import TreePath.Proofs.Text.Slicing

namespace TreePath.Zone

open TreePath.Text

/-! ## Words -/

/-- The zone of so many seconds, if there is one. -/
def ofSeconds? (seconds : Int) : Option Zone :=
  if h : seconds % 60 = 0 ∧ (seconds / 60).natAbs ≤ 840 then some ⟨seconds / 60, h.2⟩ else none

theorem ofSeconds?_seconds (z : Zone) : ofSeconds? z.seconds = some z := by
  have hdiv : z.seconds / 60 = z.minutes := by rw [seconds]; omega
  have hmod : z.seconds % 60 = 0 := by rw [seconds]; omega
  rw [ofSeconds?, dif_pos ⟨hmod, by rw [hdiv]; exact z.natAbs_le⟩]
  exact congrArg some (by obtain ⟨minutes, hle⟩ := z; simpa using hdiv)

/-- The zone of two fields, worked out in seconds and in words. -/
def ofFieldsInWords (negative : Bool) (hours minutes : Int) : Except Fault (Option Zone) :=
  if 14 < hours ∨ 59 < minutes ∨ (hours = 14 ∧ minutes ≠ 0) then .ok none
  else do
    let ofHours ← Word.signed32.keep (hours * 3600)
    let ofMinutes ← Word.signed32.keep (minutes * 60)
    let total ← Word.signed32.keep (ofHours + ofMinutes)
    let offset ← Word.signed32.keep (total * if negative then -1 else 1)
    return ofSeconds? offset

/-- No word overflows, as a field is not below minus nine and not above ninety-nine. -/
theorem ofFieldsInWords_eq {negative : Bool} {h m : Int} (hh : -9 ≤ h ∧ h ≤ 99)
    (hm : -9 ≤ m ∧ m ≤ 99) : ofFieldsInWords negative h m = .ok (ofFields? negative h m) := by
  rw [ofFieldsInWords, ofFields?]
  split
  · rfl
  · rename_i hlimit
    have hminutes : (if negative then -(60 * h + m) else 60 * h + m).natAbs ≤ 840 := by
      split <;> omega
    have hoffset : (h * 3600 + m * 60) * (if negative then -1 else 1)
        = 60 * (if negative then -(60 * h + m) else 60 * h + m) := by
      split <;> omega
    have hrange : Word.signed32.Holds
        (60 * (if negative then -(60 * h + m) else 60 * h + m)) :=
      Word.holds_signed32.mpr (by omega)
    rw [Word.keep_bind (Word.holds_signed32.mpr (by omega)),
      Word.keep_bind (Word.holds_signed32.mpr (by omega)),
      Word.keep_bind (Word.holds_signed32.mpr (by omega)), hoffset, Word.keep_bind hrange]
    simp only
    rw [dif_pos hminutes, ← ofSeconds?_seconds ⟨_, hminutes⟩]
    rfl

/-! ## Bytes -/

/-- What the texts of the fields of a zone make of the text that ends in them. -/
def ofTexts (body : List Char) (negative : Bool) (hours minutes : List Char) : Split :=
  match readInt hours, readInt minutes with
  | some h, some m =>
    match ofFields? negative h m with
    | some zone => .zoned body zone
    | none => .malformed
  | _, _ => .malformed

/-- Splits off a zone that is not `Z`, by bytes and in words. -/
def splitOffsetBytes (s : List Char) : Except Fault Split :=
  let size := (bytes s).length
  if size < 6 then .ok (.unzoned s)
  else do
    let start := size - 6
    let sign ← byteAt s start
    if sign = '+'.toUInt8 ∨ sign = '-'.toUInt8 then
      let colon ← byteAt s (start + 3)
      if colon = ':'.toUInt8 then
        match (readInt (← slice s (start + 1) (start + 3))).bind Word.signed32.fit? with
        | none => return .malformed
        | some h =>
          match (readInt (← slice s (start + 4) size)).bind Word.signed32.fit? with
          | none => return .malformed
          | some m =>
            match ← ofFieldsInWords (sign == '-'.toUInt8) h m with
            | none => return .malformed
            | some zone => return .zoned (← slice s 0 start) zone
      else return .unzoned s
    else return .unzoned s

/-- Splits a zone off the end of a text, by bytes and in words. -/
def splitBytes (s : List Char) : Except Fault Split :=
  match s.reverse with
  | 'Z' :: body => .ok (.zoned body.reverse utc)
  | _ => splitOffsetBytes s

theorem utf8Size_of_sign {c : Char} (h : c = '+' ∨ c = '-') : c.utf8Size = 1 := by
  rcases h with rfl | rfl <;> decide

/-- The text ends in a sign, two bytes, a colon and two bytes. -/
structure HasShape (s body : List Char) (sign : Char) (hours minutes : List Char) : Prop where
  eq_append : s = body ++ sign :: (hours ++ ':' :: minutes)
  sign_eq : sign = '+' ∨ sign = '-'
  hours_size : utf8Length hours = 2
  minutes_size : utf8Length minutes = 2

namespace HasShape

variable {s body hours minutes : List Char} {sign : Char}

theorem shape?_eq (h : HasShape s body sign hours minutes) :
    shape? s = some (body, sign == '-', hours, minutes) :=
  shape?_eq_some_iff.mpr
    ⟨h.hours_size, h.minutes_size, sign, h.sign_eq, rfl, h.eq_append⟩

theorem size_sign (h : HasShape s body sign hours minutes) : sign.utf8Size = 1 :=
  utf8Size_of_sign h.sign_eq

theorem size_eq (h : HasShape s body sign hours minutes) : utf8Length s = utf8Length body + 6 := by
  have hcolon : (':' : Char).utf8Size = 1 := by decide
  rw [h.eq_append]
  simp only [utf8Length_append, utf8Length_cons, h.size_sign, h.hours_size, h.minutes_size, hcolon]

theorem byteAt_sign (h : HasShape s body sign hours minutes) :
    byteAt s (utf8Length body) = .ok sign.toUInt8 := by
  rw [h.eq_append]
  exact byteAt_append h.size_sign

theorem byteAt_colon (h : HasShape s body sign hours minutes) :
    byteAt s (utf8Length body + 3) = .ok ':'.toUInt8 := by
  have hfront : utf8Length (body ++ sign :: hours) = utf8Length body + 3 := by
    simp only [utf8Length_append, utf8Length_cons, h.size_sign, h.hours_size]
  have hassoc : s = (body ++ sign :: hours) ++ ':' :: minutes := by
    rw [h.eq_append, List.append_assoc, List.cons_append]
  rw [hassoc, ← hfront]
  exact byteAt_append (by decide)

theorem slice_hours (h : HasShape s body sign hours minutes) :
    slice s (utf8Length body + 1) (utf8Length body + 3) = .ok hours := by
  refine slice_eq_ok_iff.mpr ⟨body ++ [sign], ':' :: minutes, ?_, ?_, ?_⟩
  · rw [h.eq_append, List.append_assoc, List.singleton_append]
  · rw [utf8Length_append, utf8Length_cons, h.size_sign]
    rfl
  · rw [h.hours_size]

theorem slice_minutes (h : HasShape s body sign hours minutes) :
    slice s (utf8Length body + 4) (utf8Length s) = .ok minutes := by
  have hcolon : (':' : Char).utf8Size = 1 := by decide
  refine slice_eq_ok_iff.mpr ⟨body ++ sign :: (hours ++ [':']), [], ?_, ?_, ?_⟩
  · rw [h.eq_append]
    simp
  · simp only [utf8Length_append, utf8Length_cons, h.size_sign, h.hours_size, hcolon]
    rfl
  · rw [h.minutes_size, h.size_eq]

theorem slice_body (h : HasShape s body sign hours minutes) :
    slice s 0 (utf8Length body) = .ok body :=
  slice_eq_ok_iff.mpr ⟨[], _, h.eq_append, rfl, Nat.zero_add _⟩

end HasShape

/-- What looks like a sign is one. -/
theorem sign_of_byte {c : Char} {b : UInt8} (hc : c.toNat = b.toNat)
    (hb : b = '+'.toUInt8 ∨ b = '-'.toUInt8) : c = '+' ∨ c = '-' := by
  rcases hb with rfl | rfl
  · exact .inl (Char.toNat_inj.mp (hc.trans (by decide)))
  · exact .inr (Char.toNat_inj.mp (hc.trans (by decide)))

/-- **The two bytes tell the shape**: between the characters of the sign and the colon, and behind
the colon, there are two bytes of whole characters. -/
theorem exists_hasShape {s : List Char} {b : UInt8} (hsize : 6 ≤ utf8Length s)
    (hsign : byteAt s (utf8Length s - 6) = .ok b) (hb : b = '+'.toUInt8 ∨ b = '-'.toUInt8)
    (hcolon : byteAt s (utf8Length s - 6 + 3) = .ok ':'.toUInt8) :
    ∃ body sign hours minutes, HasShape s body sign hours minutes := by
  have hascii : b.toNat < 128 := by rcases hb with rfl | rfl <;> decide
  obtain ⟨body, sign, rest, hs, hbody, hc⟩ := exists_of_byteAt hsign hascii
  obtain ⟨front, colon, minutes, hs', hfront, hc'⟩ := exists_of_byteAt hcolon (by decide)
  have hmark := sign_of_byte hc hb
  have hone := utf8Size_of_sign hmark
  obtain rfl : colon = ':' := Char.toNat_inj.mp (hc'.trans (by decide))
  -- the text is cut at the sign and at the colon; the second cut is three bytes further on
  rcases List.append_eq_append_iff.mp (hs.symm.trans hs') with ⟨mid, rfl, htail⟩ | ⟨mid, rfl, -⟩
  · cases mid with
    | nil => rw [List.append_nil] at hfront; omega
    | cons c hours =>
      rw [List.cons_append, List.cons.injEq] at htail
      obtain ⟨rfl, rfl⟩ := htail
      have hcolonSize : (':' : Char).utf8Size = 1 := by decide
      have htotal := congrArg utf8Length hs
      simp only [utf8Length_append, utf8Length_cons, hone, hcolonSize] at hfront htotal
      exact ⟨body, sign, hours, minutes, hs, hmark, by omega, by omega⟩
  · rw [utf8Length_append] at hbody
    omega

/-- Two bytes are too few for a number that a word does not hold. -/
theorem fit?_field {field : List Char} (hsize : utf8Length field = 2) :
    (readInt field).bind Word.signed32.fit? = readInt field := by
  cases hn : readInt field with
  | none => rfl
  | some n =>
    have hbounds := field_bounds (field_of_readInt hsize hn)
    exact Word.fit?_of_holds (Word.holds_signed32.mpr (by omega))

/-- What is done with a text of the shape. -/
theorem splitOffsetBytes_of_hasShape {s body hours minutes : List Char} {sign : Char}
    (h : HasShape s body sign hours minutes) :
    splitOffsetBytes s = .ok (ofTexts body (sign == '-') hours minutes) := by
  have hstart : utf8Length s - 6 = utf8Length body := by rw [h.size_eq, Nat.add_sub_cancel]
  have hlong : ¬ utf8Length s < 6 := by rw [h.size_eq]; omega
  have hmark : (sign.toUInt8 = '+'.toUInt8 ∨ sign.toUInt8 = '-'.toUInt8) ∧
      (sign.toUInt8 == '-'.toUInt8) = (sign == '-') := by
    rcases h.sign_eq with rfl | rfl <;> decide
  rw [splitOffsetBytes, length_bytes, ofTexts]
  simp only
  rw [if_neg hlong, hstart, h.byteAt_sign, Fault.ok_bind, if_pos hmark.1, h.byteAt_colon,
    Fault.ok_bind, if_pos rfl, h.slice_hours, Fault.ok_bind, fit?_field h.hours_size, hmark.2]
  cases hhours : readInt hours with
  | none => rfl
  | some n =>
    simp only
    rw [h.slice_minutes, Fault.ok_bind, fit?_field h.minutes_size]
    cases hminutes : readInt minutes with
    | none => rfl
    | some m =>
      simp only
      rw [ofFieldsInWords_eq (field_bounds (field_of_readInt h.hours_size hhours))
        (field_bounds (field_of_readInt h.minutes_size hminutes)), Fault.ok_bind]
      cases ofFields? (sign == '-') n m with
      | none => rfl
      | some zone =>
        simp only
        rw [h.slice_body, Fault.ok_bind]
        rfl

/-- What is done with a text that is not of the shape. -/
theorem splitOffsetBytes_of_not_hasShape {s : List Char}
    (h : ∀ body sign hours minutes, ¬ HasShape s body sign hours minutes) :
    splitOffsetBytes s = .ok (.unzoned s) := by
  rw [splitOffsetBytes, length_bytes]
  simp only
  by_cases hsize : utf8Length s < 6
  · rw [if_pos hsize]
  · obtain ⟨b, hb⟩ := exists_byteAt (s := s) (i := utf8Length s - 6) (by omega)
    obtain ⟨b', hb'⟩ := exists_byteAt (s := s) (i := utf8Length s - 6 + 3) (by omega)
    rw [if_neg hsize, hb, Fault.ok_bind]
    by_cases hsign : b = '+'.toUInt8 ∨ b = '-'.toUInt8
    · have hcolon : b' ≠ ':'.toUInt8 := by
        rintro rfl
        obtain ⟨_, _, _, _, hshape⟩ := exists_hasShape (Nat.le_of_not_lt hsize) hb hsign hb'
        exact h _ _ _ _ hshape
      rw [if_pos hsign, hb', Fault.ok_bind, if_neg hcolon]
      rfl
    · rw [if_neg hsign]
      rfl

theorem splitBytes_of_getLast? {s : List Char} (hz : s.getLast? ≠ some 'Z') :
    splitBytes s = splitOffsetBytes s := by
  rw [← List.head?_reverse] at hz
  rw [splitBytes]
  split
  · rename_i heq
    rw [heq] at hz
    exact absurd rfl hz
  · rfl

theorem split_of_hasShape {s body hours minutes : List Char} {sign : Char}
    (hz : s.getLast? ≠ some 'Z') (h : HasShape s body sign hours minutes) :
    split s = ofTexts body (sign == '-') hours minutes := by
  rw [← List.head?_reverse] at hz
  rw [split, h.shape?_eq, ofTexts]
  split
  · rename_i heq
    rw [heq] at hz
    exact absurd rfl hz
  · rfl

/-- **Splitting by bytes does not fault**, whatever the text is made of, and gives what splitting by
characters gives. -/
theorem splitBytes_eq (s : List Char) : splitBytes s = .ok (split s) := by
  by_cases hz : s.getLast? = some 'Z'
  · rw [← List.head?_reverse] at hz
    obtain ⟨body, hbody⟩ := List.head?_eq_some_iff.mp hz
    simp only [splitBytes, split, hbody]
  · rw [splitBytes_of_getLast? hz]
    cases hshape : shape? s with
    | none =>
      rw [split_of_shape?_none hz hshape]
      refine splitOffsetBytes_of_not_hasShape fun body sign hours minutes h => ?_
      rw [h.shape?_eq] at hshape
      cases hshape
    | some found =>
      obtain ⟨body, negative, hours, minutes⟩ := found
      obtain ⟨hhours, hminutes, sign, hsign, rfl, hs⟩ := shape?_eq_some_iff.mp hshape
      have h : HasShape s body sign hours minutes := ⟨hs, hsign, hhours, hminutes⟩
      rw [split_of_hasShape hz h, splitOffsetBytes_of_hasShape h]

example : splitBytes ['+', 'é', ':', 'é'] = .ok .malformed := by cbv

end TreePath.Zone
