/-
TreePath.Proofs.Calendar.ZoneSplitting — which texts end in a zone.

A zone is written as `Z`, or as a sign, two digits for the hours, a colon and two digits for the
minutes, at most `14:00` (`IsWritten`). The fields are read as signed numbers, so a field may also
be a sign and one digit, and nothing bounds such a field from below (`IsSigned`).
`split_eq_zoned_iff` says that these are all the endings that the splitter takes for a zone, and for
which zone.

An ending of the first kind is the written form of its zone, apart from the two spellings of no
offset, which are written `Z`. An ending of the second kind is the written form of none.
-/
import TreePath.Proofs.Calendar.ZoneRoundTrip
import TreePath.Proofs.Text.Bytes

namespace TreePath

open TreePath.Text

namespace Text

/-! ## Signed numbers of two characters -/

theorem readNat_eq_some_iff {s : List Char} {n : Nat} :
    readNat s = some n ↔ s ≠ [] ∧ (∀ c ∈ s, isDigit c = true) ∧ digitsValue s = n := by
  constructor
  · intro h
    simp only [readNat] at h
    split at h
    · rename_i hs
      simp only [Bool.and_eq_true, Bool.not_eq_true', List.isEmpty_eq_false_iff,
        List.all_eq_true] at hs
      cases h
      exact ⟨hs.1, hs.2, rfl⟩
    · cases h
  · rintro ⟨hne, hd, rfl⟩
    exact readNat_of_digits hne hd

/-- A text that is read as an integer is made of digits, after a sign or not. -/
theorem exists_digits_of_readInt {s : List Char} {n : Int} (h : readInt s = some n) :
    ∃ ds, ds ≠ [] ∧ (∀ c ∈ ds, isDigit c = true) ∧
      (s = ds ∧ n = digitsValue ds ∨ s = '+' :: ds ∧ n = digitsValue ds ∨
        s = '-' :: ds ∧ n = -(digitsValue ds : Int)) := by
  rw [readInt.eq_def] at h
  split at h
  all_goals
    obtain ⟨i, hi, rfl⟩ := Option.map_eq_some_iff.mp h
    obtain ⟨m, hm, hmi⟩ := Option.bind_eq_some_iff.mp hi
    cases hmi
    obtain ⟨hne, hd, rfl⟩ := readNat_eq_some_iff.mp hm
  · exact ⟨_, hne, hd, .inr (.inr ⟨rfl, rfl⟩)⟩
  · exact ⟨_, hne, hd, .inr (.inl ⟨rfl, rfl⟩)⟩
  · exact ⟨_, hne, hd, .inl ⟨rfl, rfl⟩⟩

end Text

namespace Zone

/-! ## Endings -/

/-- Two digits and the number they denote. -/
def TwoDigits (field : List Char) (n : Int) : Prop :=
  ∃ a b, isDigit a = true ∧ isDigit b = true ∧ field = [a, b] ∧
    n = 10 * digitValue a + digitValue b

/-- A sign and one digit, and the number they denote. -/
def SignedDigit (field : List Char) (n : Int) : Prop :=
  ∃ a, isDigit a = true ∧
    (field = ['+', a] ∧ n = digitValue a ∨ field = ['-', a] ∧ n = -(digitValue a : Int))

/-- The offset of the zone is that of a sign, hours and minutes of at most `14:00`. -/
structure IsOffset (z : Zone) (sign : Char) (hours minutes : Int) : Prop where
  sign_eq : sign = '+' ∨ sign = '-'
  minutes_le : minutes ≤ 59
  hours_le : hours < 14 ∨ hours = 14 ∧ minutes = 0
  seconds_eq : z.seconds = (if sign = '-' then -1 else 1) * (3600 * hours + 60 * minutes)

/-- The ending is a zone as zones are written: `Z`, or two digits for the hours and two for the
minutes. -/
def IsWritten (ending : List Char) (z : Zone) : Prop :=
  ending = ['Z'] ∧ z = utc ∨
    ∃ sign hours minutes h m, ending = sign :: (hours ++ ':' :: minutes) ∧
      TwoDigits hours h ∧ TwoDigits minutes m ∧ IsOffset z sign h m

/-- The ending has a sign in the place of the first digit of its hours or of its minutes. -/
def IsSigned (ending : List Char) (z : Zone) : Prop :=
  ∃ sign hours minutes h m, ending = sign :: (hours ++ ':' :: minutes) ∧
    (SignedDigit hours h ∧ (TwoDigits minutes m ∨ SignedDigit minutes m) ∨
      TwoDigits hours h ∧ SignedDigit minutes m) ∧ IsOffset z sign h m

/-! ## Fields -/

theorem TwoDigits.readInt {field : List Char} {n : Int} (h : TwoDigits field n) :
    readInt field = some n := by
  obtain ⟨a, b, ha, hb, rfl, rfl⟩ := h
  rw [readInt_of_digits (by simp) (by simp [ha, hb])]
  simp [digitsValue]

theorem SignedDigit.readInt {field : List Char} {n : Int} (h : SignedDigit field n) :
    readInt field = some n := by
  obtain ⟨a, ha, ⟨rfl, rfl⟩ | ⟨rfl, rfl⟩⟩ := h
  all_goals
    rw [Text.readInt, readNat_of_digits (by simp) (by simp [ha])]
    simp [digitsValue]

/-- A field of two bytes that is read as a number is two digits, or a sign and one digit. -/
theorem field_of_readInt {field : List Char} {n : Int} (hsize : utf8Length field = 2)
    (h : Text.readInt field = some n) : TwoDigits field n ∨ SignedDigit field n := by
  obtain ⟨ds, hne, hd, hcases⟩ := exists_digits_of_readInt h
  have hlen : field.length = 2 := by
    rw [← hsize, utf8Length_of_graphic]
    intro c hc
    rcases hcases with ⟨rfl, -⟩ | ⟨rfl, -⟩ | ⟨rfl, -⟩
    · exact isGraphic_of_isDigit (hd c hc)
    · rcases List.mem_cons.mp hc with rfl | hc
      · decide
      · exact isGraphic_of_isDigit (hd c hc)
    · rcases List.mem_cons.mp hc with rfl | hc
      · decide
      · exact isGraphic_of_isDigit (hd c hc)
  rcases hcases with ⟨rfl, rfl⟩ | ⟨rfl, rfl⟩ | ⟨rfl, rfl⟩
  · obtain ⟨a, b, rfl⟩ := List.length_eq_two.mp hlen
    exact .inl ⟨a, b, hd a (by simp), hd b (by simp), rfl, by simp [digitsValue]⟩
  · obtain ⟨a, rfl⟩ := List.length_eq_one_iff.mp (Nat.succ.inj hlen)
    exact .inr ⟨a, hd a (by simp), .inl ⟨rfl, by simp [digitsValue]⟩⟩
  · obtain ⟨a, rfl⟩ := List.length_eq_one_iff.mp (Nat.succ.inj hlen)
    exact .inr ⟨a, hd a (by simp), .inr ⟨rfl, by simp [digitsValue]⟩⟩

/-- No field is below minus nine or above ninety-nine. -/
theorem field_bounds {field : List Char} {n : Int} (h : TwoDigits field n ∨ SignedDigit field n) :
    -9 ≤ n ∧ n ≤ 99 := by
  have hvalue : ∀ c, isDigit c = true → digitValue c ≤ 9 := by
    intro c hc
    have hrange := (isDigit_iff c).mp hc
    have hzero : ('0' : Char).toNat = 48 := rfl
    rw [digitValue]
    omega
  rcases h with ⟨a, b, ha, hb, -, rfl⟩ | ⟨a, ha, ⟨-, rfl⟩ | ⟨-, rfl⟩⟩
  · have := hvalue a ha
    have := hvalue b hb
    omega
  · have := hvalue a ha
    omega
  · have := hvalue a ha
    omega

/-- A field is two characters of one byte, and the second of them is a digit. -/
theorem exists_eq_of_field {field : List Char} {n : Int}
    (h : TwoDigits field n ∨ SignedDigit field n) :
    ∃ a b, field = [a, b] ∧ IsGraphic a ∧ isDigit b = true := by
  rcases h with ⟨a, b, ha, hb, rfl, -⟩ | ⟨b, hb, ⟨rfl, -⟩ | ⟨rfl, -⟩⟩
  · exact ⟨a, b, rfl, isGraphic_of_isDigit ha, hb⟩
  · exact ⟨'+', b, rfl, by decide, hb⟩
  · exact ⟨'-', b, rfl, by decide, hb⟩

/-- The bounds of the fields are all that makes a zone of them. -/
theorem ofFields?_eq_some_iff {sign : Char} {h m : Int} {z : Zone} (hsign : sign = '+' ∨ sign = '-')
    (hh : -9 ≤ h) (hm : -9 ≤ m) : ofFields? (sign == '-') h m = some z ↔ IsOffset z sign h m := by
  have hlimit : ¬ (14 < h ∨ 59 < m ∨ (h = 14 ∧ m ≠ 0)) ↔
      m ≤ 59 ∧ (h < 14 ∨ h = 14 ∧ m = 0) := by omega
  have htotal : (if (sign == '-') = true then -(60 * h + m) else 60 * h + m)
      = (if sign = '-' then -1 else 1) * (60 * h + m) := by
    rcases hsign with rfl | rfl
    · simp
    · simp
  have hseconds : z.seconds = (if sign = '-' then -1 else 1) * (3600 * h + 60 * m) ↔
      z.minutes = (if sign = '-' then -1 else 1) * (60 * h + m) := by
    rw [seconds]
    split <;> omega
  rw [ofFields?, htotal]
  generalize (if sign = '-' then -1 else 1) * (60 * h + m) = total at hseconds
  constructor
  · intro heq
    split at heq
    · cases heq
    · rename_i hrange
      obtain ⟨hm59, hh14⟩ := hlimit.mp hrange
      simp only at heq
      split at heq
      · cases heq
        exact ⟨hsign, hm59, hh14, hseconds.mpr rfl⟩
      · cases heq
  · rintro ⟨-, hm59, hh14, hz⟩
    obtain ⟨minutes, hle⟩ := z
    cases hseconds.mp hz
    rw [if_neg (hlimit.mpr ⟨hm59, hh14⟩), dif_pos hle]

/-! ## Splitting -/

/-- What the splitter looks for at the end of a text. -/
theorem shape?_eq_some_iff {s body hours minutes : List Char} {negative : Bool} :
    shape? s = some (body, negative, hours, minutes) ↔
      utf8Length hours = 2 ∧ utf8Length minutes = 2 ∧ ∃ sign, (sign = '+' ∨ sign = '-') ∧
        negative = (sign == '-') ∧ s = body ++ sign :: (hours ++ ':' :: minutes) := by
  constructor
  · intro h
    rw [shape?] at h
    split at h
    · rename_i minutes' rest hminutes
      split at h
      · rename_i hours' sign body' hhours
        split at h
        · rename_i hsign
          cases h
          obtain ⟨hs, hm⟩ := takeUtf8_eq_some_iff.mp hminutes
          obtain ⟨rfl, hh⟩ := takeUtf8_eq_some_iff.mp hhours
          refine ⟨by rw [utf8Length_reverse, hh], by rw [utf8Length_reverse, hm], sign, hsign, rfl,
            ?_⟩
          rw [← List.reverse_reverse s, hs]
          simp
        · cases h
      · cases h
    · cases h
  · rintro ⟨hh, hm, sign, hsign, rfl, rfl⟩
    have hreverse : (body ++ sign :: (hours ++ ':' :: minutes)).reverse
        = minutes.reverse ++ ':' :: (hours.reverse ++ sign :: body.reverse) := by simp
    rw [shape?, hreverse, takeUtf8_append _ (by rw [utf8Length_reverse, hm])]
    simp only
    rw [takeUtf8_append _ (by rw [utf8Length_reverse, hh])]
    simp [hsign]

theorem isWritten_or_isSigned_iff {ending : List Char} {z : Zone} :
    IsWritten ending z ∨ IsSigned ending z ↔ ending = ['Z'] ∧ z = utc ∨
      ∃ sign hours minutes h m, ending = sign :: (hours ++ ':' :: minutes) ∧
        (TwoDigits hours h ∨ SignedDigit hours h) ∧
        (TwoDigits minutes m ∨ SignedDigit minutes m) ∧ IsOffset z sign h m := by
  constructor
  · rintro ((hZ | ⟨sign, hours, minutes, h, m, he, hh, hm, hz⟩) |
      ⟨sign, hours, minutes, h, m, he, ⟨hh, hm⟩ | ⟨hh, hm⟩, hz⟩)
    · exact .inl hZ
    · exact .inr ⟨sign, hours, minutes, h, m, he, .inl hh, .inl hm, hz⟩
    · exact .inr ⟨sign, hours, minutes, h, m, he, .inr hh, hm, hz⟩
    · exact .inr ⟨sign, hours, minutes, h, m, he, .inl hh, .inr hm, hz⟩
  · rintro (hZ | ⟨sign, hours, minutes, h, m, he, hh | hh, hm | hm, hz⟩)
    · exact .inl (.inl hZ)
    · exact .inl (.inr ⟨sign, hours, minutes, h, m, he, hh, hm, hz⟩)
    · exact .inr ⟨sign, hours, minutes, h, m, he, .inr ⟨hh, hm⟩, hz⟩
    · exact .inr ⟨sign, hours, minutes, h, m, he, .inl ⟨hh, .inl hm⟩, hz⟩
    · exact .inr ⟨sign, hours, minutes, h, m, he, .inl ⟨hh, .inr hm⟩, hz⟩

theorem readInt_of_field {field : List Char} {n : Int}
    (h : TwoDigits field n ∨ SignedDigit field n) : readInt field = some n :=
  h.elim TwoDigits.readInt SignedDigit.readInt

theorem utf8Length_of_field {field : List Char} {n : Int}
    (h : TwoDigits field n ∨ SignedDigit field n) : utf8Length field = 2 := by
  obtain ⟨a, b, rfl, ha, hb⟩ := exists_eq_of_field h
  exact utf8Length_of_graphic (by simp [ha, isGraphic_of_isDigit hb])

/-- An offset of two fields is split off. -/
theorem split_offset {body hours minutes : List Char} {sign : Char} {h m : Int} {z : Zone}
    (hh : TwoDigits hours h ∨ SignedDigit hours h)
    (hm : TwoDigits minutes m ∨ SignedDigit minutes m) (hz : IsOffset z sign h m) :
    split (body ++ sign :: (hours ++ ':' :: minutes)) = .zoned body z := by
  have hshape : shape? (body ++ sign :: (hours ++ ':' :: minutes))
      = some (body, sign == '-', hours, minutes) :=
    shape?_eq_some_iff.mpr
      ⟨utf8Length_of_field hh, utf8Length_of_field hm, sign, hz.sign_eq, rfl, rfl⟩
  have hfields := (ofFields?_eq_some_iff hz.sign_eq (field_bounds hh).1 (field_bounds hm).1).mpr hz
  rw [split, hshape]
  split
  · rename_i heq
    obtain ⟨a, b, rfl, -, hb⟩ := exists_eq_of_field hm
    have hnz : b ≠ 'Z' := ne_of_isDigit hb (by decide)
    simp [hnz] at heq
  · simp only [readInt_of_field hh, readInt_of_field hm, hfields]

/-- Whatever is split off is `Z` or an offset of two fields. -/
theorem exists_of_split_eq_zoned {s body : List Char} {z : Zone} (h : split s = .zoned body z) :
    ∃ ending, s = body ++ ending ∧ (IsWritten ending z ∨ IsSigned ending z) := by
  simp only [isWritten_or_isSigned_iff]
  rw [split] at h
  split at h
  · rename_i body' hreverse
    cases h
    exact ⟨['Z'], by rw [← List.reverse_reverse s, hreverse]; simp, .inl ⟨rfl, rfl⟩⟩
  · split at h
    · cases h
    · rename_i body' negative hours minutes hshape
      obtain ⟨hhsize, hmsize, sign, hsign, rfl, rfl⟩ := shape?_eq_some_iff.mp hshape
      split at h
      · rename_i hour minute hhour hminute
        have hh := field_of_readInt hhsize hhour
        have hm := field_of_readInt hmsize hminute
        split at h
        · rename_i zone hzone
          cases h
          exact ⟨_, rfl, .inr ⟨sign, hours, minutes, hour, minute, rfl, hh, hm,
            (ofFields?_eq_some_iff hsign (field_bounds hh).1 (field_bounds hm).1).mp hzone⟩⟩
        · cases h
      · cases h

/-! ## Writing what was split off -/

/-- Two digits are the digits of the number they denote. -/
theorem TwoDigits.padZeros {field : List Char} {n : Nat} (h : TwoDigits field n) :
    padZeros 2 (natDigits n) = field := by
  have hbounds := field_bounds (.inl h)
  obtain ⟨a, b, ha, hb, rfl, hn⟩ := h
  obtain ⟨a', b', hab, ha', hb'⟩ := padZeros_two (n := n) (by omega)
  have hvalue := digitsValue_padZeros 2 (natDigits n)
  rw [hab, digitsValue_natDigits] at hvalue
  simp only [digitsValue, List.foldl_cons, List.foldl_nil, Nat.mul_zero, Nat.zero_add] at hvalue
  have hzero : ('0' : Char).toNat = 48 := rfl
  simp only [isDigit_iff] at ha hb ha' hb'
  simp only [digitValue] at hn hvalue
  have haa : a'.toNat = a.toNat := by omega
  have hbb : b'.toNat = b.toNat := by omega
  rw [hab, Char.toNat_inj.mp haa, Char.toNat_inj.mp hbb]

/-- An offset of two-digit fields is written as it was read, unless it is none. -/
theorem write_of_isWritten {ending : List Char} {z : Zone} (h : IsWritten ending z) :
    z.write = if z.minutes = 0 then ['Z'] else ending := by
  rw [write]
  split
  · rfl
  · rename_i hne
    rcases h with ⟨-, rfl⟩ | ⟨sign, hours, minutes, h, m, rfl, hh, hm, hz⟩
    · exact absurd rfl hne
    · have hh0 : 0 ≤ h := by obtain ⟨_, _, _, _, _, rfl⟩ := hh; omega
      have hm0 : 0 ≤ m := by obtain ⟨_, _, _, _, _, rfl⟩ := hm; omega
      obtain ⟨h, rfl⟩ := Int.eq_ofNat_of_zero_le hh0
      obtain ⟨m, rfl⟩ := Int.eq_ofNat_of_zero_le hm0
      have hseconds := hz.seconds_eq
      have hm59 := hz.minutes_le
      rw [seconds] at hseconds
      have hsign : (if z.minutes < 0 then '-' else '+') = sign := by
        rcases hz.sign_eq with rfl | rfl
        · rw [if_neg (by decide)] at hseconds
          exact if_neg (by omega)
        · rw [if_pos rfl] at hseconds
          exact if_pos (by omega)
      have habs : z.minutes.natAbs = 60 * h + m := by
        split at hseconds <;> omega
      have hdiv : z.minutes.natAbs / 60 = h := by omega
      have hmod : z.minutes.natAbs % 60 = m := by omega
      simp only [hsign, hdiv, hmod, hh.padZeros, hm.padZeros, List.cons_append]

/-- A sign is no digit. -/
theorem not_signedDigit {a b : Char} {n : Int} (ha : isDigit a = true) :
    ¬ SignedDigit [a, b] n := by
  rintro ⟨c, -, ⟨heq, -⟩ | ⟨heq, -⟩⟩
  all_goals
    cases heq
    exact absurd ha (by decide)

/-- A field with a sign is never written. -/
theorem write_ne_of_isSigned {ending : List Char} {z : Zone} (h : IsSigned ending z) :
    z.write ≠ ending := by
  intro heq
  obtain ⟨sign, hours, minutes, h, m, rfl, hfields, hz⟩ := h
  have hhours : TwoDigits hours h ∨ SignedDigit hours h := by tauto
  have hminutes : TwoDigits minutes m ∨ SignedDigit minutes m := by tauto
  obtain ⟨x, y, rfl, -, -⟩ := exists_eq_of_field hhours
  obtain ⟨u, v, rfl, -, -⟩ := exists_eq_of_field hminutes
  have hle := z.natAbs_le
  obtain ⟨a, b, hab, ha, -⟩ := padZeros_two (n := z.minutes.natAbs / 60) (by omega)
  obtain ⟨c, d, hcd, hc, -⟩ := padZeros_two (n := z.minutes.natAbs % 60) (by omega)
  rw [write] at heq
  split at heq
  · simp at heq
  · simp only [hab, hcd, List.cons_append, List.nil_append, List.cons.injEq] at heq
    obtain ⟨-, rfl, rfl, -, rfl, rfl, -⟩ := heq
    rcases hfields with ⟨hsigned, -⟩ | ⟨-, hsigned⟩
    · exact not_signedDigit ha hsigned
    · exact not_signedDigit hc hsigned

/-- **A text has a zone exactly if it ends in one**, or in what is taken for one because a sign
stands in the place of a digit. The first kind of ending is the written form of its zone, up to the
spellings of no offset; the second is the written form of none. -/
theorem split_eq_zoned_iff (s body : List Char) (z : Zone) :
    (split s = .zoned body z ↔
      ∃ ending, s = body ++ ending ∧ (IsWritten ending z ∨ IsSigned ending z)) ∧
    (∀ ending, IsWritten ending z → z.write = if z.minutes = 0 then ['Z'] else ending) ∧
    ∀ ending, IsSigned ending z → z.write ≠ ending := by
  refine ⟨⟨exists_of_split_eq_zoned, ?_⟩, fun _ => write_of_isWritten,
    fun _ => write_ne_of_isSigned⟩
  rintro ⟨ending, rfl, hending⟩
  rcases isWritten_or_isSigned_iff.mp hending with
    ⟨rfl, rfl⟩ | ⟨sign, hours, minutes, h, m, rfl, hh, hm, hz⟩
  · exact split_write body utc
  · exact split_offset hh hm hz

/-- A zone of two-digit fields behind a date is split off, and written again as it stood there. -/
theorem split_eq_zoned_iff_of_half_past_nine :
    (split "2024-01-15-09:30".toList = .zoned "2024-01-15".toList ⟨-570, by decide⟩ ↔
      ∃ ending, "2024-01-15-09:30".toList = "2024-01-15".toList ++ ending ∧
        (IsWritten ending ⟨-570, by decide⟩ ∨ IsSigned ending ⟨-570, by decide⟩)) ∧
    IsWritten "-09:30".toList ⟨-570, by decide⟩ ∧
    write ⟨-570, by decide⟩ = (if (-570 : Int) = 0 then ['Z'] else "-09:30".toList) ∧
    IsSigned "-+9:30".toList ⟨-570, by decide⟩ ∧
    write ⟨-570, by decide⟩ ≠ "-+9:30".toList := by
  have hwritten : IsWritten "-09:30".toList ⟨-570, by decide⟩ :=
    .inr ⟨'-', ['0', '9'], ['3', '0'], 9, 30, rfl, ⟨'0', '9', rfl, rfl, rfl, rfl⟩,
      ⟨'3', '0', rfl, rfl, rfl, rfl⟩, ⟨.inr rfl, by decide, by decide, rfl⟩⟩
  have hsigned : IsSigned "-+9:30".toList ⟨-570, by decide⟩ :=
    ⟨'-', ['+', '9'], ['3', '0'], 9, 30, rfl, .inl ⟨⟨'9', rfl, .inl ⟨rfl, rfl⟩⟩,
      .inl ⟨'3', '0', rfl, rfl, rfl, rfl⟩⟩, ⟨.inr rfl, by decide, by decide, rfl⟩⟩
  obtain ⟨hsplit, hback, hnever⟩ :=
    split_eq_zoned_iff "2024-01-15-09:30".toList "2024-01-15".toList ⟨-570, by decide⟩
  exact ⟨hsplit, hwritten, hback _ hwritten, hsigned, hnever _ hsigned⟩

/-- Minus one hour and five minutes, as an offset ahead of UTC: an ending that is not of two-digit
fields is taken for a zone. -/
theorem split_signed_hours :
    split "2024-01-15+-1:05".toList = .zoned "2024-01-15".toList ⟨-55, by decide⟩ ∧
      ¬ ∃ ending, "2024-01-15+-1:05".toList = "2024-01-15".toList ++ ending ∧
        IsWritten ending ⟨-55, by decide⟩ := by
  constructor
  · have hhours : SignedDigit ['-', '1'] (-1) := ⟨'1', rfl, .inr ⟨rfl, rfl⟩⟩
    have hminutes : TwoDigits ['0', '5'] 5 := ⟨'0', '5', rfl, rfl, rfl, rfl⟩
    have hoffset : IsOffset ⟨-55, by decide⟩ '+' (-1) 5 :=
      ⟨.inl rfl, by decide, by decide, rfl⟩
    have htext : "2024-01-15+-1:05".toList
        = "2024-01-15".toList ++ '+' :: (['-', '1'] ++ ':' :: ['0', '5']) := rfl
    rw [htext]
    exact split_offset (.inr hhours) (.inl hminutes) hoffset
  · rintro ⟨ending, htext, hwritten⟩
    have hending : "+-1:05".toList = ending :=
      List.append_cancel_left (show "2024-01-15".toList ++ "+-1:05".toList = _ from htext)
    rcases hwritten with ⟨rfl, -⟩ | ⟨_, _, _, _, _, rfl, ⟨a, b, ha, -, rfl, -⟩, -⟩
    · cases hending
    · cases hending
      exact absurd ha (by decide)

end Zone

end TreePath
