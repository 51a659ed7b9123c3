/-
TreePath.Proofs.Atomic.LexicalRoundTrip — a value is read back from its canonical form.

A well-formed value is what its type reads from its own written form (`read_text`); the round trips
of numbers, dates, durations, addresses and bytes are the cases. Since values are well formed
however they were built, this holds of every value that can be obtained at all
(`Obtainable.read_text_eq`), and values of one type that are written alike are one value
(`text_injective`).
-/
import TreePath.Proofs.Atomic.WellFormed
import TreePath.Proofs.Binary.Base64RoundTrip
import TreePath.Proofs.Calendar.DateRoundTrip
import TreePath.Proofs.Calendar.DurationRoundTrip
import TreePath.Proofs.Net.AddressRoundTrip
import TreePath.Proofs.Number.DecimalRoundTrip

namespace TreePath

open TreePath.Text

namespace AtomicValue

/-! ## Reading the written form -/

theorem readInt_bind_intDigits (i : Int64) :
    (readInt (intDigits i.toInt)).bind Int64.ofInt? = some i := by
  rw [readInt_intDigits, Option.bind_some, Int64.ofInt?_toInt]

/-- **A well-formed value is read back from its written form.** -/
theorem read_text {v : AtomicValue} (h : v.WellFormed) : v.type.read v.text = .ok v := by
  rw [Datatype.read.eq_def]
  cases v <;> simp only [type, text, String.toList_ofList]
  case token s | emailAddress s | hostname s =>
    obtain ⟨htrim, hgrammar⟩ := h
    simp only [htrim, hgrammar, if_true, String.ofList_toList]
  case uuid s =>
    obtain ⟨htrim, hgrammar⟩ := h
    simp only [htrim, hgrammar, Option.map_some, String.ofList_toList]
  case uri s =>
    obtain ⟨htrim, hform⟩ := h
    simp only [htrim, hform, beq_self_eq_true, if_true, String.ofList_toList]
  case uriReference s =>
    obtain ⟨htrim, hform⟩ := h
    simp only [htrim, hform, Option.map_some, String.ofList_toList]
  case ipV4Address a =>
    rw [trim_of_graphic fun _ => IPv4.isGraphic_of_mem_write, IPv4.read?_write]
    rfl
  case ipV6Address a =>
    rw [trim_of_graphic fun _ => IPv6.isGraphic_of_mem_write, IPv6.read?_write]
    rfl
  case boolean b => cases b <;> rfl
  case decimal d =>
    rw [trim_of_graphic fun _ => Decimal.isGraphic_of_mem_write, Decimal.read?_write]
    rfl
  case integer i =>
    rw [trim_of_graphic fun _ => isGraphic_of_mem_intDigits, readInt_bind_intDigits]
    rfl
  case nonNegativeInteger i =>
    have hi : 0 ≤ i := h
    rw [trim_of_graphic fun _ => isGraphic_of_mem_intDigits, readInt_bind_intDigits]
    simp only [Option.bind_some, ofInteger?, hi, if_true]
  case positiveInteger i =>
    have hi : 0 < i := h
    rw [trim_of_graphic fun _ => isGraphic_of_mem_intDigits, readInt_bind_intDigits]
    simp only [Option.bind_some, ofInteger?, hi, if_true]
  case yearMonthDuration months =>
    rw [trim_of_graphic fun _ => YearMonthDuration.isGraphic_of_mem_write,
      YearMonthDuration.read_write h]
    rfl
  case dayTimeDuration d =>
    rw [trim_of_graphic fun _ => DayTimeDuration.isGraphic_of_mem_write,
      DayTimeDuration.read_write]
    rfl
  case date d zone =>
    rw [trim_zoned (fun _ => Date.isGraphic_of_mem_write) zone, Date.readZoned_write]
    rfl
  case dateWithTimezone d zone =>
    have hread := Date.readZoned_write d (some zone)
    have htrim := trim_zoned (fun _ => Date.isGraphic_of_mem_write (d := d)) (some zone)
    rw [Zone.writeOptional] at hread htrim
    rw [htrim, hread]
    rfl
  case dateTime t zone =>
    rw [trim_zoned (fun _ => DateTime.isGraphic_of_mem_write) zone, DateTime.readZoned_write]
    rfl
  case dateTimeWithTimezone t zone =>
    have hread := DateTime.readZoned_write t (some zone)
    have htrim := trim_zoned (fun _ => DateTime.isGraphic_of_mem_write (t := t)) (some zone)
    have hzoned : zoned? t zone = some (dateTimeWithTimezone t zone) := if_pos h
    rw [Zone.writeOptional] at hread htrim
    rw [htrim, hread]
    simp only [bind, Except.bind, Option.bind_some, hzoned]
  case base64 bytes =>
    have hgraphic : ∀ c ∈ Base64.encode bytes, IsGraphic c :=
      fun _ => Base64.isGraphic_of_mem_encode
    have hfilter : (Base64.encode bytes).filter (fun c => !Unicode.isWhiteSpace c)
        = Base64.encode bytes :=
      List.filter_eq_self.mpr fun c hc => by simp [(hgraphic c hc).not_white]
    rw [trim_of_graphic hgraphic, hfilter, Base64.decode_encode]
    rfl

/-- Values of one type that are written alike are one value. -/
theorem text_injective {v w : AtomicValue} (hv : v.WellFormed) (hw : w.WellFormed)
    (htype : v.type = w.type) (htext : v.text = w.text) : v = w := by
  have hread := read_text hv
  rw [htype, htext, read_text hw] at hread
  cases hread
  rfl

theorem same_refl (v : AtomicValue) : v.same v = true := by
  cases v <;> simp [same]

/-! ## Values that can be obtained -/

/-- What reading, casting, rounding and arithmetic give, applied any number of times. -/
inductive Obtainable : AtomicValue → Prop where
  | read {t : Datatype} {lexical : String} {v : AtomicValue} :
      t.read lexical = .ok v → Obtainable v
  | cast {v w : AtomicValue} {t : Datatype} : Obtainable v → v.cast t = .ok w → Obtainable w
  | abs {v w : AtomicValue} : Obtainable v → v.abs = .ok w → Obtainable w
  | ceiling {v w : AtomicValue} : Obtainable v → v.ceiling = .ok w → Obtainable w
  | floor {v w : AtomicValue} : Obtainable v → v.floor = .ok w → Obtainable w
  | roundTo {v w : AtomicValue} {precision : Int64} :
      Obtainable v → v.roundTo precision = .ok w → Obtainable w
  | negate {v w : AtomicValue} : Obtainable v → v.negate = .ok w → Obtainable w
  | arithmetic {op : Arithmetic} {a b v : AtomicValue} :
      Obtainable a → Obtainable b → AtomicValue.arithmetic op a b = .ok v → Obtainable v

theorem Obtainable.wellFormed {v : AtomicValue} (h : Obtainable v) : v.WellFormed := by
  induction h with
  | read h => exact Datatype.read_wellFormed h
  | cast _ h ih => exact cast_wellFormed ih h
  | abs _ h ih => exact abs_wellFormed ih h
  | ceiling _ h ih => exact ceiling_wellFormed ih h
  | floor _ h ih => exact floor_wellFormed ih h
  | roundTo _ h ih => exact roundTo_wellFormed ih h
  | negate _ h => exact (isNumber_negate h).wellFormed
  | arithmetic _ _ h => exact (isNumber_arithmetic h).wellFormed

/-- **Lexical round trip.** However a value was obtained, its type reads its canonical form, and
what it reads is the value itself, so the two are the same, of one type and written alike. -/
theorem Obtainable.read_text_eq {v : AtomicValue} (h : Obtainable v) :
    v.type.read v.text = .ok v ∧ v.same v = true :=
  ⟨read_text h.wellFormed, same_refl v⟩

/-- A number that was read with zeros and white space around it, rounded down, cast to an integer
and negated. -/
theorem read_text_eq_of_negated_floor :
    Obtainable (integer 8) ∧
      (integer 8).type.read (integer 8).text = .ok (integer 8) ∧
      (integer 8).same (integer 8) = true := by
  have hread : Datatype.decimal.read " -7.250 " = .ok (decimal ⟨-725, 2, by decide, by decide,
    by decide⟩) := by rfl
  have hfloor : (decimal ⟨-725, 2, by decide, by decide, by decide⟩).floor
    = .ok (decimal ⟨-8, 0, by decide, by decide, by decide⟩) := by rfl
  have hcast : (decimal ⟨-8, 0, by decide, by decide, by decide⟩).cast .integer
    = .ok (integer (-8)) := by rfl
  have hnegate : (integer (-8)).negate = .ok (integer 8) := by rfl
  have h : Obtainable (integer 8) := .negate (.cast (.floor (.read hread) hfloor) hcast) hnegate
  exact ⟨h, Obtainable.read_text_eq h⟩

end AtomicValue

end TreePath
