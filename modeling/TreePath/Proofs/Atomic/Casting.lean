/-
TreePath.Proofs.Atomic.Casting — what a cast gives, and how it fails.

A cast is defined for every value and every type. Where it fails, the cause is that of a cast
(`code_of_cast`); where it gives a value, the value is of the type asked for, apart from references
that turn out to be URIs and from the topmost type, which takes values as they are (`type_of_cast`).
The values that texts can be read as are the well-formed ones (`isRead_iff_wellFormed`), so a cast,
which builds most of its values without reading any text, does not leave them either.
-/
import TreePath.Proofs.Atomic.LexicalRoundTrip

namespace TreePath

/-! ## Types of values -/

namespace AtomicValue

theorem type_ofInteger? {t : Datatype} {i : Int64} {v : AtomicValue}
    (h : ofInteger? t i = some v) : v.type = t := by
  cases t <;> simp only [ofInteger?, reduceCtorEq] at h
  case integer => cases h; rfl
  case nonNegativeInteger | positiveInteger =>
    split at h
    · cases h; rfl
    · cases h

theorem type_zoned? {t : DateTime} {zone : Zone} {v : AtomicValue} (h : zoned? t zone = some v) :
    v.type = .dateTimeWithTimezone := by
  rw [zoned?] at h
  split at h
  · cases h; rfl
  · cases h

theorem type_ofDecimal? {t : Datatype} {d : Decimal} {v : AtomicValue}
    (h : ofDecimal? t d = some v) : v.type = t := by
  rw [ofDecimal?.eq_def] at h
  split at h
  · cases h; rfl
  · obtain ⟨i, _, hi⟩ := Option.bind_eq_some_iff.mp h
    exact type_ofInteger? hi

theorem type_castTemporal? {v w : AtomicValue} {t : Datatype} (h : v.castTemporal? t = some w) :
    w.type = t := by
  rw [castTemporal?.eq_def] at h
  split at h
  case h_1 => obtain ⟨_, _, rfl⟩ := Option.map_eq_some_iff.mp h; rfl
  case h_3 =>
    obtain ⟨_, _, hzoned⟩ := Option.bind_eq_some_iff.mp h
    exact type_zoned? hzoned
  case h_7 | h_8 => exact type_zoned? h
  case h_13 => cases h
  all_goals cases h; rfl

end AtomicValue

open AtomicValue

namespace Datatype

/-- What is built from something that may not have been read. -/
theorem exists_of_map {α ε : Type} {r : Except ε α} {f : α → AtomicValue} {v : AtomicValue}
    (h : r.map f = .ok v) : ∃ a, v = f a := by
  cases r with
  | error e => cases h
  | ok a => cases h; exact ⟨a, rfl⟩

/-- **A text is read as a value of the type**, except that a reference may be a URI and that the
topmost type reads strings. -/
theorem type_of_read {t : Datatype} {lexical : String} {v : AtomicValue}
    (h : t.read lexical = .ok v) :
    v.type = t ∨ (t = .uriReference ∧ v.type = .uri) ∨ (t = .anyAtomic ∧ v.type = .string) := by
  rw [read.eq_def] at h
  cases t <;> simp only at h
  case anyAtomic => cases h; exact .inr (.inr ⟨rfl, rfl⟩)
  case uriReference =>
    obtain ⟨form, _, hv⟩ := Option.map_eq_some_iff.mp (some_of_found h)
    cases form with
    | absolute => cases hv; exact .inr (.inl ⟨rfl, rfl⟩)
    | relative => cases hv; exact .inl rfl
  all_goals left
  case string | markupLine | markupMultiline => cases h; rfl
  case token | emailAddress | hostname | uri =>
    obtain ⟨_, rfl⟩ := ok_of_checked h
    rfl
  case uuid | ipV4Address | ipV6Address | boolean | decimal | base64 =>
    obtain ⟨_, _, rfl⟩ := Option.map_eq_some_iff.mp (some_of_found h)
    rfl
  case integer | nonNegativeInteger | positiveInteger =>
    obtain ⟨i, _, hi⟩ := Option.bind_eq_some_iff.mp (some_of_found h)
    exact type_ofInteger? hi
  case yearMonthDuration | dayTimeDuration | date | dateTime =>
    obtain ⟨_, rfl⟩ := exists_of_map h
    rfl
  case dateWithTimezone =>
    cases hread : Date.readZoned (Text.trim lexical.toList) with
    | error e => rw [hread] at h; cases h
    | ok r =>
      rw [hread] at h
      obtain ⟨_, _, rfl⟩ := Option.map_eq_some_iff.mp (some_of_found h)
      rfl
  case dateTimeWithTimezone =>
    cases hread : DateTime.readZoned (Text.trim lexical.toList) with
    | error e => rw [hread] at h; cases h
    | ok r =>
      rw [hread] at h
      obtain ⟨_, _, hzoned⟩ := Option.bind_eq_some_iff.mp (some_of_found h)
      exact type_zoned? hzoned

end Datatype

namespace AtomicValue

/-! ## Values that can be read -/

/-- Some text is read as the value, by the type that the value has. -/
def IsRead (v : AtomicValue) : Prop := ∃ lexical, v.type.read lexical = .ok v

/-- **The values that texts are read as are those that keep the promises of their types.** -/
theorem isRead_iff_wellFormed {v : AtomicValue} : v.IsRead ↔ v.WellFormed :=
  ⟨fun ⟨_, h⟩ => Datatype.read_wellFormed h, fun h => ⟨v.text, read_text h⟩⟩

/-! ## Outcomes of casts -/

/-- The type of a value is the one asked for, as far as casts promise it. -/
def FitsCast (t : Datatype) (w : AtomicValue) : Prop :=
  w.type = t ∨ (t = .uriReference ∧ w.type = .uri)

/-- What may come of a cast to a type below the topmost one. -/
def CastTo (t : Datatype) (r : Except Error AtomicValue) : Prop :=
  match r with
  | .ok w => w.FitsCast t
  | .error e => e.code = .invalidLexicalForm ∨ e.code = .durationOverflow

theorem fitsCast_of_read {t : Datatype} (ht : t ≠ .anyAtomic) {lexical : String} {w : AtomicValue}
    (h : t.read lexical = .ok w) : w.FitsCast t := by
  rcases Datatype.type_of_read h with htype | ⟨huri, htype⟩ | ⟨hany, -⟩
  · exact .inl htype
  · exact .inr ⟨huri, htype⟩
  · exact absurd hany ht

theorem castText_castTo {v : AtomicValue} {t : Datatype} (ht : t ≠ .anyAtomic) :
    CastTo t (v.castText t) := by
  rw [castText]
  cases hread : t.read v.text with
  | ok w => exact fitsCast_of_read ht hread
  | error e =>
    simp only [CastTo]
    split
    · exact .inr ‹_›
    · exact .inl rfl

/-- A cast gives a value that fits, or fails for one of two causes. -/
theorem cast_castTo {v : AtomicValue} {t : Datatype} (ht : t ≠ .anyAtomic) :
    CastTo t (v.cast t) := by
  have hcannot : CastTo t (.error (v.cannotCast t)) := .inl rfl
  rw [cast]
  split
  · rename_i hsame
    rcases hsame with hsame | hany
    · exact .inl hsame
    · exact absurd hany ht
  · split
    · rename_i hstring
      exact .inl hstring.symm
    · split
      · split
        · exact .inl (type_ofDecimal? ‹_›)
        · exact hcannot
      · split
        case h_1 | h_3 => exact .inl rfl
        case h_2 =>
          simp only
          split
          · split
            · exact .inl ‹_›
            · exact hcannot
          · exact hcannot
        case h_4 =>
          split
          · exact hcannot
          · exact .inl rfl
        case h_5 | h_6 | h_7 | h_8 =>
          split
          · exact fitsCast_of_read ht ‹_›
          · exact hcannot
        case h_9 => exact hcannot
        case h_10 =>
          split
          · exact .inl rfl
          · split
            · exact .inl (type_castTemporal? ‹_›)
            · split
              · exact castText_castTo ht
              · exact hcannot

theorem cast_anyAtomic (v : AtomicValue) : v.cast .anyAtomic = .ok v := by
  rw [cast, if_pos (.inr rfl)]

/-- **A cast fails because of its value**, or because a duration is too long. -/
theorem code_of_cast {v : AtomicValue} {t : Datatype} {e : Error} (h : v.cast t = .error e) :
    e.code = .invalidLexicalForm ∨ e.code = .durationOverflow := by
  have ht : t ≠ .anyAtomic := by
    rintro rfl
    rw [cast_anyAtomic] at h
    cases h
  have hcast := cast_castTo (v := v) ht
  rw [h] at hcast
  exact hcast

theorem type_of_cast {v w : AtomicValue} {t : Datatype} (ht : t ≠ .anyAtomic)
    (h : v.cast t = .ok w) : w.FitsCast t := by
  have hcast := cast_castTo (v := v) ht
  rw [h] at hcast
  exact hcast

theorem kind_of_cast {v : AtomicValue} {t : Datatype} {e : Error} (h : v.cast t = .error e) :
    e.kind = .cast := by
  rw [Error.kind]
  rcases code_of_cast h with hcode | hcode
  all_goals
    rw [hcode]
    rfl

/-- **Casts are total and sound.** Every value can be cast to every type, in the sense that the cast
fails as a cast or gives a value of exactly that type; but a reference may be a URI, and the topmost
type takes each value as it is. If the value is one that a text can be read as, so is the result,
and so the result keeps the promises of its own type: a positive integer is positive, a token is a
token, and a date-time with a zone denotes an instant in range. -/
theorem cast_outcome (v : AtomicValue) (t : Datatype) :
    (t = .anyAtomic → v.cast t = .ok v) ∧
      ((∃ e, v.cast t = .error e ∧ e.kind = .cast) ∨
        ∃ w, v.cast t = .ok w ∧
          (w.type = t ∨ (t = .uriReference ∧ w.type = .uri) ∨ (t = .anyAtomic ∧ w = v)) ∧
          (v.IsRead → w.IsRead ∧ w.WellFormed)) := by
  refine ⟨fun ht => ht ▸ v.cast_anyAtomic, ?_⟩
  cases h : v.cast t with
  | error e => exact .inl ⟨e, rfl, kind_of_cast h⟩
  | ok w =>
    refine .inr ⟨w, rfl, ?_, fun hread => ?_⟩
    · by_cases ht : t = .anyAtomic
      · subst ht
        rw [cast_anyAtomic] at h
        cases h
        exact .inr (.inr ⟨rfl, rfl⟩)
      · exact (type_of_cast ht h).imp id .inl
    · have hw := cast_wellFormed (isRead_iff_wellFormed.mp hread) h
      exact ⟨isRead_iff_wellFormed.mpr hw, hw⟩

/-- Midnight of the first day, fourteen hours west of Greenwich, is a date-time with a zone;
fourteen hours east it would be too early. -/
theorem cast_outcome_of_first_date :
    (date .first (some ⟨-840, by decide⟩)).IsRead ∧
      (date .first (some ⟨-840, by decide⟩)).cast .dateTimeWithTimezone
        = .ok (dateTimeWithTimezone (.atMidnight .first) ⟨-840, by decide⟩) ∧
      (dateTimeWithTimezone (.atMidnight .first) ⟨-840, by decide⟩).IsRead ∧
      (dateTimeWithTimezone (.atMidnight .first) ⟨-840, by decide⟩).WellFormed ∧
      ∃ e, (date .first (some ⟨840, by decide⟩)).cast .dateTimeWithTimezone = .error e ∧
        e.kind = .cast := by
  have hread : (date .first (some ⟨-840, by decide⟩)).IsRead := ⟨_, read_text trivial⟩
  have hwest : (date .first (some ⟨-840, by decide⟩)).cast .dateTimeWithTimezone
      = .ok (dateTimeWithTimezone (.atMidnight .first) ⟨-840, by decide⟩) := by rfl
  have heast : ((date .first (some ⟨840, by decide⟩)).cast .dateTimeWithTimezone).isOk = false := by
    rfl
  refine ⟨hread, hwest, ?_⟩
  rcases (cast_outcome (date .first (some ⟨-840, by decide⟩)) .dateTimeWithTimezone).2 with
    ⟨e, he, -⟩ | ⟨w, hw, -, hkeeps⟩
  · rw [hwest] at he
    cases he
  · rw [hwest] at hw
    cases hw
    refine ⟨(hkeeps hread).1, (hkeeps hread).2, ?_⟩
    rcases (cast_outcome (date .first (some ⟨840, by decide⟩)) .dateTimeWithTimezone).2 with
      hfails | ⟨w, hw, -⟩
    · exact hfails
    · rw [hw] at heast
      cases heast

end AtomicValue

end TreePath
