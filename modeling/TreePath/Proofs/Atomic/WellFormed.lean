/-
TreePath.Proofs.Atomic.WellFormed — what holds of every value that the program builds.

The constructors of `AtomicValue` do not keep the promises of their types by themselves: a token is
any text, a positive integer any integer. `WellFormed` says what the promises are. Reading a text
gives a well-formed value of any type (`read_wellFormed`); casts, rounding and arithmetic build
values without reading any, and they keep the promises too (`cast_wellFormed`, `roundTo_wellFormed`,
`IsNumber.wellFormed`).
-/
import TreePath.Atomic.Cast
import TreePath.Proofs.Atomic.Numeric
import TreePath.Proofs.Text.Digits

namespace TreePath

open TreePath.Text

namespace AtomicValue

/-- The value keeps what its type promises. Text that is read with white space around it is kept
without. Months are read in a range that leaves out the smallest 32-bit number. -/
def WellFormed : AtomicValue → Prop
  | token s => trim s.toList = s.toList ∧ Net.isToken s.toList = true
  | emailAddress s => trim s.toList = s.toList ∧ Net.isEmailAddress s.toList = true
  | hostname s => trim s.toList = s.toList ∧ Net.isHostname s.toList = true
  | uuid s => trim s.toList = s.toList ∧ Lexical.uuid? s.toList = some s.toList
  | nonNegativeInteger i => 0 ≤ i
  | positiveInteger i => 0 < i
  | uri s => trim s.toList = s.toList ∧ Net.Uri.classify s.toList = some .absolute
  | uriReference s => trim s.toList = s.toList ∧ Net.Uri.classify s.toList = some .relative
  | yearMonthDuration months => months.toInt.natAbs < YearMonthDuration.monthsBound
  | dateTimeWithTimezone t zone => t.isRepresentable zone = true
  | _ => True

end AtomicValue

open AtomicValue

/-! ## Identifiers in lower case -/

namespace Lexical

/-- Lowering a hexadecimal digit leaves a hexadecimal digit, which is lowered no further. -/
theorem toLower_hexDigit {c : Char} (h : isHexDigit c = true) :
    isHexDigit c.toLower = true ∧ c.toLower ≠ '-' ∧ c.toLower.toLower = c.toLower ∧
      IsGraphic c.toLower := by
  have hall : ∀ n < 128, isHexDigit (Char.ofNat n) = true →
      isHexDigit (Char.ofNat n).toLower = true ∧ (Char.ofNat n).toLower ≠ '-' ∧
        (Char.ofNat n).toLower.toLower = (Char.ofNat n).toLower ∧
        IsGraphic (Char.ofNat n).toLower := by decide
  have hbound : c.toNat < 128 := by
    simp only [isHexDigit, isDigit, Bool.or_eq_true, Bool.and_eq_true, decide_eq_true_eq,
      Char.le_def, UInt32.le_iff_toNat_le] at h
    have hval : c.toNat = c.val.toNat := rfl
    have hz : ('z' : Char).val.toNat = 122 := rfl
    have h9 : ('9' : Char).val.toNat = 57 := rfl
    have hf : ('f' : Char).val.toNat = 102 := rfl
    have hF : ('F' : Char).val.toNat = 70 := rfl
    omega
  have hc := hall c.toNat hbound
  rw [Char.ofNat_toNat] at hc
  exact hc h

theorem splitAtChar_map {sep : Char} {f : Char → Char} :
    ∀ {s : List Char}, (∀ c ∈ s, f c = sep ↔ c = sep) →
      splitAtChar sep (s.map f) = (splitAtChar sep s).map (List.map f)
  | [], _ => rfl
  | c :: s, h => by
      have ih : splitAtChar sep (s.map f) = (splitAtChar sep s).map (List.map f) :=
        splitAtChar_map fun x hx => h x (by simp [hx])
      have hc := h c (by simp)
      rw [List.map_cons, splitAtChar, splitAtChar]
      by_cases hsep : c = sep
      · rw [if_pos (hc.mpr hsep), if_pos hsep, ih]
        rfl
      · rw [if_neg (fun hf => hsep (hc.mp hf)), if_neg hsep, ih]
        cases splitAtChar sep s <;> rfl

/-- Every character is the separator or stands in a piece. -/
theorem mem_splitAtChar (sep : Char) :
    ∀ {s : List Char} {c : Char}, c ∈ s → c = sep ∨ ∃ piece ∈ splitAtChar sep s, c ∈ piece
  | d :: s, c, h => by
      rw [splitAtChar]
      rcases List.mem_cons.mp h with rfl | h
      · by_cases hsep : c = sep
        · exact .inl hsep
        · rw [if_neg hsep]
          right
          cases splitAtChar sep s with
          | nil => exact ⟨_, List.mem_cons_self, List.mem_cons_self⟩
          | cons p ps => exact ⟨_, List.mem_cons_self, List.mem_cons_self⟩
      · rcases mem_splitAtChar sep h with hsep | ⟨piece, hp, hc⟩
        · exact .inl hsep
        · right
          by_cases hd : d = sep
          · rw [if_pos hd]
            exact ⟨piece, List.mem_cons_of_mem _ hp, hc⟩
          · rw [if_neg hd]
            cases hsplit : splitAtChar sep s with
            | nil => rw [hsplit] at hp; exact absurd hp List.not_mem_nil
            | cons p ps =>
              rw [hsplit] at hp
              rcases List.mem_cons.mp hp with rfl | hp
              · exact ⟨_, List.mem_cons_self, List.mem_cons_of_mem _ hc⟩
              · exact ⟨piece, List.mem_cons_of_mem _ hp, hc⟩

/-- An identifier is stored in lower case, and read again as it is stored. -/
theorem uuid?_idempotent {s lowered : List Char} (h : uuid? s = some lowered) :
    uuid? lowered = some lowered ∧ trim lowered = lowered := by
  simp only [uuid?] at h
  split at h
  · rename_i hgroups
    obtain ⟨hlen, hhex⟩ := hgroups
    cases h
    have hcase : ∀ c ∈ s, c = '-' ∨ isHexDigit c = true := by
      intro c hc
      rcases mem_splitAtChar '-' hc with hsep | ⟨piece, hp, hmem⟩
      · exact .inl hsep
      · exact .inr (List.all_eq_true.mp (List.all_eq_true.mp hhex piece hp) c hmem)
    have hdash : ('-' : Char).toLower = '-' := rfl
    have hlower : (s.map Char.toLower).map Char.toLower = s.map Char.toLower := by
      rw [List.map_map]
      refine List.map_congr_left fun c hc => ?_
      rcases hcase c hc with rfl | hhex
      · rfl
      · exact (toLower_hexDigit hhex).2.2.1
    have hsplit : splitAtChar '-' (s.map Char.toLower)
        = (splitAtChar '-' s).map (List.map Char.toLower) := by
      refine splitAtChar_map fun c hc => ⟨fun hl => ?_, fun heq => by rw [heq, hdash]⟩
      rcases hcase c hc with heq | hhex
      · exact heq
      · exact absurd hl (toLower_hexDigit hhex).2.1
    have hlen' : (splitAtChar '-' (s.map Char.toLower)).map List.length = [8, 4, 4, 4, 12] := by
      rw [hsplit, List.map_map, ← hlen]
      refine List.map_congr_left fun p _ => ?_
      simp
    have hhex' : (splitAtChar '-' (s.map Char.toLower)).all (·.all isHexDigit) = true := by
      rw [hsplit]
      simp only [List.all_eq_true, List.mem_map]
      rintro _ ⟨piece, hp, rfl⟩ _ hmem
      obtain ⟨c, hc, rfl⟩ := List.mem_map.mp hmem
      exact (toLower_hexDigit (List.all_eq_true.mp (List.all_eq_true.mp hhex piece hp) c hc)).1
    refine ⟨?_, trim_of_graphic fun c hc => ?_⟩
    · simp only [uuid?]
      rw [if_pos ⟨hlen', hhex'⟩, hlower]
    · obtain ⟨d, hd, rfl⟩ := List.mem_map.mp hc
      rcases hcase d hd with rfl | hhex
      · decide
      · exact (toLower_hexDigit hhex).2.2.2
  · cases h

end Lexical

/-! ## Reading -/

theorem Int64.ofInt?_toInt (i : Int64) : Int64.ofInt? i.toInt = some i := by
  have h := i.toInt_lt
  have h' := i.le_toInt
  rw [Int64.ofInt?, if_pos (by omega), Int64.ofInt_toInt]

/-- A whole number is an integer of 64 bits, or it is none of them. -/
theorem Int64.ofInt?_cases (n : Int) :
    (∃ i, Int64.ofInt? n = some i ∧ i.toInt = n) ∨
      (Int64.ofInt? n = none ∧ ∀ i : Int64, i.toInt ≠ n) := by
  rw [Int64.ofInt?]
  split
  · rename_i h
    exact .inl ⟨_, rfl, Int64.toInt_ofInt_of_le (by omega) (by omega)⟩
  · rename_i h
    refine .inr ⟨rfl, fun i hi => h ?_⟩
    have hle := i.le_toInt
    have hlt := i.toInt_lt
    omega

theorem AtomicValue.ofInteger?_wellFormed {t : Datatype} {i : Int64} {v : AtomicValue}
    (h : ofInteger? t i = some v) : v.WellFormed := by
  cases t <;> simp only [ofInteger?, reduceCtorEq] at h
  · cases h; trivial
  · split at h
    · cases h; assumption
    · cases h
  · split at h
    · cases h; assumption
    · cases h

theorem AtomicValue.zoned?_wellFormed {t : DateTime} {zone : Zone} {v : AtomicValue}
    (h : zoned? t zone = some v) : v.WellFormed := by
  rw [zoned?] at h
  split at h
  · cases h; assumption
  · cases h

theorem YearMonthDuration.read_lt {s : List Char} {months : Int32}
    (h : YearMonthDuration.read s = .ok months) :
    months.toInt.natAbs < YearMonthDuration.monthsBound := by
  rw [YearMonthDuration.read] at h
  split at h
  · cases h
  · simp only at h
    split at h
    · cases h
    · split at h
      · rename_i hlt
        cases h
        simp only [YearMonthDuration.monthsBound] at hlt ⊢
        rw [Int32.toInt_ofInt_of_le (by split <;> omega) (by split <;> omega)]
        split <;> omega
      · cases h

namespace Datatype

/-- A form that was checked. -/
theorem ok_of_checked {holds : Bool} {v w : AtomicValue} {e : Error}
    (h : (if holds = true then Except.ok v else .error e) = Except.ok w) :
    holds = true ∧ v = w := by
  split at h
  · cases h
    exact ⟨by assumption, rfl⟩
  · cases h

/-- A value that was found. -/
theorem some_of_found {found : Option AtomicValue} {w : AtomicValue} {e : Error}
    (h : (match found with
      | some v => Except.ok v
      | none => .error e) = Except.ok w) : found = some w := by
  split at h
  · cases h; rfl
  · cases h

theorem found_of_some {found : Option AtomicValue} {w : AtomicValue} {e : Error}
    (h : found = some w) :
    (match found with
      | some v => Except.ok v
      | none => .error e) = Except.ok w := by
  rw [h]

/-- **Whatever text is read, and as whatever type, the value keeps the promises of its type.** -/
theorem read_wellFormed {t : Datatype} {lexical : String} {v : AtomicValue}
    (h : t.read lexical = .ok v) : v.WellFormed := by
  have htrim := trim_trim lexical.toList
  rw [read.eq_def] at h
  cases t <;> simp only at h
  case anyAtomic | string | markupLine | markupMultiline => cases h; trivial
  case token | emailAddress | hostname =>
    obtain ⟨hgrammar, rfl⟩ := ok_of_checked h
    exact ⟨by rw [String.toList_ofList]; exact htrim, by rw [String.toList_ofList]; exact hgrammar⟩
  case uri =>
    obtain ⟨hgrammar, rfl⟩ := ok_of_checked h
    have hform := eq_of_beq hgrammar
    exact ⟨by rw [String.toList_ofList]; exact htrim, by rw [String.toList_ofList]; exact hform⟩
  case uriReference =>
    obtain ⟨form, hform, hv⟩ := Option.map_eq_some_iff.mp (some_of_found h)
    cases form
    all_goals
      cases hv
      exact ⟨by rw [String.toList_ofList]; exact htrim, by rw [String.toList_ofList]; exact hform⟩
  case uuid =>
    obtain ⟨lowered, hread, rfl⟩ := Option.map_eq_some_iff.mp (some_of_found h)
    obtain ⟨hagain, htrimmed⟩ := Lexical.uuid?_idempotent hread
    exact ⟨by rw [String.toList_ofList]; exact htrimmed, by rw [String.toList_ofList]; exact hagain⟩
  case ipV4Address | ipV6Address | boolean | decimal | base64 =>
    obtain ⟨_, _, rfl⟩ := Option.map_eq_some_iff.mp (some_of_found h)
    trivial
  case integer | nonNegativeInteger | positiveInteger =>
    obtain ⟨i, _, hi⟩ := Option.bind_eq_some_iff.mp (some_of_found h)
    exact ofInteger?_wellFormed hi
  case yearMonthDuration =>
    cases hread : YearMonthDuration.read (trim lexical.toList) with
    | error e => rw [hread] at h; cases h
    | ok months =>
      rw [hread] at h
      cases h
      exact YearMonthDuration.read_lt hread
  case dayTimeDuration =>
    cases hread : DayTimeDuration.read (trim lexical.toList) with
    | error e => rw [hread] at h; cases h
    | ok d => rw [hread] at h; cases h; trivial
  case date =>
    cases hread : Date.readZoned (trim lexical.toList) with
    | error e => rw [hread] at h; cases h
    | ok r => rw [hread] at h; cases h; trivial
  case dateTime =>
    cases hread : DateTime.readZoned (trim lexical.toList) with
    | error e => rw [hread] at h; cases h
    | ok r => rw [hread] at h; cases h; trivial
  case dateWithTimezone =>
    cases hread : Date.readZoned (trim lexical.toList) with
    | error e => rw [hread] at h; cases h
    | ok r =>
      rw [hread] at h
      obtain ⟨_, _, rfl⟩ := Option.map_eq_some_iff.mp (some_of_found h)
      trivial
  case dateTimeWithTimezone =>
    cases hread : DateTime.readZoned (trim lexical.toList) with
    | error e => rw [hread] at h; cases h
    | ok r =>
      rw [hread] at h
      obtain ⟨_, _, hzoned⟩ := Option.bind_eq_some_iff.mp (some_of_found h)
      exact zoned?_wellFormed hzoned

end Datatype

/-! ## Casts -/

namespace AtomicValue

theorem ofDecimal?_wellFormed {t : Datatype} {d : Decimal} {v : AtomicValue}
    (h : ofDecimal? t d = some v) : v.WellFormed := by
  rw [ofDecimal?.eq_def] at h
  split at h
  · cases h; trivial
  · obtain ⟨i, _, hi⟩ := Option.bind_eq_some_iff.mp h
    exact ofInteger?_wellFormed hi

theorem castTemporal?_wellFormed {v w : AtomicValue} {t : Datatype}
    (h : v.castTemporal? t = some w) : w.WellFormed := by
  rw [castTemporal?.eq_def] at h
  split at h
  case h_1 => obtain ⟨_, _, rfl⟩ := Option.map_eq_some_iff.mp h; trivial
  case h_3 =>
    obtain ⟨_, _, hzoned⟩ := Option.bind_eq_some_iff.mp h
    exact zoned?_wellFormed hzoned
  case h_7 | h_8 => exact zoned?_wellFormed h
  case h_13 => cases h
  all_goals cases h; trivial

theorem castText_wellFormed {v w : AtomicValue} {t : Datatype} (h : v.castText t = .ok w) :
    w.WellFormed := by
  rw [castText] at h
  split at h
  · rename_i hread
    cases h
    exact Datatype.read_wellFormed hread
  · cases h

/-- **A cast value keeps the promises of its type, whether it was read from text or built.** -/
theorem cast_wellFormed {v w : AtomicValue} {t : Datatype} (hv : v.WellFormed)
    (h : v.cast t = .ok w) : w.WellFormed := by
  rw [cast] at h
  split at h
  · cases h; exact hv
  · split at h
    · cases h; trivial
    · split at h
      · split at h
        · rename_i hd
          cases h
          exact ofDecimal?_wellFormed hd
        · cases h
      · split at h
        case h_1 | h_3 => cases h; trivial
        case h_2 =>
          simp only at h
          split at h
          · rename_i hi
            split at h
            · cases h
              exact ofInteger?_wellFormed hi
            · cases h
          · cases h
        case h_4 =>
          split at h
          · cases h
          · cases h; trivial
        case h_5 | h_6 | h_7 | h_8 =>
          split at h
          · rename_i hread
            cases h
            exact Datatype.read_wellFormed hread
          · cases h
        case h_9 => cases h
        case h_10 =>
          split at h
          · cases h; trivial
          · split at h
            · rename_i hw
              cases h
              exact castTemporal?_wellFormed hw
            · split at h
              · exact castText_wellFormed h
              · cases h

/-! ## Rounding and arithmetic -/

theorem IsNumber.wellFormed {v : AtomicValue} (h : v.IsNumber) : v.WellFormed := by
  rcases h with ⟨i, rfl⟩ | ⟨d, rfl⟩ <;> trivial

theorem abs_wellFormed {v w : AtomicValue} (hv : v.WellFormed) (h : v.abs = .ok w) :
    w.WellFormed := by
  rw [abs.eq_def] at h
  split at h
  · cases h; trivial
  · exact (isNumber_integerResult h).wellFormed
  · cases h; exact hv
  · cases h; exact hv
  · cases h

theorem ceiling_wellFormed {v w : AtomicValue} (hv : v.WellFormed) (h : v.ceiling = .ok w) :
    w.WellFormed := by
  rw [ceiling.eq_def] at h
  split at h
  · cases h; trivial
  · split at h
    · cases h; exact hv
    · cases h

theorem floor_wellFormed {v w : AtomicValue} (hv : v.WellFormed) (h : v.floor = .ok w) :
    w.WellFormed := by
  rw [floor.eq_def] at h
  split at h
  · cases h; trivial
  · split at h
    · cases h; exact hv
    · cases h

/-- Rounding keeps the sign: what is not negative stays so. -/
theorem roundInteger_nonneg {i r : Int64} {k : Nat} (hi : 0 ≤ i) (h : roundInteger i k = .ok r) :
    0 ≤ r := by
  have hi' : 0 ≤ i.toInt := by simpa [Int64.le_iff_toInt_le] using hi
  rw [roundInteger] at h
  split at h
  · cases h; decide
  · cases hr : Int64.ofInt? (roundMagnitude i.toInt k) with
    | none => rw [hr] at h; cases h
    | some j =>
      rw [hr] at h
      cases h
      rw [Int64.ofInt?] at hr
      split at hr
      · rename_i hrange
        cases hr
        have hpos : 0 ≤ roundMagnitude i.toInt k := by
          have hnot : ¬ i.toInt < 0 := by omega
          simp only [roundMagnitude, hnot, if_false]
          omega
        rw [Int64.le_iff_toInt_le, Int64.toInt_ofInt_of_le (by omega) (by omega)]
        simpa using hpos
      · cases hr

/-- **Rounding keeps the promises of a type or leaves the type.** -/
theorem roundTo_wellFormed {v w : AtomicValue} {precision : Int64} (hv : v.WellFormed)
    (h : v.roundTo precision = .ok w) : w.WellFormed := by
  rw [roundTo.eq_def] at h
  simp only at h
  split at h
  · split at h
    · cases h; trivial
    · exact (isNumber_map_decimal h).wellFormed
  · split at h
    · cases h
    · rename_i i hi
      split at h
      · cases h; exact hv
      · cases hr : roundInteger i precision.toInt.natAbs with
        | error e => rw [hr] at h; cases h
        | ok r =>
          rw [hr] at h
          cases v <;> simp only [integer?, reduceCtorEq] at hi
          case integer => cases h; trivial
          case nonNegativeInteger =>
            cases hi
            cases h
            exact roundInteger_nonneg hv hr
          case positiveInteger =>
            simp only [Except.map, Except.ok.injEq] at h
            subst h
            split
            · assumption
            · trivial

end AtomicValue

end TreePath
