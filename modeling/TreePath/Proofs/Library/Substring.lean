/-
TreePath.Proofs.Library.Substring — parts of a text by position.

The start and the length of a part are numbers. Both are rounded to whole numbers, a half going up,
and the part has the characters whose positions are at least the start and less than the sum of the
two. The sum may be beyond all decimals although neither number is. It is then above all positions
or below all of them, and the sign of the length tells which (`sum_cases`), so that the part is the
one that the exact sum gives.
-/
import TreePath.Proofs.Atomic.Rounding
import TreePath.Proofs.Library.Calls

namespace TreePath.Library

/-- The nearest whole number, the larger of two (`isNearest_nearestWhole`). -/
def nearestWhole (q : ℚ) : Int := ⌊q + 1 / 2⌋

theorem isNearest_nearestWhole (q : ℚ) : IsNearest 1 q (nearestWhole q) := by
  have h := isNearest_floor one_pos q
  rwa [div_one, mul_one] at h

/-! ## Characters at positions -/

/-- The characters of a text at the positions, counted from 1, that a test picks. -/
def charactersAt (picks : Nat → Bool) (s : List Char) : List Char :=
  ((s.zipIdx 1).filter fun c => picks c.2).map Prod.fst

theorem charactersBetween_eq (start : ℚ) (stop : Option ℚ) (position : Nat) (s : List Char) :
    charactersBetween start stop position s =
      ((s.zipIdx position).filter fun c => start ≤ (c.2 : ℚ) && stop.all ((c.2 : ℚ) < ·)).map
        Prod.fst := by
  induction s generalizing position with
  | nil => rfl
  | cons c rest ih =>
    rw [charactersBetween, List.zipIdx_cons, List.filter_cons, ih]
    simp only
    split <;> rfl

/-- Between two whole numbers. -/
theorem charactersBetween_intCast (m n : Int) (s : List Char) :
    charactersBetween m (some n) 1 s = charactersAt (fun p => m ≤ p ∧ (p : Int) < n) s := by
  rw [charactersBetween_eq, charactersAt]
  refine congrArg (List.map _) (List.filter_congr fun c _ => ?_)
  rw [Option.all_some, ← Bool.decide_and, decide_eq_decide]
  exact_mod_cast Iff.rfl

theorem charactersBetween_intCast_none (m : Int) (s : List Char) :
    charactersBetween m none 1 s = charactersAt (fun p => m ≤ p) s := by
  rw [charactersBetween_eq, charactersAt]
  refine congrArg (List.map _) (List.filter_congr fun c _ => ?_)
  rw [Option.all_none, Bool.and_true, decide_eq_decide]
  exact_mod_cast Iff.rfl

/-- Only the positions in the text count. -/
theorem charactersAt_congr {picks picks' : Nat → Bool} {s : List Char}
    (h : ∀ p, 1 ≤ p → p ≤ s.length → picks p = picks' p) :
    charactersAt picks s = charactersAt picks' s := by
  refine congrArg (List.map _) (List.filter_congr fun c hc => h c.2 ?_ ?_)
  · exact List.le_snd_of_mem_zipIdx hc
  · have := List.snd_lt_of_mem_zipIdx hc
    omega

theorem charactersAt_false (s : List Char) : charactersAt (fun _ => false) s = [] := by
  simp [charactersAt]

/-! ## Rounded arguments -/

/-- A number is rounded to the nearest whole number, the larger of two. -/
theorem roundedArgument_eq {args : List Sequence} {i : Nat} {v : AtomicValue} {x : Decimal}
    (hargs : args[i]? = some [.atomic v]) (hv : v.decimal? = some x) :
    ∃ r, roundedArgument args i = .ok r ∧ r.toRat = nearestWhole x.toRat := by
  have hargument : roundedArgument args i = (v.round >>= fun w => w.toDecimal) := by
    rw [roundedArgument, argument, hargs]
    rfl
  rw [hargument]
  cases v with
  | decimal d =>
    cases hv
    refine ⟨x.roundUp 0, rfl, ?_⟩
    rw [Decimal.toRat_roundUp, nearestWhole, pow_zero, mul_one, div_one]
  | integer n | nonNegativeInteger n | positiveInteger n =>
    cases hv
    refine ⟨Decimal.ofInt64 n, rfl, ?_⟩
    rw [Decimal.toRat_ofInt64, nearestWhole, Int.floor_intCast_add, floor_half, add_zero]
  | _ => cases hv

/-- The sum of two whole decimals is found, or it is beyond all decimals on the side that the second
one points to. -/
theorem sum_cases {a b : Decimal} {m n : Int} (ha : a.toRat = m) (hb : b.toRat = n) :
    (∃ r, a.add? b = some r ∧ r.toRat = (m + n : Int)) ∨
      (a.add? b = none ∧ b.isNegative = false ∧ (Decimal.coefficientBound : Int) ≤ m + n) ∨
      (a.add? b = none ∧ b.isNegative = true ∧ m + n ≤ -(Decimal.coefficientBound : Int)) := by
  have hsum : a.toRat + b.toRat = (m + n : Int) := by rw [ha, hb, Int.cast_add]
  rw [Decimal.add?, hsum]
  rcases Decimal.fit_intCast (m + n) with hfit | ⟨hnone, hlarge⟩
  · exact .inl hfit
  · refine .inr ?_
    rw [Decimal.isRepresentable_intCast, not_lt] at hlarge
    have hm : |m| < (Decimal.coefficientBound : Int) := by
      have := Decimal.abs_toRat_lt a
      rw [ha] at this
      exact_mod_cast this
    have hsign : b.isNegative = true ↔ n < 0 := by
      rw [Decimal.isNegative_iff, hb]
      exact_mod_cast Iff.rfl
    have habs := abs_lt.mp hm
    rw [hnone]
    cases hnegative : b.isNegative with
    | true =>
      have := hsign.mp hnegative
      exact .inr ⟨rfl, rfl, by omega⟩
    | false =>
      have : ¬ n < 0 := fun hn => by rw [hsign.mpr hn] at hnegative; cases hnegative
      exact .inl ⟨rfl, rfl, by omega⟩

/-! ## The function -/

variable {args : List Sequence} {v w : AtomicValue} {x y : Decimal}

theorem substring_from (site : CallSite) (hlength : args.length = 2)
    (hstart : args[1]? = some [.atomic v]) (hv : v.decimal? = some x) :
    substring site args = .ok (Sequence.ofString (String.ofList
      (charactersAt (fun p => nearestWhole x.toRat ≤ p) (textArgument args 0).toList))) := by
  obtain ⟨start, hrounded, hvalue⟩ := roundedArgument_eq hstart hv
  rw [substring, hrounded]
  simp only [hlength, bind, Except.bind, le_refl, if_true, hvalue, charactersBetween_intCast_none]
  rfl

theorem substring_within (site : CallSite) (hlength : args.length = 3)
    (hstart : args[1]? = some [.atomic v]) (hv : v.decimal? = some x)
    (hcount : args[2]? = some [.atomic w]) (hw : w.decimal? = some y)
    (hroom : (textArgument args 0).toList.length < Decimal.coefficientBound) :
    substring site args = .ok (Sequence.ofString (String.ofList
      (charactersAt (fun p => nearestWhole x.toRat ≤ p ∧
        (p : Int) < nearestWhole x.toRat + nearestWhole y.toRat)
          (textArgument args 0).toList))) := by
  obtain ⟨start, hrounded, hvalue⟩ := roundedArgument_eq hstart hv
  obtain ⟨count, hrounded', hvalue'⟩ := roundedArgument_eq hcount hw
  rw [substring, hrounded]
  have hthree : ¬ args.length ≤ 2 := by omega
  simp only [bind, Except.bind, if_neg hthree, hrounded', hvalue]
  rcases sum_cases hvalue hvalue' with ⟨stop, hstop, hsum⟩ | ⟨hnone, hsign, hlarge⟩ |
    ⟨hnone, hsign, hsmall⟩
  · simp only [hstop, hsum, charactersBetween_intCast]
    rfl
  · simp only [hnone, hsign, charactersBetween_intCast_none]
    refine congrArg (fun t => Except.ok (Sequence.ofString (String.ofList t))) ?_
    refine charactersAt_congr fun p _ hp => ?_
    rw [decide_eq_decide]
    refine (and_iff_left ?_).symm
    omega
  · simp only [hnone, hsign]
    refine congrArg (fun t => Except.ok (Sequence.ofString (String.ofList t))) ?_
    refine (charactersAt_false _).symm.trans (charactersAt_congr fun p hp _ => ?_)
    rw [eq_comm, decide_eq_false_iff_not]
    omega

/-! ## Calls -/

/-- The function that gives the rest of a text from a position on. -/
def substringFrom : Entry :=
  pureEntry "substring" [optionalString "source", parameter "start" decimalType .one] stringType
    .one substring

/-- The function that gives a part of a text. -/
def substringWithin : Entry :=
  pureEntry "substring" [optionalString "source", parameter "start" decimalType .one,
    parameter "length" decimalType .one] stringType .one substring

theorem accepts_number (hv : v.decimal? = some x) :
    (⟨decimalType, .one⟩ : SequenceType).accepts [.atomic v] = true := by
  cases v <;> first | rfl | cases hv

theorem substringFrom_admits (text : String) (hv : v.decimal? = some x) :
    (substringFrom.toFunction 14).Admits [[.atomic (.string text)], [.atomic v]] where
  count := rfl
  typed
    | 0, _, rfl => ⟨_, rfl, rfl⟩
    | 1, _, rfl => ⟨_, rfl, accepts_number hv⟩

theorem substringWithin_admits (text : String) (hv : v.decimal? = some x)
    (hw : w.decimal? = some y) :
    (substringWithin.toFunction 15).Admits
      [[.atomic (.string text)], [.atomic v], [.atomic w]] where
  count := rfl
  typed
    | 0, _, rfl => ⟨_, rfl, rfl⟩
    | 1, _, rfl => ⟨_, rfl, accepts_number hv⟩
    | 2, _, rfl => ⟨_, rfl, accepts_number hw⟩

/-- **Parts of texts.** For every start and length that are decimals or integers there is an answer,
and it has the characters at the positions that the rounded numbers say. The sum of the two is
exact, also beyond the decimals; only a text with more characters than there are coefficients could
reach that far. -/
theorem substring_positions (text : String) (hv : v.decimal? = some x) (hw : w.decimal? = some y)
    (site : CallSite) :
    Gives "substring" site [[.atomic (.string text)], [.atomic v]]
      (Sequence.ofString (String.ofList
        (charactersAt (fun p => nearestWhole x.toRat ≤ p) text.toList))) ∧
    (text.toList.length < Decimal.coefficientBound →
      Gives "substring" site [[.atomic (.string text)], [.atomic v], [.atomic w]]
        (Sequence.ofString (String.ofList
          (charactersAt (fun p => nearestWhole x.toRat ≤ p ∧
            (p : Int) < nearestWhole x.toRat + nearestWhole y.toRat) text.toList)))) := by
  constructor
  · exact .of_entry (e := substringFrom) rfl (substringFrom_admits text hv)
      (substring_from site rfl rfl hv) rfl
  · intro hroom
    exact .of_entry (e := substringWithin) rfl (substringWithin_admits text hv hw)
      (substring_within site rfl rfl hv rfl hw hroom) rfl

/-- A start and a length that are not whole, and an end beyond all decimals. -/
theorem substring_positions_of_far_end :
    let half : Decimal := ⟨-15, 1, by decide, by decide, by decide⟩
    let greatest : Decimal := ⟨79228162514264337593543950335, 0, by decide, by decide, .inl rfl⟩
    (AtomicValue.decimal half).decimal? = some half ∧
      (AtomicValue.decimal greatest).decimal? = some greatest ∧
      (AtomicValue.integer 2).decimal? = some (.ofInt64 2) ∧
      "abc".toList.length < Decimal.coefficientBound ∧
      Gives "substring" anywhere [[.atomic (.string "abc")], [.atomic (.decimal half)]]
        (Sequence.ofString "abc") ∧
      Gives "substring" anywhere
        [[.atomic (.string "abc")], [.atomic (.integer 2)], [.atomic (.decimal greatest)]]
        (Sequence.ofString "bc") := by
  intro half greatest
  have hhalf : (AtomicValue.decimal half).decimal? = some half := rfl
  have hgreatest : (AtomicValue.decimal greatest).decimal? = some greatest := rfl
  have htwo : (AtomicValue.integer 2).decimal? = some (.ofInt64 2) := rfl
  have hroom : "abc".toList.length < Decimal.coefficientBound := by decide
  have hfrom := (substring_positions "abc" hhalf hgreatest anywhere).1
  have hwithin := (substring_positions "abc" htwo hgreatest anywhere).2 hroom
  have hall : charactersAt (fun p => nearestWhole half.toRat ≤ p) "abc".toList
      = "abc".toList := by decide +kernel
  have hrest : charactersAt (fun p => nearestWhole (Decimal.ofInt64 2).toRat ≤ p ∧
      (p : Int) < nearestWhole (Decimal.ofInt64 2).toRat + nearestWhole greatest.toRat)
      "abc".toList = "bc".toList := by decide +kernel
  rw [hall, String.ofList_toList] at hfrom
  rw [hrest, String.ofList_toList] at hwithin
  exact ⟨hhalf, hgreatest, htwo, hroom, hfrom, hwithin⟩

end TreePath.Library
