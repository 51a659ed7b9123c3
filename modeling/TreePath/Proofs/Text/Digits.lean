/-
TreePath.Proofs.Text.Digits — numbers are read back from the digits they are written in.

Every canonical text is put together from digits and a few ASCII marks. This module holds what the
round trips of all the datatypes need of it:

* digits denote the number they were written for, with or without zeros in front
  (`digitsValue_natDigits`, `digitsValue_padZeros`);
* a run of digits ends where something else begins (`takeWhile_digits`, `dropWhile_digits`), so a
  field can be cut off again when the text behind it starts with a mark (`NoDigit`);
* printing ASCII characters are not white space, so a canonical text is not trimmed
  (`trim_of_graphic`), and what has been trimmed once is not trimmed again (`trim_trim`).
-/
import TreePath.Text.Scan
import Mathlib.Algebra.Group.Nat.Defs
import Mathlib.Data.List.Basic
import Mathlib.Data.List.TakeWhile

namespace TreePath.Text

open TreePath.Text.Unicode (isWhiteSpace)

/-! ## Single digits -/

theorem isDigit_iff (c : Char) : isDigit c = true ↔ 48 ≤ c.toNat ∧ c.toNat ≤ 57 := by
  simp only [isDigit, Bool.and_eq_true, decide_eq_true_eq]
  exact Iff.rfl

/-! ## Texts of digits -/

theorem isDigit_of_mem_natDigits {c : Char} {n : Nat} (h : c ∈ natDigits n) :
    isDigit c = true := by
  have hc : c.isDigit = true := Nat.isDigit_of_mem_toDigits (by decide) (by decide) h
  rw [isDigit_iff]
  simpa [Char.isDigit, UInt32.le_iff_toNat_le] using hc

theorem natDigits_ne_nil (n : Nat) : natDigits n ≠ [] := Nat.toDigits_ne_nil

theorem length_natDigits_le {n k : Nat} (hk : 0 < k) :
    (natDigits n).length ≤ k ↔ n < 10 ^ k :=
  Nat.length_toDigits_le_iff (by decide) hk

theorem digitsValue_eq_ofDigitChars (ds : List Char) :
    digitsValue ds = Nat.ofDigitChars 10 ds 0 := rfl

theorem digitsValue_natDigits (n : Nat) : digitsValue (natDigits n) = n :=
  Nat.ofDigitChars_ten_toDigits

/-- Digits in front count by the power of ten of what follows. -/
theorem digitsValue_append (s t : List Char) :
    digitsValue (s ++ t) = 10 ^ t.length * digitsValue s + digitsValue t := by
  simp only [digitsValue_eq_ofDigitChars, Nat.ofDigitChars_append]
  rw [Nat.ofDigitChars_eq_ofDigitChars_zero (l := t)]

theorem digitsValue_lt {ds : List Char} (h : ∀ c ∈ ds, isDigit c = true) :
    digitsValue ds < 10 ^ ds.length := by
  induction ds with
  | nil => simp [digitsValue]
  | cons c ds ih =>
    have hrange := (isDigit_iff c).mp (h c (by simp))
    have hzero : ('0' : Char).toNat = 48 := rfl
    have hc : digitsValue [c] ≤ 9 := by
      simp only [digitsValue, List.foldl_cons, List.foldl_nil, digitValue]
      omega
    have hds := ih fun x hx => h x (by simp [hx])
    rw [← List.singleton_append, digitsValue_append, List.singleton_append, List.length_cons,
      pow_succ]
    have hmul : 10 ^ ds.length * digitsValue [c] ≤ 10 ^ ds.length * 9 :=
      Nat.mul_le_mul_left _ hc
    omega

theorem digitsValue_replicate_zero (k : Nat) : digitsValue (List.replicate k '0') = 0 := by
  simp [digitsValue_eq_ofDigitChars]

/-! ## Zeros in front and behind -/

theorem digitsValue_padZeros (w : Nat) (ds : List Char) :
    digitsValue (padZeros w ds) = digitsValue ds := by
  rw [padZeros, digitsValue_append, digitsValue_replicate_zero]
  simp

theorem isDigit_of_mem_padZeros {w n : Nat} {c : Char} (h : c ∈ padZeros w (natDigits n)) :
    isDigit c = true := by
  rcases List.mem_append.mp h with hz | hd
  · rw [List.eq_of_mem_replicate hz]; rfl
  · exact isDigit_of_mem_natDigits hd

theorem length_padZeros {w n : Nat} (hw : 0 < w) (h : n < 10 ^ w) :
    (padZeros w (natDigits n)).length = w := by
  have := (length_natDigits_le hw).mpr h
  simp only [padZeros, List.length_append, List.length_replicate]
  omega

theorem padZeros_ne_nil (w n : Nat) : padZeros w (natDigits n) ≠ [] := by
  simp [padZeros, natDigits_ne_nil]

/-- The fields of a clock and of a calendar have two digits. -/
theorem padZeros_two {n : Nat} (h : n < 100) :
    ∃ a b, padZeros 2 (natDigits n) = [a, b] ∧ isDigit a = true ∧ isDigit b = true := by
  obtain ⟨a, b, hab⟩ := List.length_eq_two.mp (length_padZeros (w := 2) (by decide) h)
  have hd : ∀ c ∈ [a, b], isDigit c = true := by
    rw [← hab]
    exact fun _ => isDigit_of_mem_padZeros
  exact ⟨a, b, hab, hd a (by simp), hd b (by simp)⟩

theorem natDigits_eq_cons (n : Nat) : ∃ c ds, natDigits n = c :: ds ∧ isDigit c = true := by
  cases h : natDigits n with
  | nil => exact absurd h (natDigits_ne_nil n)
  | cons c ds => exact ⟨c, ds, rfl, isDigit_of_mem_natDigits (by rw [h]; simp)⟩

/-- Zeros taken off the end are the zeros that filling up puts back. -/
theorem trimTrailingZeros_append (ds : List Char) :
    trimTrailingZeros ds ++ List.replicate (ds.length - (trimTrailingZeros ds).length) '0'
      = ds := by
  have hz : ∀ c ∈ ds.reverse.takeWhile (· == '0'), c = '0' := by
    intro c hc
    simpa using List.mem_takeWhile_imp hc
  have hsplit := List.takeWhile_append_dropWhile (p := (· == '0')) (l := ds.reverse)
  have hlen := congrArg List.length hsplit
  simp only [List.length_append, List.length_reverse] at hlen
  have hrep : (ds.reverse.takeWhile (· == '0')).reverse
      = List.replicate (ds.length - (trimTrailingZeros ds).length) '0' := by
    refine List.eq_replicate_iff.mpr ⟨?_, fun c hc => hz c (List.mem_reverse.mp hc)⟩
    simp only [trimTrailingZeros, List.length_reverse]
    omega
  rw [← hrep, trimTrailingZeros, ← List.reverse_append, hsplit, List.reverse_reverse]

/-! ## Where digits end -/

/-- The text does not go on with a digit. -/
def NoDigit (rest : List Char) : Prop := ∀ c ∈ rest.head?, isDigit c = false

theorem noDigit_nil : NoDigit [] := by simp [NoDigit]

theorem noDigit_cons {c : Char} {rest : List Char} (h : isDigit c = false) :
    NoDigit (c :: rest) := by
  simpa [NoDigit] using h

theorem takeWhile_digits {ds rest : List Char} (hd : ∀ c ∈ ds, isDigit c = true)
    (hr : NoDigit rest) : (ds ++ rest).takeWhile isDigit = ds := by
  rw [List.takeWhile_append_of_pos hd]
  cases rest with
  | nil => simp
  | cons c r => simp [hr c (by simp)]

theorem dropWhile_digits {ds rest : List Char} (hd : ∀ c ∈ ds, isDigit c = true)
    (hr : NoDigit rest) : (ds ++ rest).dropWhile isDigit = rest := by
  rw [List.dropWhile_append_of_pos hd]
  cases rest with
  | nil => simp
  | cons c r => simp [hr c (by simp)]

/-! ## Whole numbers -/

theorem readNat_of_digits {ds : List Char} (hne : ds ≠ []) (hd : ∀ c ∈ ds, isDigit c = true) :
    readNat ds = some (digitsValue ds) := by
  have hall : ds.all isDigit = true := List.all_eq_true.mpr hd
  have hnonempty : ds.isEmpty = false := by simp [hne]
  simp [readNat, hall, hnonempty]

/-- Digits without a sign in front are read as they stand: a digit is no sign. -/
theorem readInt_of_digits {ds : List Char} (hne : ds ≠ []) (hd : ∀ c ∈ ds, isDigit c = true) :
    readInt ds = some (digitsValue ds : Int) := by
  have hread := readNat_of_digits hne hd
  rw [readInt.eq_def]
  split
  · exact absurd (hd '-' (by simp)) (by decide)
  · exact absurd (hd '+' (by simp)) (by decide)
  · rw [hread]; rfl

theorem readNat_natDigits (n : Nat) : readNat (natDigits n) = some n := by
  rw [readNat_of_digits (natDigits_ne_nil n) fun _ => isDigit_of_mem_natDigits,
    digitsValue_natDigits]

theorem readInt_natDigits (n : Nat) : readInt (natDigits n) = some (n : Int) := by
  rw [readInt_of_digits (natDigits_ne_nil n) fun _ => isDigit_of_mem_natDigits,
    digitsValue_natDigits]

theorem readInt_padZeros (w n : Nat) : readInt (padZeros w (natDigits n)) = some (n : Int) := by
  rw [readInt_of_digits (padZeros_ne_nil w n) fun _ => isDigit_of_mem_padZeros,
    digitsValue_padZeros, digitsValue_natDigits]

theorem readInt_intDigits (i : Int) : readInt (intDigits i) = some i := by
  rw [intDigits]
  split
  · have hneg : -(i.natAbs : Int) = i := by omega
    rw [readInt, readNat_natDigits]
    exact congrArg some hneg
  · rw [readInt_natDigits]
    congr 1
    omega

/-! ## White space -/

/-- A printing ASCII character. -/
def IsGraphic (c : Char) : Prop := 33 ≤ c.toNat ∧ c.toNat ≤ 126

instance (c : Char) : Decidable (IsGraphic c) := inferInstanceAs (Decidable (_ ∧ _))

/-- All characters of a given text are seen to be graphic by looking at them. -/
theorem isGraphic_of_all {s : List Char} (hs : (s.all fun c => decide (IsGraphic c)) = true)
    {c : Char} (h : c ∈ s) : IsGraphic c :=
  of_decide_eq_true (List.all_eq_true.mp hs c h)

theorem anyContains_whiteSpace_graphic :
    ∀ n < 127, 33 ≤ n → Unicode.Run.anyContains Unicode.Table.whiteSpace n = false := by
  decide

theorem IsGraphic.not_white {c : Char} (h : IsGraphic c) : isWhiteSpace c = false :=
  anyContains_whiteSpace_graphic c.toNat (by have := h.2; omega) h.1

theorem utf8Size_of_isGraphic {c : Char} (h : IsGraphic c) : c.utf8Size = 1 := by
  have := h.2
  rw [Char.utf8Size, if_pos (UInt32.le_iff_toNat_le.mpr (Nat.le_trans h.2 (by decide)))]

theorem isGraphic_of_isDigit {c : Char} (h : isDigit c = true) : IsGraphic c := by
  have := (isDigit_iff c).mp h
  exact ⟨by omega, by omega⟩

theorem isGraphic_of_mem_intDigits {i : Int} {c : Char} (h : c ∈ intDigits i) : IsGraphic c := by
  rw [intDigits] at h
  split at h
  · rcases List.mem_cons.mp h with rfl | h
    · decide
    · exact isGraphic_of_isDigit (isDigit_of_mem_natDigits h)
  · exact isGraphic_of_isDigit (isDigit_of_mem_natDigits h)

theorem not_white_of_isDigit {c : Char} (h : isDigit c = true) : isWhiteSpace c = false :=
  (isGraphic_of_isDigit h).not_white

/-- White space at neither end. -/
theorem trim_of_ends {s : List Char} (hh : ∀ c ∈ s.head?, isWhiteSpace c = false)
    (hl : ∀ c ∈ s.getLast?, isWhiteSpace c = false) : trim s = s := by
  have hstart : trimStart s = s := by
    cases s with
    | nil => rfl
    | cons c r => simp [trimStart, hh c (by simp)]
  rw [trim, hstart, trimEnd]
  rw [← List.head?_reverse] at hl
  cases hr : s.reverse with
  | nil => simpa using hr.symm
  | cons c r =>
    rw [hr] at hl
    rw [List.dropWhile_cons_of_neg (by simp [hl c (by simp)]), ← hr, List.reverse_reverse]

theorem trim_of_graphic {s : List Char} (h : ∀ c ∈ s, IsGraphic c) : trim s = s :=
  trim_of_ends (fun c hc => (h c (List.mem_of_mem_head? hc)).not_white)
    (fun c hc => (h c (List.mem_of_mem_getLast? hc)).not_white)

theorem not_white_of_mem_head?_dropWhile {s : List Char} :
    ∀ c ∈ (s.dropWhile isWhiteSpace).head?, isWhiteSpace c = false := by
  intro c hc
  have hnot := List.head?_dropWhile_not isWhiteSpace s
  rw [Option.mem_def.mp hc] at hnot
  exact hnot

/-- Trimming leaves no white space at the beginning. -/
theorem not_white_of_mem_head?_trim {s : List Char} :
    ∀ c ∈ (trim s).head?, isWhiteSpace c = false := by
  intro c hc
  have hprefix : trim s <+: trimStart s := by
    rw [trim, trimEnd, ← List.reverse_suffix, List.reverse_reverse]
    exact List.dropWhile_suffix _
  obtain ⟨rest, hrest⟩ := hprefix
  refine not_white_of_mem_head?_dropWhile (s := s) c ?_
  rw [← trimStart, ← hrest, List.head?_append_of_ne_nil _ (by rintro h; simp [h] at hc)]
  exact hc

/-- Trimming leaves no white space at the end. -/
theorem not_white_of_mem_getLast?_trim {s : List Char} :
    ∀ c ∈ (trim s).getLast?, isWhiteSpace c = false := by
  intro c hc
  rw [trim, trimEnd, List.getLast?_reverse] at hc
  exact not_white_of_mem_head?_dropWhile c hc

theorem trim_trim (s : List Char) : trim (trim s) = trim s :=
  trim_of_ends not_white_of_mem_head?_trim not_white_of_mem_getLast?_trim

end TreePath.Text
