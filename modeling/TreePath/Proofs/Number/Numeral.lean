/-
TreePath.Proofs.Number.Numeral — signs, numerals and their spellings.

A numeral is digits with at most one point among them (`Numeral`). Numbers are also written with
underscores between their digits, all of them behind the first one (`Numeral.Spells`);
`Numeral.spells_concat_iff` builds such a text from the left, one character at a time.
-/
import TreePath.Proofs.Text.Digits
import Mathlib.Data.Rat.Defs
import Mathlib.Algebra.Field.Rat

namespace TreePath

open TreePath.Text

/-! ## Signs -/

/-- What may stand in front of the digits of a number. -/
inductive Sign where
  | absent
  | plus
  | minus
deriving DecidableEq

namespace Sign

def text : Sign → List Char
  | absent => []
  | plus => ['+']
  | minus => ['-']

/-- The factor that the sign stands for. -/
def factor : Sign → Int
  | absent | plus => 1
  | minus => -1

end Sign

/-! ## Numerals -/

/-- Digits with at most one point among them. -/
@[ext]
structure Numeral where
  whole : List Char
  point : Bool
  places : List Char
  isDigit_of_mem_whole : ∀ c ∈ whole, isDigit c = true
  isDigit_of_mem_places : ∀ c ∈ places, isDigit c = true
  places_eq_nil : point = false → places = []

namespace Numeral

def digits (n : Numeral) : List Char := n.whole ++ n.places

def text (n : Numeral) : List Char := n.whole ++ if n.point then '.' :: n.places else []

/-- The digits as one number. -/
def coefficient (n : Numeral) : Nat := digitsValue n.digits

/-- The number that the numeral denotes. -/
def toRat (n : Numeral) : ℚ := n.coefficient / 10 ^ n.places.length

/-- The digits between the first and the last one that is not zero. -/
def significant (n : Numeral) : List Char :=
  trimTrailingZeros (n.digits.dropWhile (· == '0'))

theorem isDigit_of_mem_nil : ∀ c ∈ ([] : List Char), isDigit c = true := List.forall_mem_nil _

def empty : Numeral := ⟨[], false, [], isDigit_of_mem_nil, isDigit_of_mem_nil, fun _ => rfl⟩

/-- The numeral with a digit behind it. -/
def addDigit (n : Numeral) (c : Char) (hc : isDigit c = true) : Numeral where
  whole := if n.point then n.whole else n.whole ++ [c]
  point := n.point
  places := if n.point then n.places ++ [c] else n.places
  isDigit_of_mem_whole := by
    split
    · exact n.isDigit_of_mem_whole
    · simpa [or_imp, forall_and, hc] using n.isDigit_of_mem_whole
  isDigit_of_mem_places := by
    split
    · simpa [or_imp, forall_and, hc] using n.isDigit_of_mem_places
    · exact n.isDigit_of_mem_places
  places_eq_nil h := by simpa [h] using n.places_eq_nil h

/-- The numeral with a point behind it. -/
def addPoint (n : Numeral) : Numeral where
  whole := n.whole
  point := true
  places := n.places
  isDigit_of_mem_whole := n.isDigit_of_mem_whole
  isDigit_of_mem_places := n.isDigit_of_mem_places
  places_eq_nil := nofun

/-- The numeral with a point and digits behind its places. -/
def addPlaces (n : Numeral) (ds : List Char) (hds : ∀ c ∈ ds, isDigit c = true) : Numeral where
  whole := n.whole
  point := true
  places := n.places ++ ds
  isDigit_of_mem_whole := n.isDigit_of_mem_whole
  isDigit_of_mem_places := by
    simp only [List.mem_append]
    exact fun c hc => hc.elim (n.isDigit_of_mem_places c) (hds c)
  places_eq_nil := nofun

/-- The text is the numeral with underscores in it, all of them behind some digit. -/
def Spells (n : Numeral) (s : List Char) : Prop :=
  s.filter (· ≠ '_') = n.text ∧
    ∀ front back, s = front ++ '_' :: back → ∃ c ∈ front, isDigit c = true

end Numeral

/-! ## Texts of signs and numerals -/

/-- The text does not begin with a sign. -/
def NoSign (s : List Char) : Prop := ∀ c ∈ s.head?, c ≠ '-' ∧ c ≠ '+'

theorem noSign_of_digits {s : List Char} (h : ∀ c ∈ s, isDigit c = true) : NoSign s := by
  intro c hc
  have hdigit := h c (List.mem_of_mem_head? hc)
  exact ⟨by rintro rfl; exact absurd hdigit (by decide),
    by rintro rfl; exact absurd hdigit (by decide)⟩

/-- A sign is known from what stands behind it. -/
theorem Sign.eq_of_append_eq {sign sign' : Sign} {s t : List Char} (hs : NoSign s) (ht : NoSign t)
    (h : sign.text ++ s = sign'.text ++ t) : sign = sign' ∧ s = t := by
  have hne : ∀ {c s t}, NoSign t → c :: s = t → c ≠ '-' ∧ c ≠ '+' := by
    rintro c s t ht rfl
    exact ht c rfl
  cases sign <;> cases sign' <;> simp [Sign.text] at h ⊢
  case absent.absent | plus.plus | minus.minus => exact h
  case absent.plus | absent.minus => exact absurd (hne hs h.symm) (by simp)
  case plus.absent | minus.absent => exact absurd (hne ht h) (by simp)

namespace Numeral

variable {m n : Numeral} {t : List Char}

theorem isDigit_of_mem_digits {c : Char} (h : c ∈ n.digits) : isDigit c = true :=
  (List.mem_append.mp h).elim (n.isDigit_of_mem_whole c) (n.isDigit_of_mem_places c)

theorem isDigit_of_mem_significant : ∀ c ∈ n.significant, isDigit c = true := by
  intro c hc
  refine isDigit_of_mem_digits (n := n) ((List.dropWhile_suffix (· == '0')).subset ?_)
  rw [significant, trimTrailingZeros, List.mem_reverse] at hc
  exact List.mem_reverse.mp ((List.dropWhile_suffix (· == '0')).subset hc)

/-- Zeros at the ends of the digits are a power of ten. -/
theorem exists_coefficient_eq (n : Numeral) :
    ∃ j, n.coefficient = 10 ^ j * digitsValue n.significant := by
  have hzeros : n.digits.takeWhile (· == '0')
      = List.replicate (n.digits.takeWhile (· == '0')).length '0' :=
    List.eq_replicate_iff.mpr ⟨rfl, fun c hc => by simpa using List.mem_takeWhile_imp hc⟩
  have hfront : n.coefficient = digitsValue (n.digits.dropWhile (· == '0')) := by
    conv_lhs =>
      rw [coefficient, ← List.takeWhile_append_dropWhile (p := (· == '0')) (l := n.digits)]
    rw [digitsValue_append, hzeros, digitsValue_replicate_zero, Nat.mul_zero, Nat.zero_add]
  have hback := congrArg digitsValue (trimTrailingZeros_append (n.digits.dropWhile (· == '0')))
  rw [digitsValue_append, digitsValue_replicate_zero, Nat.add_zero, List.length_replicate] at hback
  exact ⟨_, hfront.trans hback.symm⟩

theorem mem_text_iff {c : Char} : c ∈ n.text ↔ c ∈ n.digits ∨ c = '.' ∧ n.point = true := by
  rw [text, digits]
  cases hp : n.point
  · simp [n.places_eq_nil hp]
  · simp only [if_true, List.mem_append, List.mem_cons]
    tauto

theorem whole_eq_takeWhile (n : Numeral) : n.text.takeWhile isDigit = n.whole := by
  refine takeWhile_digits n.isDigit_of_mem_whole ?_
  split
  · exact noDigit_cons (by decide)
  · exact noDigit_nil

theorem text_injective (h : m.text = n.text) : m = n := by
  have hwhole : m.whole = n.whole := by rw [← whole_eq_takeWhile, h, whole_eq_takeWhile]
  have hplaces := h
  rw [text, text, hwhole, List.append_cancel_left_eq] at hplaces
  cases hm : m.point <;> cases hn : n.point <;> simp [hm, hn] at hplaces
  · exact Numeral.ext hwhole (hm.trans hn.symm) (by rw [m.places_eq_nil hm, n.places_eq_nil hn])
  · exact Numeral.ext hwhole (hm.trans hn.symm) hplaces

/-- A text that goes on behind a point goes on with places. -/
theorem places_of_text_append (hp : n.point = true) (h : m.text = n.text ++ t) :
    m.whole = n.whole ∧ m.places = n.places ++ t := by
  have hn : n.text = n.whole ++ '.' :: n.places := by simp [text, hp]
  have hwhole : m.whole = n.whole := by
    rw [← whole_eq_takeWhile, h, hn, List.append_assoc]
    exact takeWhile_digits n.isDigit_of_mem_whole (noDigit_cons (by decide))
  refine ⟨hwhole, ?_⟩
  rw [text, hn, hwhole, List.append_assoc, List.append_cancel_left_eq] at h
  cases hm : m.point <;> simp [hm] at h
  exact h

end Numeral

/-! ## Spelling -/

namespace Numeral

variable {n : Numeral} {s t : List Char} {c : Char}

theorem text_empty : empty.text = [] := rfl

theorem text_addDigit (n : Numeral) (hc : isDigit c = true) :
    (n.addDigit c hc).text = n.text ++ [c] := by
  simp only [text, addDigit]
  split <;> simp

theorem text_addPoint (hp : n.point = false) : n.addPoint.text = n.text ++ ['.'] := by
  simp [text, addPoint, hp, n.places_eq_nil hp]

theorem text_addPlaces (hp : n.point = true) (ht : ∀ c ∈ t, isDigit c = true) :
    (n.addPlaces t ht).text = n.text ++ t := by
  simp [text, addPlaces, hp]

theorem eq_empty_of_text (h : n.text = []) : n = empty := by
  rw [text, List.append_eq_nil_iff] at h
  have hp : n.point = false := by
    cases hp : n.point
    · rfl
    · simp [hp] at h
  ext1
  · exact h.1
  · exact hp
  · exact n.places_eq_nil hp

/-- The last character of a numeral is a digit or the point. -/
theorem exists_of_text_concat (h : n.text = t ++ [c]) :
    (∃ (n₀ : Numeral) (hc : isDigit c = true), n₀.text = t ∧ n = n₀.addDigit c hc) ∨
      c = '.' ∧ ∃ n₀ : Numeral, n₀.text = t ∧ n₀.point = false ∧ n = n₀.addPoint := by
  obtain ⟨whole, point, places, hwhole, hplaces, hnil⟩ := n
  cases point with
  | false =>
    obtain rfl := hnil rfl
    obtain rfl : whole = t ++ [c] := by simpa [text] using h
    refine .inl ⟨⟨t, false, [], fun x hx => hwhole x (by simp [hx]), by simp, fun _ => rfl⟩,
      hwhole c (by simp), by simp [text], rfl⟩
  | true =>
    rcases List.eq_nil_or_concat' places with rfl | ⟨places, x, rfl⟩
    · obtain ⟨rfl, hc⟩ := List.append_inj' h rfl
      refine .inr ⟨(List.cons.inj hc).1.symm, ⟨whole, false, [], hwhole, by simp, fun _ => rfl⟩,
        by simp [text], rfl, rfl⟩
    · have h' : (whole ++ '.' :: places) ++ [x] = t ++ [c] := by simpa [text] using h
      obtain ⟨rfl, hc⟩ := List.append_inj' h' rfl
      cases hc
      exact .inl ⟨⟨whole, true, places, hwhole, fun y hy => hplaces y (by simp [hy]), nofun⟩,
        hplaces _ (by simp), by simp [text], rfl⟩

theorem underscore_not_mem_text : '_' ∉ n.text := by
  rw [mem_text_iff]
  rintro (h | ⟨h, -⟩)
  · exact absurd (isDigit_of_mem_digits h) (by decide)
  · exact absurd h (by decide)

theorem Spells.filter_eq (h : n.Spells s) : s.filter (· ≠ '_') = n.text := h.1

/-- A text without underscores is the numeral itself. -/
theorem Spells.eq_text (h : n.Spells s) (hs : '_' ∉ s) : s = n.text := by
  rw [← h.filter_eq, List.filter_eq_self.mpr]
  intro c hc
  simp only [ne_eq, decide_not, Bool.not_eq_true', decide_eq_false_iff_not]
  rintro rfl
  exact hs hc

theorem spells_text (n : Numeral) : n.Spells n.text := by
  refine ⟨List.filter_eq_self.mpr fun c hc => ?_, fun front back h => ?_⟩
  · simp only [ne_eq, decide_not, Bool.not_eq_true', decide_eq_false_iff_not]
    rintro rfl
    exact underscore_not_mem_text hc
  · exact absurd (h ▸ by simp) (underscore_not_mem_text (n := n))

/-- There is a digit in the text exactly if there is one in the numeral. -/
theorem Spells.exists_digit_iff (h : n.Spells s) :
    (∃ c ∈ s, isDigit c = true) ↔ n.digits ≠ [] := by
  constructor
  · rintro ⟨c, hc, hdigit⟩ hnil
    have hne : c ≠ '_' := by rintro rfl; exact absurd hdigit (by decide)
    have hmem : c ∈ n.text := h.filter_eq ▸ List.mem_filter.mpr ⟨hc, by simpa using hne⟩
    rcases mem_text_iff.mp hmem with hd | ⟨rfl, -⟩
    · rw [hnil] at hd
      cases hd
    · exact absurd hdigit (by decide)
  · intro hne
    obtain ⟨c, hc⟩ := List.exists_mem_of_ne_nil _ hne
    have hmem : c ∈ s.filter (· ≠ '_') := h.filter_eq ▸ mem_text_iff.mpr (.inl hc)
    exact ⟨c, (List.mem_filter.mp hmem).1, isDigit_of_mem_digits hc⟩

/-- A spelling is digits, points and underscores. -/
theorem Spells.isDigit_or (h : n.Spells s) (hc : c ∈ s) :
    isDigit c = true ∨ c = '.' ∨ c = '_' := by
  by_cases hu : c = '_'
  · exact .inr (.inr hu)
  · have hmem : c ∈ n.text := h.filter_eq ▸ List.mem_filter.mpr ⟨hc, by simpa using hu⟩
    rcases mem_text_iff.mp hmem with hd | ⟨hd, -⟩
    · exact .inl (isDigit_of_mem_digits hd)
    · exact .inr (.inl hd)

theorem Spells.noSign (h : n.Spells s) : NoSign s := by
  intro c hc
  rcases h.isDigit_or (List.mem_of_mem_head? hc) with hd | rfl | rfl
  · exact ⟨by rintro rfl; exact absurd hd (by decide), by rintro rfl; exact absurd hd (by decide)⟩
  · decide
  · decide

/-- A text is spelled one character at a time. -/
theorem spells_concat_iff : n.Spells (s ++ [c]) ↔
    (c = '_' ∧ n.Spells s ∧ n.digits ≠ []) ∨
      (∃ (n₀ : Numeral) (hc : isDigit c = true), n₀.Spells s ∧ n = n₀.addDigit c hc) ∨
        c = '.' ∧ ∃ n₀ : Numeral, n₀.Spells s ∧ n₀.point = false ∧ n = n₀.addPoint := by
  have hfront : (∀ front back, s ++ [c] = front ++ '_' :: back → ∃ x ∈ front, isDigit x = true) ↔
      (∀ front back, s = front ++ '_' :: back → ∃ x ∈ front, isDigit x = true) ∧
        (c = '_' → ∃ x ∈ s, isDigit x = true) := by
    constructor
    · exact fun h => ⟨fun front back hs => h front (back ++ [c]) (by simp [hs]),
        fun hc => h s [] (by rw [hc])⟩
    · rintro ⟨hinner, hlast⟩ front back hs
      rcases List.eq_nil_or_concat' back with rfl | ⟨back, x, rfl⟩
      · obtain ⟨rfl, hc⟩ := List.append_inj' hs rfl
        exact hlast (List.cons.inj hc).1
      · rw [← List.cons_append, ← List.append_assoc] at hs
        exact hinner front back (List.append_inj' hs rfl).1
  rw [Spells, hfront, List.filter_append]
  by_cases hc : c = '_'
  · subst hc
    have hlast : ['_'].filter (· ≠ '_') = [] := rfl
    rw [hlast, List.append_nil]
    constructor
    · rintro ⟨htext, hinner, hdigit⟩
      exact .inl ⟨rfl, ⟨htext, hinner⟩, (Spells.exists_digit_iff ⟨htext, hinner⟩).mp (hdigit rfl)⟩
    · rintro (⟨-, h, hne⟩ | ⟨_, hc, -⟩ | ⟨hc, -⟩)
      · exact ⟨h.1, h.2, fun _ => h.exists_digit_iff.mpr hne⟩
      · exact absurd hc (by decide)
      · exact absurd hc (by decide)
  · have hlast : [c].filter (· ≠ '_') = [c] := by simp [hc]
    rw [hlast]
    constructor
    · rintro ⟨htext, hinner, -⟩
      rcases exists_of_text_concat htext.symm with ⟨n₀, hdigit, h₀, rfl⟩ | ⟨rfl, n₀, h₀, hp, rfl⟩
      · exact .inr (.inl ⟨n₀, hdigit, ⟨h₀.symm, hinner⟩, rfl⟩)
      · exact .inr (.inr ⟨rfl, n₀, ⟨h₀.symm, hinner⟩, hp, rfl⟩)
    · rintro (⟨h, -⟩ | ⟨n₀, hdigit, h, rfl⟩ | ⟨rfl, n₀, h, hp, rfl⟩)
      · exact absurd h hc
      · exact ⟨by rw [h.1, text_addDigit], h.2, fun h => absurd h hc⟩
      · exact ⟨by rw [h.1, text_addPoint hp], h.2, fun h => absurd h hc⟩

end Numeral

end TreePath
