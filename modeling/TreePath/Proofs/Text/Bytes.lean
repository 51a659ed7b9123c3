/-
TreePath.Proofs.Text.Bytes — how many bytes texts take in UTF-8.

Bytes add up over the parts of a text, every character takes at least one, and what is taken by
bytes is the front of the text that has so many (`takeUtf8_eq_some_iff`).
-/
import TreePath.Proofs.Text.Digits

namespace TreePath.Text

theorem utf8Length_cons (c : Char) (s : List Char) :
    utf8Length (c :: s) = c.utf8Size + utf8Length s := rfl

theorem utf8Length_append (s t : List Char) :
    utf8Length (s ++ t) = utf8Length s + utf8Length t := by
  induction s with
  | nil => simp [utf8Length]
  | cons c s ih =>
    rw [List.cons_append, utf8Length_cons, utf8Length_cons, ih, Nat.add_assoc]

theorem length_le_utf8Length (s : List Char) : s.length ≤ utf8Length s := by
  induction s with
  | nil => exact Nat.le_refl 0
  | cons c s ih =>
    have hpos := c.utf8Size_pos
    simp only [utf8Length, List.foldr_cons, List.length_cons] at ih ⊢
    omega

theorem utf8Length_eq_zero_iff {s : List Char} : utf8Length s = 0 ↔ s = [] := by
  constructor
  · intro h
    have hlength := length_le_utf8Length s
    exact List.length_eq_zero_iff.mp (by omega)
  · rintro rfl
    rfl

/-- Where every character takes one byte, there are as many bytes as characters. -/
theorem utf8Length_of_single {s : List Char} (h : ∀ c ∈ s, c.utf8Size = 1) :
    utf8Length s = s.length := by
  induction s with
  | nil => rfl
  | cons c s ih =>
    have hc := h c (by simp)
    have hs := ih fun x hx => h x (by simp [hx])
    simp only [utf8Length, List.foldr_cons, List.length_cons] at hs ⊢
    omega

theorem utf8Length_of_graphic {s : List Char} (h : ∀ c ∈ s, IsGraphic c) :
    utf8Length s = s.length :=
  utf8Length_of_single fun c hc => utf8Size_of_isGraphic (h c hc)

theorem utf8Length_reverse (s : List Char) : utf8Length s.reverse = utf8Length s := by
  induction s with
  | nil => rfl
  | cons c s ih =>
    rw [List.reverse_cons, utf8Length_append, ih, ← List.singleton_append (l := s),
      utf8Length_append, Nat.add_comm]

/-- What is taken has the bytes asked for, and stands in front of the rest. -/
theorem eq_append_of_takeUtf8 {n : Nat} {s front back : List Char}
    (h : takeUtf8 n s = some (front, back)) : s = front ++ back ∧ utf8Length front = n := by
  induction s generalizing n front with
  | nil =>
    cases n with
    | zero => rw [takeUtf8] at h; cases h; exact ⟨rfl, rfl⟩
    | succ n => rw [takeUtf8] at h; cases h
  | cons c s ih =>
    cases n with
    | zero => rw [takeUtf8] at h; cases h; exact ⟨rfl, rfl⟩
    | succ n =>
      rw [takeUtf8] at h
      split at h
      · rename_i hsize
        obtain ⟨⟨front', back'⟩, htail, heq⟩ := Option.map_eq_some_iff.mp h
        cases heq
        obtain ⟨rfl, hlen⟩ := ih htail
        refine ⟨rfl, ?_⟩
        simp only [utf8Length, List.foldr_cons] at hlen ⊢
        omega
      · cases h

theorem takeUtf8_append {n : Nat} {front : List Char} (back : List Char)
    (h : utf8Length front = n) : takeUtf8 n (front ++ back) = some (front, back) := by
  induction front generalizing n with
  | nil => cases h; rw [List.nil_append, utf8Length, List.foldr_nil, takeUtf8]
  | cons c front ih =>
    have hpos := c.utf8Size_pos
    obtain ⟨k, rfl⟩ : ∃ k, n = k + 1 := ⟨n - 1, by
      simp only [utf8Length, List.foldr_cons] at h
      omega⟩
    have hfront : utf8Length front = k + 1 - c.utf8Size := by
      simp only [utf8Length, List.foldr_cons] at h ⊢
      omega
    have hsize : c.utf8Size ≤ k + 1 := by
      simp only [utf8Length, List.foldr_cons] at h
      omega
    rw [List.cons_append, takeUtf8, if_pos hsize, ih hfront]
    rfl

theorem takeUtf8_eq_some_iff {n : Nat} {s front back : List Char} :
    takeUtf8 n s = some (front, back) ↔ s = front ++ back ∧ utf8Length front = n := by
  constructor
  · exact eq_append_of_takeUtf8
  · rintro ⟨rfl, h⟩
    exact takeUtf8_append back h

end TreePath.Text
