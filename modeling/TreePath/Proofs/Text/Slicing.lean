/-
TreePath.Proofs.Text.Slicing — bytes of a text and parts between byte positions.

A text is indexed and cut by bytes of UTF-8 (`byteAt`, `slice`). An index beyond the text and a cut
inside a character are faults. A cut is safe where an ASCII byte stands: no character of several
bytes has one among them, so a character begins there and ends right behind it
(`exists_of_byteAt`).
-/
import TreePath.Proofs.Number.Words
import TreePath.Proofs.Text.Bytes

namespace TreePath.Text

variable {s front part back : List Char}

/-! ## Bytes -/

/-- The bytes of a text in UTF-8. -/
def bytes (s : List Char) : List UInt8 := s.flatMap String.utf8EncodeChar

theorem bytes_append (s t : List Char) : bytes (s ++ t) = bytes s ++ bytes t :=
  List.flatMap_append

theorem bytes_cons (c : Char) (s : List Char) :
    bytes (c :: s) = String.utf8EncodeChar c ++ bytes s := List.flatMap_cons

theorem length_bytes (s : List Char) : (bytes s).length = utf8Length s := by
  induction s with
  | nil => rfl
  | cons c s ih =>
    rw [bytes_cons, List.length_append, String.length_utf8EncodeChar, ih]
    rfl

/-- The byte at an index. -/
def byteAt (s : List Char) (i : Nat) : Except Fault UInt8 :=
  match (bytes s)[i]? with
  | some b => .ok b
  | none => .error .index

theorem byteAt_eq_ok_iff {i : Nat} {b : UInt8} : byteAt s i = .ok b ↔ (bytes s)[i]? = some b := by
  rw [byteAt]
  cases (bytes s)[i]? with
  | none => simp
  | some b' => simp

theorem exists_byteAt {i : Nat} (h : i < utf8Length s) : ∃ b, byteAt s i = .ok b := by
  rw [← length_bytes] at h
  exact ⟨_, byteAt_eq_ok_iff.mpr (List.getElem?_eq_getElem h)⟩

theorem not_ascii_ofNat {lead payload : Nat} (hsize : lead + payload < 256)
    (hpayload : 128 ≤ payload) : ¬ (UInt8.ofNat (lead + payload)).toNat < 128 := by
  rw [UInt8.toNat_ofNat_of_lt' hsize]
  omega

/-- A byte below 128 stands for a character by itself. -/
theorem utf8EncodeChar_of_ascii {c : Char} {b : UInt8} (hb : b ∈ String.utf8EncodeChar c)
    (hascii : b.toNat < 128) : String.utf8EncodeChar c = [b] ∧ c.toNat = b.toNat := by
  unfold String.utf8EncodeChar at hb ⊢
  by_cases hone : c.val.toNat ≤ 127
  · rw [if_pos hone] at hb ⊢
    cases List.mem_singleton.mp hb
    rw [UInt8.toNat_ofNat_of_lt' (Nat.lt_of_le_of_lt hone (by decide))]
    exact ⟨rfl, rfl⟩
  · -- the bytes of a longer character have 128 and more added to them
    exfalso
    rw [if_neg hone] at hb
    split at hb
    · simp only [List.mem_cons, List.not_mem_nil, or_false] at hb
      rcases hb with rfl | rfl
      all_goals exact not_ascii_ofNat (by omega) (by omega) hascii
    · split at hb
      · simp only [List.mem_cons, List.not_mem_nil, or_false] at hb
        rcases hb with rfl | rfl | rfl
        all_goals exact not_ascii_ofNat (by omega) (by omega) hascii
      · simp only [List.mem_cons, List.not_mem_nil, or_false] at hb
        rcases hb with rfl | rfl | rfl | rfl
        all_goals exact not_ascii_ofNat (by omega) (by omega) hascii

/-- **Where an ASCII byte stands, a character stands**, with all the characters in front of it in
the bytes in front of the index. -/
theorem exists_of_byteAt {i : Nat} {b : UInt8} (h : byteAt s i = .ok b) (hascii : b.toNat < 128) :
    ∃ front c back, s = front ++ c :: back ∧ utf8Length front = i ∧ c.toNat = b.toNat := by
  rw [byteAt_eq_ok_iff] at h
  induction s generalizing i with
  | nil => simp [bytes] at h
  | cons c s ih =>
    rw [bytes_cons] at h
    by_cases hi : i < (String.utf8EncodeChar c).length
    · rw [List.getElem?_append_left hi] at h
      obtain ⟨hsingle, hc⟩ := utf8EncodeChar_of_ascii (List.mem_of_getElem? h) hascii
      rw [hsingle, List.length_singleton] at hi
      exact ⟨[], c, s, rfl, by simp [utf8Length]; omega, hc⟩
    · rw [List.getElem?_append_right (Nat.le_of_not_lt hi)] at h
      obtain ⟨front, d, back, rfl, hfront, hd⟩ := ih h
      refine ⟨c :: front, d, back, rfl, ?_, hd⟩
      rw [String.length_utf8EncodeChar] at hi hfront
      rw [utf8Length_cons]
      omega

theorem byteAt_append {c : Char} (hc : c.utf8Size = 1) :
    byteAt (front ++ c :: back) (utf8Length front) = .ok c.toUInt8 := by
  rw [byteAt_eq_ok_iff, bytes_append, bytes_cons, String.utf8EncodeChar_eq_singleton hc,
    ← length_bytes, List.getElem?_append_right (Nat.le_refl _), Nat.sub_self]
  rfl

/-! ## Parts -/

/-- The part of a text between two byte positions. Both have to lie between characters. -/
def slice (s : List Char) (start stop : Nat) : Except Fault (List Char) :=
  match takeUtf8 start s with
  | none => .error .cut
  | some (_, rest) =>
    if start ≤ stop then
      match takeUtf8 (stop - start) rest with
      | some (part, _) => .ok part
      | none => .error .cut
    else .error .cut

/-- **A part is cut out where characters begin and end.** -/
theorem slice_eq_ok_iff {start stop : Nat} : slice s start stop = .ok part ↔
    ∃ front back, s = front ++ (part ++ back) ∧ utf8Length front = start ∧
      start + utf8Length part = stop := by
  rw [slice]
  constructor
  · intro h
    split at h
    · cases h
    · rename_i front rest hstart
      obtain ⟨rfl, hfront⟩ := takeUtf8_eq_some_iff.mp hstart
      split at h
      · split at h
        · rename_i hle _ _ back hstop
          cases h
          obtain ⟨rfl, hpart⟩ := takeUtf8_eq_some_iff.mp hstop
          exact ⟨front, back, rfl, hfront, by omega⟩
        · cases h
      · cases h
  · rintro ⟨front, back, rfl, rfl, rfl⟩
    rw [takeUtf8_append _ rfl]
    simp only [Nat.le_add_right, if_true, Nat.add_sub_cancel_left]
    rw [takeUtf8_append _ rfl]

example : slice ['é', 'a'] 1 3 = .error .cut := by cbv

end TreePath.Text
