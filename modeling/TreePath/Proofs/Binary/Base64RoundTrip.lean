/-
TreePath.Proofs.Binary.Base64RoundTrip — bytes are read back from their text.

The six bits of a character are read back (`decodeDigit_encodeDigit`), and no character of six bits
is padding, so the reader sees the end of the text where the writer put it. Bytes left over at the
end are the cases of two and of one byte.
-/
import TreePath.Binary.Base64
import TreePath.Proofs.Text.Digits

namespace TreePath.Base64

open TreePath.Text

/-! ## Six bits -/

theorem decodeDigit_encodeDigit : ∀ n < 64, decodeDigit (encodeDigit n) = some n := by decide

theorem encodeDigit_ne_padding : ∀ n < 64, encodeDigit n ≠ '=' := by decide

theorem isGraphic_encodeDigit : ∀ n < 64, IsGraphic (encodeDigit n) := by decide

/-! ## Groups of three bytes -/

theorem ofNat_toNat_eq {n : Nat} {b : UInt8} (h : n = b.toNat) : n.toUInt8 = b := by
  subst h
  exact UInt8.ofNat_toNat

/-- Four characters of six bits that are not the last ones with padding. -/
theorem decode_digits {w x y z : Nat} (rest : List Char) (hw : w < 64) (hx : x < 64)
    (hy : y < 64) (hz : z < 64) :
    decode (encodeDigit w :: encodeDigit x :: encodeDigit y :: encodeDigit z :: rest)
      = (decode rest).map fun tail =>
          ((w * 262144 + x * 4096 + y * 64 + z) / 65536).toUInt8 ::
            ((w * 262144 + x * 4096 + y * 64 + z) / 256 % 256).toUInt8 ::
            ((w * 262144 + x * 4096 + y * 64 + z) % 256).toUInt8 :: tail := by
  have hpadding := encodeDigit_ne_padding z hz
  rw [decode.eq_def]
  split
  · rename_i heq; simp at heq
  · rename_i heq
    simp only [List.cons.injEq] at heq
    exact absurd heq.2.2.2.1 hpadding
  · rename_i heq
    simp only [List.cons.injEq] at heq
    exact absurd heq.2.2.2.1 hpadding
  · rename_i heq
    simp only [List.cons.injEq] at heq
    obtain ⟨rfl, rfl, rfl, rfl, rfl⟩ := heq
    simp only [decodeDigit_encodeDigit _ hw, decodeDigit_encodeDigit _ hx,
      decodeDigit_encodeDigit _ hy, decodeDigit_encodeDigit _ hz, Option.bind_eq_bind,
      Option.bind_some]
    cases decode rest <;> rfl
  · rename_i hnot
    exact absurd rfl (hnot _ _ _ _ _)

theorem decode_two {w x y : Nat} (hw : w < 64) (hx : x < 64) (hy : y < 64) (hzero : y % 4 = 0) :
    decode [encodeDigit w, encodeDigit x, encodeDigit y, '=']
      = some [((w * 1024 + x * 16 + y / 4) / 256).toUInt8,
          ((w * 1024 + x * 16 + y / 4) % 256).toUInt8] := by
  have hpadding := encodeDigit_ne_padding y hy
  rw [decode.eq_def]
  split
  · rename_i heq; simp at heq
  · rename_i heq
    simp only [List.cons.injEq] at heq
    exact absurd heq.2.2.1 hpadding
  · rename_i heq
    simp only [List.cons.injEq, and_true] at heq
    obtain ⟨rfl, rfl, rfl⟩ := heq
    simp only [decodeDigit_encodeDigit _ hw, decodeDigit_encodeDigit _ hx,
      decodeDigit_encodeDigit _ hy, Option.bind_eq_bind, Option.bind_some, hzero, if_true]
  · rename_i hnot heq
    simp only [List.cons.injEq] at heq
    obtain ⟨rfl, rfl, rfl, rfl, rfl⟩ := heq
    exact (hnot rfl rfl).elim
  · rename_i hnot
    exact absurd rfl (hnot _ _ _ _ _)

theorem decode_one {w x : Nat} (hw : w < 64) (hx : x < 64) (hzero : x % 16 = 0) :
    decode [encodeDigit w, encodeDigit x, '=', '='] = some [(w * 4 + x / 16).toUInt8] := by
  rw [decode]
  simp only [decodeDigit_encodeDigit _ hw, decodeDigit_encodeDigit _ hx, Option.bind_eq_bind,
    Option.bind_some, hzero, if_true]

/-- **Bytes are read back from their text.** -/
theorem decode_encode : ∀ bytes : List UInt8, decode (encode bytes) = some bytes
  | [] => rfl
  | [a] => by
      have ha := a.toNat_lt
      rw [encode, decode_one (by omega) (by omega) (by omega)]
      congr 2
      exact ofNat_toNat_eq (by omega)
  | [a, b] => by
      have ha := a.toNat_lt
      have hb := b.toNat_lt
      simp only [encode]
      rw [decode_two (by omega) (by omega) (by omega) (by omega)]
      congr 2
      · exact ofNat_toNat_eq (by omega)
      · congr 1
        exact ofNat_toNat_eq (by omega)
  | a :: b :: c :: rest => by
      have ha := a.toNat_lt
      have hb := b.toNat_lt
      have hc := c.toNat_lt
      simp only [encode]
      rw [decode_digits _ (by omega) (by omega) (by omega) (by omega), decode_encode rest,
        Option.map_some]
      congr 2
      · exact ofNat_toNat_eq (by omega)
      · congr 1
        · exact ofNat_toNat_eq (by omega)
        · congr 1
          exact ofNat_toNat_eq (by omega)

theorem isGraphic_of_mem_encode : ∀ {bytes : List UInt8} {c : Char}, c ∈ encode bytes → IsGraphic c
  | [], c, h => absurd h List.not_mem_nil
  | [a], c, h => by
      have ha := a.toNat_lt
      simp only [encode, List.mem_cons, List.not_mem_nil, or_false] at h
      rcases h with rfl | rfl | rfl | rfl
      · exact isGraphic_encodeDigit _ (by omega)
      · exact isGraphic_encodeDigit _ (by omega)
      · decide
      · decide
  | [a, b], c, h => by
      have ha := a.toNat_lt
      have hb := b.toNat_lt
      simp only [encode, List.mem_cons, List.not_mem_nil, or_false] at h
      rcases h with rfl | rfl | rfl | rfl
      · exact isGraphic_encodeDigit _ (by omega)
      · exact isGraphic_encodeDigit _ (by omega)
      · exact isGraphic_encodeDigit _ (by omega)
      · decide
  | a :: b :: d :: rest, c, h => by
      have ha := a.toNat_lt
      have hb := b.toNat_lt
      have hd := d.toNat_lt
      simp only [encode, List.mem_cons] at h
      rcases h with rfl | rfl | rfl | rfl | h
      · exact isGraphic_encodeDigit _ (by omega)
      · exact isGraphic_encodeDigit _ (by omega)
      · exact isGraphic_encodeDigit _ (by omega)
      · exact isGraphic_encodeDigit _ (by omega)
      · exact isGraphic_of_mem_encode h

end TreePath.Base64
