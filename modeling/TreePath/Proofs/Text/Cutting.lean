/-
TreePath.Proofs.Text.Cutting — where a separator cuts a text.

A text with a separator in it is cut at the first one or at the last one; both are known by the side
that is free of separators. Cut at all of them, it falls into the pieces that are free of separators
and give it back when they are joined (`splitAtChar_eq_iff`).
-/
import TreePath.Text.Scan
import Mathlib.Data.List.Basic

namespace TreePath.Text

variable {sep : Char} {s before after : List Char}

theorem cutFirst_eq_none_iff : cutFirst sep s = none ↔ sep ∉ s := by
  induction s with
  | nil => simp [cutFirst]
  | cons c s ih =>
    rw [cutFirst]
    split
    · rename_i hc
      simp [hc]
    · rename_i hc
      simp [ih, Ne.symm hc]

theorem cutFirst_eq_some_iff :
    cutFirst sep s = some (before, after) ↔ s = before ++ sep :: after ∧ sep ∉ before := by
  induction s generalizing before with
  | nil => simp [cutFirst]
  | cons c s ih =>
    rw [cutFirst]
    split
    · rename_i hc
      cases before with
      | nil => simp [hc]
      | cons b before => simp +contextual [hc]
    · rename_i hc
      cases before with
      | nil => simp [hc]
      | cons b before =>
        simp only [Option.map_eq_some_iff, Prod.mk.injEq, Prod.exists, List.cons.injEq,
          List.cons_append, List.mem_cons, not_or]
        constructor
        · rintro ⟨b', a', hcut, ⟨rfl, rfl⟩, rfl⟩
          obtain ⟨hs, hmem⟩ := ih.mp hcut
          exact ⟨⟨rfl, hs⟩, Ne.symm hc, hmem⟩
        · rintro ⟨⟨rfl, hs⟩, -, hmem⟩
          exact ⟨before, after, ih.mpr ⟨hs, hmem⟩, ⟨rfl, rfl⟩, rfl⟩

/-- What follows a text is left as it is if there is no separator in it. -/
theorem cutFirst_append {t : List Char} (ht : sep ∉ t) (s : List Char) :
    cutFirst sep (s ++ t) = (cutFirst sep s).map fun p => (p.1, p.2 ++ t) := by
  induction s with
  | nil => exact cutFirst_eq_none_iff.mpr ht
  | cons c s ih =>
    rw [List.cons_append, cutFirst, cutFirst]
    split
    · rfl
    · rw [ih, Option.map_map, Option.map_map]
      rfl

theorem cutLast_eq_none_iff : cutLast sep s = none ↔ sep ∉ s := by
  rw [cutLast, Option.map_eq_none_iff, cutFirst_eq_none_iff, List.mem_reverse]

theorem cutLast_eq_some_iff :
    cutLast sep s = some (before, after) ↔ s = before ++ sep :: after ∧ sep ∉ after := by
  simp only [cutLast, Option.map_eq_some_iff, Prod.exists, Prod.mk.injEq, cutFirst_eq_some_iff]
  constructor
  · rintro ⟨a, b, ⟨hs, hmem⟩, rfl, rfl⟩
    have hs := congrArg List.reverse hs
    simp only [List.reverse_reverse, List.reverse_append, List.reverse_cons, List.append_assoc,
      List.singleton_append] at hs
    exact ⟨hs, by simpa using hmem⟩
  · rintro ⟨rfl, hmem⟩
    exact ⟨after.reverse, before.reverse, ⟨by simp, by simpa using hmem⟩, by simp, by simp⟩

/-! ## Pieces -/

theorem splitAtChar_ne_nil (sep : Char) (s : List Char) : splitAtChar sep s ≠ [] := by
  cases s with
  | nil => simp [splitAtChar]
  | cons c s =>
    rw [splitAtChar]
    split
    · simp
    · split <;> simp

theorem splitAtChar_of_not_mem (h : sep ∉ s) : splitAtChar sep s = [s] := by
  induction s with
  | nil => rfl
  | cons c s ih =>
    have hc : c ≠ sep := fun heq => h (by simp [heq])
    rw [splitAtChar, if_neg hc, ih fun hs => h (List.mem_cons_of_mem c hs)]

theorem splitAtChar_append (h : sep ∉ before) (after : List Char) :
    splitAtChar sep (before ++ sep :: after) = before :: splitAtChar sep after := by
  induction before with
  | nil => rw [List.nil_append, splitAtChar, if_pos rfl]
  | cons c before ih =>
    have hc : c ≠ sep := fun heq => h (by simp [heq])
    rw [List.cons_append, splitAtChar, if_neg hc, ih fun hs => h (List.mem_cons_of_mem c hs)]

/-- Either there is no separator, or a first piece is followed by one. -/
theorem exists_first_piece (sep : Char) (s : List Char) :
    sep ∉ s ∨ ∃ before after, s = before ++ sep :: after ∧ sep ∉ before := by
  cases hcut : cutFirst sep s with
  | none => exact .inl (cutFirst_eq_none_iff.mp hcut)
  | some p => exact .inr ⟨p.1, p.2, cutFirst_eq_some_iff.mp hcut⟩

theorem join_cons_of_ne_nil {sep first : List Char} {pieces : List (List Char)}
    (h : pieces ≠ []) : join sep (first :: pieces) = first ++ sep ++ join sep pieces := by
  cases pieces with
  | nil => exact absurd rfl h
  | cons p rest => rw [join.eq_def]

/-- The pieces are free of separators, and joined they are the text. -/
theorem splitAtChar_spec (sep : Char) (s : List Char) :
    (∀ p ∈ splitAtChar sep s, sep ∉ p) ∧ join [sep] (splitAtChar sep s) = s := by
  induction hlen : s.length using Nat.strongRecOn generalizing s with
  | ind n ih =>
    rcases exists_first_piece sep s with hs | ⟨before, after, rfl, hbefore⟩
    · rw [splitAtChar_of_not_mem hs]
      exact ⟨by simpa using hs, rfl⟩
    · obtain ⟨hfree, hjoin⟩ := ih after.length (by simp at hlen; omega) after rfl
      rw [splitAtChar_append hbefore, join_cons_of_ne_nil (splitAtChar_ne_nil sep after), hjoin]
      exact ⟨by simpa using ⟨hbefore, hfree⟩, by simp⟩

theorem splitAtChar_join {pieces : List (List Char)} (hne : pieces ≠ [])
    (hfree : ∀ p ∈ pieces, sep ∉ p) : splitAtChar sep (join [sep] pieces) = pieces := by
  induction pieces with
  | nil => exact absurd rfl hne
  | cons p rest ih =>
    have hp : sep ∉ p := hfree p List.mem_cons_self
    cases rest with
    | nil => exact splitAtChar_of_not_mem hp
    | cons q rest =>
      rw [join_cons_of_ne_nil (List.cons_ne_nil q rest), List.append_assoc, List.singleton_append,
        splitAtChar_append hp, ih (List.cons_ne_nil q rest) fun r hr =>
          hfree r (List.mem_cons_of_mem p hr)]

/-- **The pieces of a text.** -/
theorem splitAtChar_eq_iff {pieces : List (List Char)} : splitAtChar sep s = pieces ↔
    pieces ≠ [] ∧ (∀ p ∈ pieces, sep ∉ p) ∧ s = join [sep] pieces := by
  constructor
  · rintro rfl
    obtain ⟨hfree, hjoin⟩ := splitAtChar_spec sep s
    exact ⟨splitAtChar_ne_nil sep s, hfree, hjoin.symm⟩
  · rintro ⟨hne, hfree, rfl⟩
    exact splitAtChar_join hne hfree

theorem mem_join {sep : List Char} {pieces : List (List Char)} {c : Char}
    (h : c ∈ join sep pieces) : c ∈ sep ∨ ∃ p ∈ pieces, c ∈ p := by
  induction pieces with
  | nil => exact absurd h List.not_mem_nil
  | cons p rest ih =>
    cases rest with
    | nil => exact .inr ⟨p, List.mem_cons_self, h⟩
    | cons q rest =>
      rw [join_cons_of_ne_nil (List.cons_ne_nil q rest), List.mem_append, List.mem_append] at h
      rcases h with (hp | hsep) | hrest
      · exact .inr ⟨p, List.mem_cons_self, hp⟩
      · exact .inl hsep
      · exact (ih hrest).imp_right fun ⟨r, hr, hc⟩ => ⟨r, List.mem_cons_of_mem p hr, hc⟩

theorem mem_join_of_mem {sep p : List Char} {pieces : List (List Char)} {c : Char}
    (hp : p ∈ pieces) (hc : c ∈ p) : c ∈ join sep pieces := by
  induction pieces with
  | nil => exact absurd hp List.not_mem_nil
  | cons q rest ih =>
    cases rest with
    | nil =>
      cases List.mem_singleton.mp hp
      exact hc
    | cons r rest =>
      rw [join_cons_of_ne_nil (List.cons_ne_nil r rest), List.mem_append, List.mem_append]
      rcases List.mem_cons.mp hp with rfl | hp
      · exact .inl (.inl hc)
      · exact .inr (ih hp)

/-! ## The front -/

theorem stripStart_eq_some_iff {start s u : List Char} :
    stripStart start s = some u ↔ s = start ++ u := by
  fun_induction stripStart start s with
  | case1 s => simp
  | case2 => simp
  | case3 a start s ih => simp [ih]
  | case4 a start b s hne => simp [Ne.symm hne]

end TreePath.Text
