/-
TreePath.Proofs.Regex.Matches — the successive matches of a pattern in a text.

Matches are successive if each one begins where the one before it has ended or behind that
(`Successive`). For a regular pattern they always are, and if such a pattern does not match the
empty text, none of its matches is empty (`findAll_regular`). Which patterns are regular can be told
from their trees (`isRegular`): all but those that look around, ask for word boundaries, refer back
to groups, or rule out ways of matching.
-/
import TreePath.Proofs.Regex.Exploring
import TreePath.Regex.Compile

namespace TreePath.Regex

/-! ## Successive matches -/

/-- Matches from left to right and without overlaps, from a position on. -/
def Successive (size : Nat) : (position : Nat) → List Match → Prop
  | _, [] => True
  | position, m :: rest =>
    position ≤ m.start ∧ m.start ≤ m.stop ∧ m.stop ≤ size ∧ Successive size m.stop rest

theorem Successive.mono {size position position' : Nat} {found : List Match}
    (h : Successive size position found) (hle : position' ≤ position) :
    Successive size position' found := by
  cases found with
  | nil => trivial
  | cons m rest => exact ⟨hle.trans h.1, h.2⟩

theorem Successive.le_stop {size position : Nat} {found : List Match}
    (h : Successive size position found) : ∀ m ∈ found, m.start ≤ m.stop ∧ m.stop ≤ size := by
  induction found generalizing position with
  | nil => exact fun m hm => absurd hm List.not_mem_nil
  | cons m rest ih => exact List.forall_mem_cons.mpr ⟨⟨h.2.1, h.2.2.1⟩, ih h.2.2.2⟩

/-- The text of a match in a text is empty only if the match is. -/
theorem Match.text_ne_nil {s : List Char} {m : Match} (hstop : m.stop ≤ s.length) :
    m.text s ≠ [] ↔ m.start < m.stop := by
  rw [← List.length_pos_iff, Match.text, List.length_take, List.length_drop]
  omega

/-- A match that a search can find, with the position it began from. -/
structure Finds (r : Regex) (text : Array Char) (position : Nat) (m : Match) : Prop where
  inside : position ≤ text.size
  found : ∃ origin found, origin.position = position ∧ r.search? text origin = some found ∧
    found.whole = m

variable {r : Regex} {text : Array Char}

theorem finds_of_mem_findFrom {n position : Nat} {last : Option Nat} {m : Match}
    (h : m ∈ r.findFrom text n position last) : ∃ q, r.Finds text q m := by
  induction n generalizing position last with
  | zero => cases h
  | succ n ih =>
    rw [findFrom] at h
    split at h
    · cases h
    · rename_i hposition
      split at h
      · cases h
      · rename_i found hfound
        have hfinds : r.Finds text position found.whole :=
          ⟨by omega, _, found, rfl, hfound, rfl⟩
        simp only at h
        split at h
        · split at h
          · exact ih h
          · rcases List.mem_cons.mp h with rfl | h
            · exact ⟨_, hfinds⟩
            · exact ih h
        · rcases List.mem_cons.mp h with rfl | h
          · exact ⟨_, hfinds⟩
          · exact ih h

/-- Searches that never find anything in front of where they begin give successive matches. -/
theorem successive_findFrom
    (h : ∀ {q m}, r.Finds text q m → q ≤ m.start ∧ m.start ≤ m.stop ∧ m.stop ≤ text.size)
    (n position : Nat) (last : Option Nat) :
    Successive text.size position (r.findFrom text n position last) := by
  induction n generalizing position last with
  | zero => trivial
  | succ n ih =>
    rw [findFrom]
    split
    · trivial
    · rename_i hposition
      split
      · trivial
      · rename_i found hfound
        obtain ⟨hstart, hle, hstop⟩ := h (q := position) (m := found.whole)
          ⟨by omega, _, found, rfl, hfound, rfl⟩
        simp only
        split
        · have hrest := ih (found.whole.stop + 1) (some found.whole.stop)
          split
          · exact hrest.mono (by omega)
          · exact ⟨hstart, hle, hstop, hrest.mono (Nat.le_succ _)⟩
        · exact ⟨hstart, hle, hstop, ih _ _⟩

/-! ## Regular patterns -/

/-- A regular pattern finds matches of its program. -/
theorem Finds.matchesAt {p : Regular.Program} {q : Nat} {m : Match}
    (h : (regular p 0).Finds text q m) :
    q ≤ m.start ∧ m.start ≤ text.size ∧ p.MatchesAt text m.start m.stop := by
  obtain ⟨hinside, origin, found, rfl, hsearch, rfl⟩ := h
  rw [search?] at hsearch
  obtain ⟨⟨start, t⟩, hfound, rfl⟩ := Option.map_eq_some_iff.mp hsearch
  obtain ⟨hle, hsize, hmatch, -⟩ := Regular.Program.search?_eq_some hinside hfound
  exact ⟨hle, hsize, hmatch⟩

theorem isMatch_regular_nil {p : Regular.Program} (h : (regular p 0).isMatch [] = false) :
    p.search? #[] 0 = none := by
  rw [isMatch, search?, Option.isSome_map, Option.isSome_eq_false_iff,
    Option.isNone_iff_eq_none] at h
  exact h

/-- **Matches of regular patterns.** They are successive, and none is empty unless the pattern
matches the empty text. -/
theorem findAll_regular (p : Regular.Program) (s : List Char) :
    Successive s.length 0 ((regular p 0).findAll s) ∧
      ((regular p 0).isMatch [] = false → ∀ m ∈ (regular p 0).findAll s, m.start < m.stop) := by
  constructor
  · have hsearch {q : Nat} {m : Match} (h : (regular p 0).Finds s.toArray q m) :
        q ≤ m.start ∧ m.start ≤ m.stop ∧ m.stop ≤ s.toArray.size :=
      have ⟨hle, hsize, hmatch⟩ := h.matchesAt
      ⟨hle, hmatch.start_le, hmatch.stop_le hsize⟩
    exact successive_findFrom hsearch _ 0 none
  · intro hempty m hm
    obtain ⟨q, hfinds⟩ := finds_of_mem_findFrom hm
    obtain ⟨-, -, hmatch⟩ := hfinds.matchesAt
    exact hmatch.start_lt (isMatch_regular_nil hempty)

/-- The pattern can be read under the flags, and its tree has only what regular patterns have. -/
def isRegular (pattern flags : String) : Bool :=
  match readFlags {} flags.toList with
  | .ok flags => (Pattern.read? flags pattern.toList).any fun (r, references) =>
      !r.isIrregular references
  | .error _ => false

theorem anyIrregular_eq_false {references : List Nat} {parts : List Pattern}
    (h : Pattern.anyIrregular references parts = false) :
    ∀ r ∈ parts, r.isIrregular references = false := by
  induction parts with
  | nil => exact fun r hr => absurd hr List.not_mem_nil
  | cons p rest ih =>
    rw [Pattern.anyIrregular, Bool.or_eq_false_iff] at h
    exact List.forall_mem_cons.mpr ⟨h.1, ih h.2⟩

/-- A regular pattern does not end with a look ahead. -/
theorem withMatchGroup?_of_regular {references : List Nat} {r : Pattern}
    (h : r.isIrregular references = false) : r.withMatchGroup? = none := by
  cases r with
  | seq parts =>
    rw [Pattern.withMatchGroup?]
    split
    · rename_i last hlast
      have := anyIrregular_eq_false h _ (List.mem_of_getLast? hlast)
      cases this
    · rfl
  | _ => rfl

theorem ofTree?_regular {flags : Flags} {tree : Pattern} {references : List Nat} {r : Regex}
    (h : ofTree? flags tree references = some r) (htree : tree.isIrregular references = false) :
    ∃ p, r = regular p 0 := by
  simp only [ofTree?, withMatchGroup?_of_regular htree, Option.getD_none, htree,
    Bool.false_eq_true, if_false, Option.isSome_none] at h
  obtain ⟨found, -, h⟩ := Option.bind_eq_some_iff.mp h
  obtain ⟨p, -, h⟩ := Option.bind_eq_some_iff.mp h
  cases h
  exact ⟨p, rfl⟩

/-- The program of a regular pattern is regular, and all that it matches is the match. -/
theorem compile_regular {pattern flags : String} {r : Regex} (h : compile pattern flags = .ok r)
    (hregular : isRegular pattern flags = true) : ∃ p, r = regular p 0 := by
  cases hflags : readFlags {} flags.toList with
  | error e => simp [isRegular, hflags] at hregular
  | ok letters =>
    simp only [isRegular, hflags, Option.any_eq_true] at hregular
    obtain ⟨⟨tree, references⟩, hread, htree⟩ := hregular
    simp only [compile, hflags, bind, Except.bind, ofPattern?, hread, Option.bind] at h
    split at h
    · cases h
      exact ofTree?_regular ‹_› (by simpa using htree)
    · cases h

end TreePath.Regex
