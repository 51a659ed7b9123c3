/-
TreePath.Text.CharSet — sets of characters as ranges of code points.

A set is a list of ranges in ascending order. The operations leave gaps between them, so that every
set has one form and the number of its ranges says how complex it is. Union joins the ranges of two
sets, and the complement is made of the gaps; the other operations follow from these two.
-/
import TreePath.Text.Unicode.Run

namespace TreePath.Text

open TreePath.Text.Unicode (Run Shift)

/-- The code points from `first` to `last`. -/
structure CharRange where
  first : Nat
  last : Nat
deriving DecidableEq, Repr

/-- The code point lies in the range. -/
def CharRange.contains (r : CharRange) (n : Nat) : Bool := r.first ≤ n && n ≤ r.last

/-- The ranges begin one after another. -/
def Ascending (ranges : List CharRange) : Prop := ranges.Pairwise fun r q => r.first ≤ q.first

/-- A set of characters. -/
structure CharSet where
  ranges : List CharRange
  ascending : Ascending ranges
deriving DecidableEq, Repr

namespace CharSet

/-- The greatest code point. -/
def maxCode : Nat := 0x10FFFF

/-- The characters of one range. -/
def ofRange (r : CharRange) : CharSet := ⟨[r], List.pairwise_singleton _ r⟩

def empty : CharSet := ⟨[], List.Pairwise.nil⟩

/-- The characters from `a` to `b`. -/
def range (a b : Char) : CharSet := ofRange ⟨a.toNat, b.toNat⟩

def singleton (c : Char) : CharSet := range c c

/-- Every character. -/
def all : CharSet := ofRange ⟨0, maxCode⟩

def contains (s : CharSet) (c : Char) : Bool := s.ranges.any (·.contains c.toNat)

/-- The only character of the set, if it has only one. -/
def single? (s : CharSet) : Option Char :=
  match s.ranges with
  | [r] => if r.first = r.last then some (Char.ofNat r.first) else none
  | _ => none

/-! ## Union and complement -/

/-- Ranges of both lists by their first code points. -/
def merge : List CharRange → List CharRange → List CharRange
  | [], s => s
  | r :: rest, s =>
    s.takeWhile (·.first < r.first) ++ r :: merge rest (s.dropWhile (·.first < r.first))

/-- Joins ranges that overlap or touch; `current` is in front of all others. -/
def joinFrom (current : CharRange) : List CharRange → List CharRange
  | [] => [current]
  | r :: rest =>
    if r.first ≤ current.last + 1 then
      joinFrom ⟨current.first, max current.last r.last⟩ rest
    else current :: joinFrom r rest

/-- Joins ranges in ascending order. -/
def join : List CharRange → List CharRange
  | [] => []
  | r :: rest => joinFrom r rest

/-- The gaps between ranges, from the code point `next` on. -/
def gapsFrom (next : Nat) : List CharRange → List CharRange
  | [] => if next ≤ maxCode then [⟨next, maxCode⟩] else []
  | r :: rest =>
    let behind := gapsFrom (max next (r.last + 1)) rest
    if next < r.first then ⟨next, r.first - 1⟩ :: behind else behind

theorem mem_merge {r : CharRange} {s t : List CharRange} : r ∈ merge s t ↔ r ∈ s ∨ r ∈ t := by
  induction s generalizing t with
  | nil => simp [merge]
  | cons q rest ih =>
    have ht : r ∈ t ↔
        r ∈ t.takeWhile (·.first < q.first) ∨ r ∈ t.dropWhile (·.first < q.first) := by
      rw [← List.mem_append, List.takeWhile_append_dropWhile]
    rw [merge, List.mem_append, List.mem_cons, List.mem_cons, ih, ht]
    grind

theorem first_le_of_mem_dropWhile {n : Nat} {s : List CharRange} (hs : Ascending s) {r : CharRange}
    (hr : r ∈ s.dropWhile (·.first < n)) : n ≤ r.first := by
  induction s with
  | nil => cases hr
  | cons q rest ih =>
    obtain ⟨hq, hrest⟩ := List.pairwise_cons.mp hs
    by_cases h : q.first < n
    · rw [List.dropWhile_cons_of_pos (by simpa using h)] at hr
      exact ih hrest hr
    · rw [List.dropWhile_cons_of_neg (by simpa using h)] at hr
      obtain rfl | hr := List.mem_cons.mp hr
      · exact Nat.le_of_not_lt h
      · exact Nat.le_trans (Nat.le_of_not_lt h) (hq r hr)

theorem ascending_merge {s t : List CharRange} (hs : Ascending s) (ht : Ascending t) :
    Ascending (merge s t) := by
  induction s generalizing t with
  | nil => exact ht
  | cons r rest ih =>
    obtain ⟨hr, hrest⟩ := List.pairwise_cons.mp hs
    have hdrop := ih hrest (ht.sublist (List.dropWhile_sublist (·.first < r.first)))
    have hle : ∀ q ∈ merge rest (t.dropWhile (·.first < r.first)), r.first ≤ q.first := by
      intro q hq
      obtain hq | hq := mem_merge.mp hq
      · exact hr q hq
      · exact first_le_of_mem_dropWhile ht hq
    refine List.pairwise_append.mpr ⟨ht.sublist (List.takeWhile_sublist _),
      List.pairwise_cons.mpr ⟨hle, hdrop⟩, fun q hq q' hq' => ?_⟩
    have hlt : q.first < r.first := by simpa using List.all_eq_true.mp List.all_takeWhile q hq
    obtain rfl | hq' := List.mem_cons.mp hq'
    · exact Nat.le_of_lt hlt
    · exact Nat.le_trans (Nat.le_of_lt hlt) (hle q' hq')

theorem ascending_joinFrom {current : CharRange} {rest : List CharRange}
    (h : Ascending (current :: rest)) :
    Ascending (joinFrom current rest) ∧ ∀ q ∈ joinFrom current rest, current.first ≤ q.first := by
  induction rest generalizing current with
  | nil => exact ⟨h, by simp [joinFrom]⟩
  | cons r rest ih =>
    obtain ⟨hcurrent, hrest⟩ := List.pairwise_cons.mp h
    rw [joinFrom]
    split
    · exact ih (List.pairwise_cons.mpr
        ⟨fun q hq => hcurrent q (List.mem_cons_of_mem r hq), (List.pairwise_cons.mp hrest).2⟩)
    · obtain ⟨hascending, hle⟩ := ih hrest
      have hr := hcurrent r List.mem_cons_self
      refine ⟨List.pairwise_cons.mpr ⟨fun q hq => Nat.le_trans hr (hle q hq), hascending⟩, ?_⟩
      intro q hq
      obtain rfl | hq := List.mem_cons.mp hq
      · exact Nat.le_refl _
      · exact Nat.le_trans hr (hle q hq)

theorem ascending_join {ranges : List CharRange} (h : Ascending ranges) :
    Ascending (join ranges) := by
  cases ranges with
  | nil => exact List.Pairwise.nil
  | cons r rest => exact (ascending_joinFrom h).1

theorem ascending_gapsFrom (next : Nat) (ranges : List CharRange) :
    Ascending (gapsFrom next ranges) ∧ ∀ q ∈ gapsFrom next ranges, next ≤ q.first := by
  induction ranges generalizing next with
  | nil =>
    rw [gapsFrom]
    split
    · exact ⟨List.pairwise_singleton _ _, by simp⟩
    · exact ⟨List.Pairwise.nil, by simp⟩
  | cons r rest ih =>
    obtain ⟨hascending, hle⟩ := ih (max next (r.last + 1))
    have hle' : ∀ q ∈ gapsFrom (max next (r.last + 1)) rest, next ≤ q.first :=
      fun q hq => Nat.le_trans (Nat.le_max_left _ _) (hle q hq)
    rw [gapsFrom]
    split
    · refine ⟨List.pairwise_cons.mpr ⟨hle', hascending⟩, fun q hq => ?_⟩
      obtain rfl | hq := List.mem_cons.mp hq
      · exact Nat.le_refl _
      · exact hle' q hq
    · exact ⟨hascending, hle'⟩

/-- The set of the ranges, which may overlap. -/
def ofAscending (ranges : List CharRange) (h : Ascending ranges) : CharSet :=
  ⟨join ranges, ascending_join h⟩

def union (s t : CharSet) : CharSet :=
  ofAscending (merge s.ranges t.ranges) (ascending_merge s.ascending t.ascending)

/-- The characters outside the set. -/
def complement (s : CharSet) : CharSet :=
  ⟨gapsFrom 0 s.ranges, (ascending_gapsFrom 0 s.ranges).1⟩

/-! ## Other operations -/

def inter (s t : CharSet) : CharSet := (s.complement.union t.complement).complement

def difference (s t : CharSet) : CharSet := s.inter t.complement

/-- The characters of exactly one of the sets. -/
def symmetricDifference (s t : CharSet) : CharSet := (s.union t).difference (s.inter t)

/-- The set, or its complement. -/
def negateIf (negated : Bool) (s : CharSet) : CharSet := if negated then s.complement else s

/-! ## Tables -/

/-- The ranges of a run. -/
def runRanges (r : Run) : List CharRange :=
  if r.step = 1 then [⟨r.first, r.last⟩]
  else (List.range ((r.last - r.first) / r.step + 1)).map fun i =>
    ⟨r.first + i * r.step, r.first + i * r.step⟩

/-- Where one range ends the next one begins. -/
theorem pairwise_runRanges (r : Run) : (runRanges r).Pairwise fun q q' => q.last ≤ q'.first := by
  rw [runRanges]
  split
  · exact List.pairwise_singleton _ _
  · refine List.pairwise_map.mpr (List.pairwise_lt_range.imp fun h => ?_)
    exact Nat.add_le_add_left (Nat.mul_le_mul_right _ (Nat.le_of_lt h)) _

theorem ascending_runRanges (r : Run) : Ascending (runRanges r) := by
  rw [runRanges]
  split
  · exact List.pairwise_singleton _ _
  · refine List.pairwise_map.mpr (List.pairwise_lt_range.imp fun h => ?_)
    exact Nat.add_le_add_left (Nat.mul_le_mul_right _ (Nat.le_of_lt h)) _

/-- The ranges of a table in ascending order. -/
def tableRanges (table : List Run) : List CharRange :=
  table.foldr (fun r behind => merge (runRanges r) behind) []

theorem ascending_tableRanges (table : List Run) : Ascending (tableRanges table) := by
  induction table with
  | nil => exact List.Pairwise.nil
  | cons r rest ih => exact ascending_merge (ascending_runRanges r) ih

/-- The characters of a table. -/
def ofTable (table : List Run) : CharSet :=
  ofAscending (tableRanges table) (ascending_tableRanges table)

/-! ## Case -/

/-- A code point moved by a distance. -/
def moved (distance : Int) (n : Nat) : Nat := ((n : Int) + distance).toNat

/-- What two ranges have in common, moved by a distance. -/
def movedOverlap (distance : Int) (r q : CharRange) : Option CharRange :=
  let first := max r.first q.first
  let last := min r.last q.last
  if first ≤ last then some ⟨moved distance first, moved distance last⟩ else none

/-- The ranges of `s` inside a run, moved by a distance. -/
def movedRanges (run : Run) (distance : Int) (s : CharSet) : List CharRange :=
  (runRanges run).flatMap fun r => s.ranges.filterMap (movedOverlap distance r)

theorem moved_le_moved {distance : Int} {m n : Nat} (h : m ≤ n) :
    moved distance m ≤ moved distance n := by
  simp only [moved]
  omega

theorem ascending_movedRanges (run : Run) (distance : Int) (s : CharSet) :
    Ascending (movedRanges run distance s) := by
  refine List.pairwise_flatMap.mpr ⟨fun r _ => ?_, ?_⟩
  · refine List.pairwise_filterMap.mpr (s.ascending.imp fun {q q'} hle p hp p' hp' => ?_)
    simp only [movedOverlap, Option.ite_none_right_eq_some, Option.some.injEq] at hp hp'
    obtain ⟨-, rfl⟩ := hp
    obtain ⟨-, rfl⟩ := hp'
    exact moved_le_moved (by omega)
  · refine (pairwise_runRanges run).imp fun {r r'} hle p hp p' hp' => ?_
    obtain ⟨q, -, hp⟩ := List.mem_filterMap.mp hp
    obtain ⟨q', -, hp'⟩ := List.mem_filterMap.mp hp'
    simp only [movedOverlap, Option.ite_none_right_eq_some, Option.some.injEq] at hp hp'
    obtain ⟨hlast, rfl⟩ := hp
    obtain ⟨-, rfl⟩ := hp'
    exact moved_le_moved (by omega)

/-- Adds where the shifts send members of the set. -/
def withImages (shifts : List Shift) (s : CharSet) : CharSet :=
  shifts.foldl (fun t m =>
    let images := ofAscending (movedRanges m.run m.distance s) (ascending_movedRanges _ _ s)
    if images.ranges.isEmpty then t else t.union images) s

/-- Adds what the shifts send to members of the set. -/
def withPreimages (shifts : List Shift) (s : CharSet) : CharSet :=
  withImages (shifts.map fun m =>
    ⟨⟨moved m.distance m.run.first, moved m.distance m.run.last, m.run.step⟩, -m.distance⟩) s

/-- The set with all characters that differ from a member only by case, where the shifts send every
character to the representative of its class. -/
def caseless (folding : List Shift) (s : CharSet) : CharSet :=
  withPreimages folding (withImages folding s)

/-! ## Membership -/

theorem any_merge (p : CharRange → Bool) (s t : List CharRange) :
    (merge s t).any p = (s.any p || t.any p) := by
  induction s generalizing t with
  | nil => simp [merge]
  | cons r rest ih =>
    rw [merge, List.any_append, List.any_cons, ih]
    have h : t.any p =
        ((t.takeWhile (·.first < r.first)).any p || (t.dropWhile (·.first < r.first)).any p) := by
      rw [← List.any_append, List.takeWhile_append_dropWhile]
    rw [h, List.any_cons]
    cases (t.takeWhile (·.first < r.first)).any p <;> cases p r <;> cases rest.any p <;> simp

theorem contains_empty (c : Char) : empty.contains c = false := rfl

theorem contains_range (a b c : Char) :
    (range a b).contains c = (a.toNat ≤ c.toNat && c.toNat ≤ b.toNat) := by
  simp [contains, range, ofRange, CharRange.contains]

/-- Joining ranges loses no code point and adds none. -/
theorem any_joinFrom (n : Nat) {current : CharRange} {rest : List CharRange}
    (h : Ascending (current :: rest)) :
    (joinFrom current rest).any (·.contains n) = (current :: rest).any (·.contains n) := by
  induction rest generalizing current with
  | nil => rfl
  | cons r rest ih =>
    obtain ⟨hcurrent, hrest⟩ := List.pairwise_cons.mp h
    rw [joinFrom]
    split
    · rename_i htouch
      have hjoined : Ascending (⟨current.first, max current.last r.last⟩ :: rest) :=
        List.pairwise_cons.mpr
          ⟨fun q hq => hcurrent q (List.mem_cons_of_mem r hq), (List.pairwise_cons.mp hrest).2⟩
      have hfirst := hcurrent r List.mem_cons_self
      have hboth : CharRange.contains ⟨current.first, max current.last r.last⟩ n =
          (current.contains n || r.contains n) := by
        rw [Bool.eq_iff_iff]
        simp only [CharRange.contains, Bool.or_eq_true, Bool.and_eq_true, decide_eq_true_eq]
        omega
      rw [ih hjoined, List.any_cons, hboth, List.any_cons, List.any_cons, Bool.or_assoc]
    · rw [List.any_cons, ih hrest]
      rfl

theorem contains_union (s t : CharSet) (c : Char) :
    (s.union t).contains c = (s.contains c || t.contains c) := by
  rw [contains, contains, contains, ← any_merge]
  show (join (merge s.ranges t.ranges)).any _ = _
  have hascending := ascending_merge s.ascending t.ascending
  cases hmerge : merge s.ranges t.ranges with
  | nil => rfl
  | cons r rest => exact any_joinFrom c.toNat (hmerge ▸ hascending)

end CharSet

end TreePath.Text
