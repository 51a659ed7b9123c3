/-
TreePath.Proofs.Library.Distinct — the distinct values of a sequence.

A value is kept unless one that is kept already compares as equal to it. Since comparing as equal is
an equivalence, it does not matter that only kept values are looked at: a value is kept exactly if
no value in front of it is equal to it (`distinct_eq_firsts`). So the kept values represent the
groups of equal values, each by its first one, and there are as many of them as there are groups
(`length_distinct`), whatever the order of the sequence.
-/
import TreePath.Proofs.Atomic.Alike
import TreePath.Proofs.Library.Calls
import TreePath.Proofs.Library.Soundness

namespace TreePath.Library

open AtomicValue (Alike)

variable {values values' : List AtomicValue} {v : AtomicValue}

/-! ## What is kept -/

theorem equalValues_iff {a b : AtomicValue} : equalValues a b = true ↔ Alike a b := by
  rw [equalValues, Alike]
  cases a.compare b with
  | ok o => simp
  | error e => simp

/-- The rest of a sequence is gone through with what has been kept of its beginning. -/
theorem distinctFrom_append (kept values values' : List AtomicValue) :
    distinctFrom kept (values ++ values') = distinctFrom kept values ++
      distinctFrom ((distinctFrom kept values).reverse ++ kept) values' := by
  induction values generalizing kept with
  | nil => rfl
  | cons v rest ih =>
    rw [List.cons_append, distinctFrom, distinctFrom]
    split
    · exact ih kept
    · rw [ih, List.reverse_cons, List.append_assoc]
      rfl

/-- Every value has an equal among those that are kept. -/
theorem exists_kept (kept : List AtomicValue) (h : v ∈ values) :
    ∃ k ∈ kept ++ distinctFrom kept values, Alike v k := by
  induction values generalizing kept with
  | nil => exact absurd h List.not_mem_nil
  | cons w rest ih =>
    rw [distinctFrom]
    split
    · rename_i hany
      rcases List.mem_cons.mp h with rfl | h
      · obtain ⟨k, hk, heq⟩ := List.any_eq_true.mp hany
        exact ⟨k, List.mem_append_left _ hk, equalValues_iff.mp heq⟩
      · exact ih kept h
    · rcases List.mem_cons.mp h with rfl | h
      · exact ⟨v, List.mem_append_right _ List.mem_cons_self, .refl v⟩
      · obtain ⟨k, hk, heq⟩ := ih (w :: kept) h
        refine ⟨k, ?_, heq⟩
        rw [List.mem_append, List.mem_cons]
        rw [List.mem_append, List.mem_cons] at hk
        tauto

/-- One more value is kept unless there is an equal one in front of it. -/
theorem distinct_concat (values : List AtomicValue) (v : AtomicValue) :
    distinct (values ++ [v]) = distinct values ++ if ∃ u ∈ values, Alike v u then [] else [v] := by
  have hseen : (distinct values).reverse.any (equalValues v) = true ↔ ∃ u ∈ values, Alike v u := by
    simp only [List.any_eq_true, List.mem_reverse, equalValues_iff]
    constructor
    · rintro ⟨k, hk, heq⟩
      exact ⟨k, mem_of_mem_distinctFrom hk, heq⟩
    · rintro ⟨u, hu, heq⟩
      obtain ⟨k, hk, heq'⟩ := exists_kept [] hu
      exact ⟨k, hk, heq.trans heq'⟩
  rw [distinct, distinctFrom_append, List.append_nil, ← distinct, distinctFrom]
  simp only [hseen, distinctFrom]

/-! ## Groups of equal values -/

/-- The value has no equal in front of its position. -/
def IsFirst (values : List AtomicValue) (p : AtomicValue × Nat) : Prop :=
  ∀ u ∈ values.take p.2, ¬ Alike p.1 u

instance (values : List AtomicValue) : DecidablePred (IsFirst values) := fun p =>
  inferInstanceAs (Decidable (∀ u ∈ values.take p.2, ¬ Alike p.1 u))

/-- The values that have no equal in front of them. -/
def firsts (values : List AtomicValue) : List AtomicValue :=
  (values.zipIdx.filter fun p => IsFirst values p).map Prod.fst

theorem isFirst_concat {p : AtomicValue × Nat} (h : p.2 ≤ values.length) :
    IsFirst (values ++ [v]) p ↔ IsFirst values p := by
  rw [IsFirst, IsFirst, List.take_append_of_le_length h]

theorem firsts_concat (values : List AtomicValue) (v : AtomicValue) :
    firsts (values ++ [v]) = firsts values ++ if ∃ u ∈ values, Alike v u then [] else [v] := by
  have hfront : values.zipIdx.filter (fun p => IsFirst (values ++ [v]) p) =
      values.zipIdx.filter fun p => IsFirst values p := by
    refine List.filter_congr fun p hp => decide_eq_decide.mpr (isFirst_concat ?_)
    have := List.snd_lt_of_mem_zipIdx hp
    omega
  have hlast : IsFirst (values ++ [v]) (v, values.length) ↔ ¬ ∃ u ∈ values, Alike v u := by
    rw [isFirst_concat (Nat.le_refl _), IsFirst, List.take_length]
    push Not
    rfl
  rw [firsts, List.zipIdx_append, List.filter_append, hfront, List.map_append, ← firsts,
    Nat.zero_add, List.zipIdx_singleton, List.filter_singleton]
  by_cases h : ∃ u ∈ values, Alike v u
  · rw [if_pos h, decide_eq_false fun hfirst => hlast.mp hfirst h]
    rfl
  · rw [if_neg h, decide_eq_true (hlast.mpr h)]
    rfl

/-- **A value is kept exactly if no value in front of it is equal to it.** -/
theorem distinct_eq_firsts (values : List AtomicValue) : distinct values = firsts values := by
  induction values using List.reverseRecOn with
  | nil => rfl
  | append_singleton values v ih => rw [distinct_concat, firsts_concat, ih]

theorem distinct_sublist (values : List AtomicValue) : (distinct values).Sublist values := by
  have h : (firsts values).Sublist (values.zipIdx.map Prod.fst) := List.filter_sublist.map Prod.fst
  rwa [List.zipIdx_map_fst, ← distinct_eq_firsts] at h

theorem pairwise_distinct (values : List AtomicValue) :
    (distinct values).Pairwise fun u v => ¬ Alike u v := by
  induction values using List.reverseRecOn with
  | nil => exact .nil
  | append_singleton values v ih =>
    rw [distinct_concat]
    split
    · rwa [List.append_nil]
    · rename_i hnone
      refine List.pairwise_append.mpr ⟨ih, List.pairwise_singleton _ _, fun u hu w hw heq => ?_⟩
      obtain rfl := List.mem_singleton.mp hw
      exact hnone ⟨u, (distinct_sublist values).subset hu, heq.symm⟩

/-- Where no two values are equal, all of them are kept. -/
theorem distinct_of_pairwise (h : values.Pairwise fun u v => ¬ Alike u v) :
    distinct values = values := by
  induction values using List.reverseRecOn with
  | nil => rfl
  | append_singleton values v ih =>
    obtain ⟨hfront, -, hlast⟩ := List.pairwise_append.mp h
    rw [distinct_concat, ih hfront, if_neg]
    rintro ⟨u, hu, heq⟩
    exact hlast u hu v (List.mem_singleton.mpr rfl) heq.symm

/-- Every value is equal to exactly one that is kept. -/
theorem existsUnique_distinct (h : v ∈ values) : ∃! k, k ∈ distinct values ∧ Alike v k := by
  obtain ⟨k, hk, heq⟩ := exists_kept [] h
  refine ⟨k, ⟨hk, heq⟩, ?_⟩
  rintro k' ⟨hk', heq'⟩
  have : Std.Symm fun u w : AtomicValue => ¬ Alike u w := ⟨fun _ _ hn h => hn h.symm⟩
  by_contra hne
  exact (pairwise_distinct values).forall hk' hk hne (heq'.symm.trans heq)

/-- The group of a value: those that are equal to it. -/
def group (v : AtomicValue) :
    Quotient (⟨Alike, AtomicValue.equivalence_alike⟩ : Setoid AtomicValue) :=
  Quotient.mk _ v

open Classical in
/-- As many values are kept as there are groups. -/
theorem length_distinct (values : List AtomicValue) :
    (distinct values).length = (values.map group).toFinset.card := by
  have hnodup : ((distinct values).map group).Nodup :=
    List.pairwise_map.mpr ((pairwise_distinct values).imp fun hne heq => hne (Quotient.exact heq))
  have hsame : ((distinct values).map group).toFinset = (values.map group).toFinset := by
    ext g
    simp only [List.mem_toFinset, List.mem_map]
    constructor
    · rintro ⟨k, hk, rfl⟩
      exact ⟨k, (distinct_sublist values).subset hk, rfl⟩
    · rintro ⟨u, hu, rfl⟩
      obtain ⟨k, hk, heq⟩ := exists_kept [] hu
      exact ⟨k, hk, Quotient.sound heq.symm⟩
  rw [← hsame, List.toFinset_card_of_nodup hnodup, List.length_map]

/-! ## Calls -/

/-- The function that gives the distinct values. -/
def distinctEntry : Entry :=
  pureEntry "distinct-values" [Library.values] anyAtomic .zeroOrMore distinctValues

theorem gives_distinct (site : CallSite) (values : List AtomicValue) :
    Gives "distinct-values" site [values.map .atomic] ((distinct values).map .atomic) := by
  refine .of_entry (e := distinctEntry) (i := 33) rfl (admits_values _ _ _ _ _ values) ?_
    (accepts_values _)
  show Except.ok ((distinct (Sequence.atomics (values.map .atomic))).map Item.atomic) = _
  rw [Sequence.atomics_map_atomic]

/-- **Distinct values.** There is always an answer. It has the values in front of which there is no
equal one, in order; no two of them are equal, and every value is equal to exactly one of them.
Asking again changes nothing, and the number of values kept is the same for every order of the
values. -/
theorem distinct_values (site : CallSite) (values : List AtomicValue) :
    Gives "distinct-values" site [values.map .atomic] ((distinct values).map .atomic) ∧
    (distinct values).Sublist values ∧
    distinct values = firsts values ∧
    ((distinct values).Pairwise fun u v => ¬ Alike u v) ∧
    (∀ v ∈ values, ∃! k, k ∈ distinct values ∧ Alike v k) ∧
    distinct (distinct values) = distinct values ∧
    ∀ values' : List AtomicValue, values'.Perm values →
      (distinct values').length = (distinct values).length := by
  refine ⟨gives_distinct site values, distinct_sublist values, distinct_eq_firsts values,
    pairwise_distinct values, fun v => existsUnique_distinct,
    distinct_of_pairwise (pairwise_distinct values), fun values' hperm => ?_⟩
  classical
  rw [length_distinct, length_distinct, List.toFinset_eq_of_perm _ _ (hperm.map group)]

end TreePath.Library
