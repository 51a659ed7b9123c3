/-
TreePath.Proofs.Constraint.Keys — how keys are accounted for.

`account` goes through observations with the keys seen so far. One observation reports at most one
finding (`reported?`), and if it is an item with a key, the key has been seen after it
(`SeenKeys.after`). So in the end a table has the keys that it had before and those that were
entered, and of each it remembers the place of the first item (`lookup_account`).
-/
import TreePath.Constraint.Validation

namespace TreePath

/-! ## Entries -/

/-- The observation is an item with the key in the table. -/
def Observation.enters (o : Observation) (k : KeyTable × Key) : Bool :=
  match o.sight with
  | .entry table key => (table, key) == k
  | _ => false

theorem Observation.enters_iff {o : Observation} {k : KeyTable × Key} :
    o.enters k = true ↔ o.sight = .entry k.1 k.2 := by
  rw [enters.eq_def]
  cases o.sight with
  | entry table key => simp [Prod.ext_iff]
  | violation message => simp
  | reference index key => simp

namespace Validation

/-- The first item with the key. -/
def firstItem? (os : List Observation) (k : KeyTable × Key) : Option Observation :=
  os.find? (·.enters k)

theorem firstItem?_cons (o : Observation) (rest : List Observation) (k : KeyTable × Key) :
    firstItem? (o :: rest) k = if o.enters k then some o else firstItem? rest k := by
  rw [firstItem?, List.find?_cons]
  cases o.enters k <;> rfl

theorem mem_of_firstItem? {os : List Observation} {k : KeyTable × Key} {first : Observation}
    (h : first ∈ firstItem? os k) : first ∈ os ∧ first.enters k = true := by
  have hfind : os.find? (·.enters k) = some first := h
  have henters := List.find?_some hfind
  exact ⟨List.mem_of_find?_eq_some h, henters⟩

/-! ## One observation -/

/-- What an observation reports: its violation, or that its key has been seen. -/
def reported? (seen : SeenKeys) (o : Observation) : Option Finding :=
  match o.sight with
  | .violation message => some (o.finding message)
  | .reference _ _ => none
  | .entry table key =>
    (seen.lookup (table, key)).map fun first => o.finding (duplicateMessage table key first)

/-- The keys that have been seen after an observation. -/
def SeenKeys.after (seen : SeenKeys) (o : Observation) : SeenKeys :=
  match o.sight with
  | .entry table key =>
    if (seen.lookup (table, key)).isSome then seen else ((table, key), o.item.display) :: seen
  | _ => seen

theorem SeenKeys.lookup_after (seen : SeenKeys) (o : Observation) (k : KeyTable × Key) :
    (seen.after o).lookup k
      = if o.enters k then some ((seen.lookup k).getD o.item.display) else seen.lookup k := by
  rw [after.eq_def, Observation.enters.eq_def]
  cases o.sight with
  | violation message => rfl
  | reference index key => rfl
  | entry table key =>
    by_cases hk : (table, key) = k
    · subst hk
      cases hfound : seen.lookup (table, key) <;> simp [hfound]
    · have hlookup : ((((table, key), o.item.display) :: seen) : SeenKeys).lookup k
          = seen.lookup k := by
        rw [List.lookup_cons, beq_false_of_ne (Ne.symm hk)]
      simp only [beq_iff_eq, hk, if_false]
      split
      · rfl
      · exact hlookup

/-- Accounting goes from one observation to the next. -/
theorem account_cons (seen : SeenKeys) (o : Observation) (rest : List Observation) :
    account seen (o :: rest)
      = ((reported? seen o).toList ++ (account (seen.after o) rest).1,
          (account (seen.after o) rest).2) := by
  rw [account, reported?.eq_def, SeenKeys.after.eq_def]
  cases o.sight with
  | violation message => rfl
  | reference index key => rfl
  | entry table key => cases hfound : seen.lookup (table, key) <;> simp [hfound]

/-- What is reported about an observation says of which constraint it is. -/
theorem exists_of_mem_reported {seen : SeenKeys} {o : Observation} {f : Finding}
    (hf : f ∈ (reported? seen o).toList) : ∃ message, f = o.finding message := by
  rw [reported?.eq_def, Option.mem_toList] at hf
  split at hf
  · cases hf
    exact ⟨_, rfl⟩
  · cases hf
  · obtain ⟨first, -, rfl⟩ := Option.map_eq_some_iff.mp hf
    exact ⟨_, rfl⟩

/-! ## All observations -/

/-- A table has the keys that it had and those that were entered, with the first place. -/
theorem lookup_account (seen : SeenKeys) (os : List Observation) (k : KeyTable × Key) :
    (account seen os).2.lookup k
      = (seen.lookup k).or ((firstItem? os k).map (·.item.display)) := by
  induction os generalizing seen with
  | nil => simp [account, firstItem?]
  | cons o rest ih =>
    rw [account_cons, ih, SeenKeys.lookup_after, firstItem?_cons]
    split
    · cases seen.lookup k <;> rfl
    · rfl

/-- The findings are about observations that see a violation or enter a key. -/
theorem exists_of_mem_account {seen : SeenKeys} {os : List Observation} {f : Finding}
    (hf : f ∈ (account seen os).1) :
    ∃ o ∈ os, (∀ index key, o.sight ≠ .reference index key) ∧ ∃ message, f = o.finding message := by
  induction os generalizing seen with
  | nil => exact absurd hf List.not_mem_nil
  | cons o rest ih =>
    rw [account_cons] at hf
    rcases List.mem_append.mp hf with hf | hf
    · refine ⟨o, List.mem_cons_self, fun index key hsight => ?_, exists_of_mem_reported hf⟩
      rw [reported?.eq_def, hsight] at hf
      exact absurd hf List.not_mem_nil
    · obtain ⟨o', ho', hrest⟩ := ih hf
      exact ⟨o', List.mem_cons_of_mem o ho', hrest⟩

/-- The place of a key is that of its first item. -/
theorem lookup_account_nil (os : List Observation) (k : KeyTable × Key) :
    (account [] os).2.lookup k = (firstItem? os k).map (·.item.display) := by
  rw [lookup_account]
  rfl

theorem isSome_lookup_account_nil {os : List Observation} {k : KeyTable × Key} :
    ((account [] os).2.lookup k).isSome ↔ ∃ o ∈ os, o.enters k = true := by
  rw [lookup_account_nil, Option.isSome_map, firstItem?, List.find?_isSome]

/-! ## More keys -/

/-- The keys of the first are among those of the second. -/
def SeenKeys.Within (seen' seen : SeenKeys) : Prop :=
  ∀ k, (seen'.lookup k).isSome → (seen.lookup k).isSome

theorem SeenKeys.Within.after (h : SeenKeys.Within seen' seen) (o : Observation) :
    SeenKeys.Within (seen'.after o) (seen.after o) := by
  intro k hk
  rw [SeenKeys.lookup_after] at hk ⊢
  by_cases henters : o.enters k = true
  · rw [if_pos henters]
    rfl
  · rw [if_neg henters] at hk ⊢
    exact h k hk

theorem SeenKeys.Within.after_right (h : SeenKeys.Within seen' seen) (o : Observation) :
    SeenKeys.Within seen' (seen.after o) := by
  intro k hk
  rw [SeenKeys.lookup_after]
  split
  · rfl
  · exact h k hk

theorem SeenKeys.Within.length_reported_le (h : SeenKeys.Within seen' seen) (o : Observation) :
    (reported? seen' o).toList.length ≤ (reported? seen o).toList.length := by
  rw [reported?.eq_def, reported?.eq_def]
  cases o.sight with
  | violation message => exact Nat.le_refl _
  | reference index key => exact Nat.le_refl _
  | entry table key =>
    have hk := h (table, key)
    cases hfound : seen'.lookup (table, key) with
    | none => simp [hfound]
    | some first =>
      obtain ⟨first', hfound'⟩ := Option.isSome_iff_exists.mp (hk (by rw [hfound]; rfl))
      simp [hfound']

/-- An item that is a duplicate only among more keys is reported only among more keys. -/
theorem lookup_eq_none_of_length_reported_eq
    (h : (reported? seen' o).toList.length = (reported? seen o).toList.length)
    (henters : o.enters k = true) (hk : seen'.lookup k = none) : seen.lookup k = none := by
  have hsight := Observation.enters_iff.mp henters
  rw [reported?.eq_def, reported?.eq_def, hsight] at h
  cases hfound : seen.lookup k with
  | none => rfl
  | some first => simp [hk, hfound] at h

end Validation

end TreePath
