/-
TreePath.Proofs.Tree.KeyOrder — the order of steps and of sort keys.

Steps are ordered by their components and keys step by step, so both orders are total, and keys are
equal where neither comes first. A key comes in front of the keys that it is the beginning of, and
where two keys part, the steps there decide.
-/
import TreePath.Tree.Node

namespace TreePath

/-! ## Steps -/

namespace Step

theorem compare_eq_lt {a b : Step} :
    Step.compare a b = .lt ↔ a.1 < b.1 ∨ (a.1 = b.1 ∧ a.2 < b.2) := by
  rw [Step.compare, Ordering.then_eq_lt, Nat.compare_eq_lt, Nat.compare_eq_lt, Nat.compare_eq_eq]

instance : Std.TransCmp Step.compare :=
  inferInstanceAs (Std.TransCmp (compareLex (compareOn Prod.fst) (compareOn Prod.snd)))

instance : Std.LawfulEqCmp Step.compare where
  eq_of_compare {a b} h := by
    rw [Step.compare, Ordering.then_eq_eq, Nat.compare_eq_eq, Nat.compare_eq_eq] at h
    exact Prod.ext h.1 h.2

theorem compare_self (s : Step) : Step.compare s s = .eq := Std.ReflCmp.compare_self

theorem ne_of_compare_eq_lt {a b : Step} (h : Step.compare a b = .lt) : a ≠ b := by
  rintro rfl
  rw [compare_self] at h
  cases h

end Step

/-! ## Keys -/

namespace Node

instance : Std.TransCmp compareKeys := inferInstanceAs (Std.TransCmp (List.compareLex Step.compare))

instance : Std.LawfulEqCmp compareKeys :=
  inferInstanceAs (Std.LawfulEqCmp (List.compareLex Step.compare))

theorem compareKeys_self (k : List Step) : compareKeys k k = .eq := Std.ReflCmp.compare_self

/-- Keys are compared where they part. -/
theorem compareKeys_append (k a b : List Step) :
    compareKeys (k ++ a) (k ++ b) = compareKeys a b := by
  induction k with
  | nil => rfl
  | cons s rest ih =>
    rw [compareKeys] at ih ⊢
    rw [List.cons_append, List.cons_append, List.compareLex_cons_cons, Step.compare_self, ih]
    rfl

/-- A key comes in front of the keys below it. -/
theorem compareKeys_below (k : List Step) (s : Step) (r : List Step) :
    compareKeys k (k ++ s :: r) = .lt := by
  have h := compareKeys_append k [] (s :: r)
  rw [List.append_nil] at h
  rw [h]
  rfl

theorem compareKeys_of_step {s s' : Step} (h : Step.compare s s' = .lt) (k r r' : List Step) :
    compareKeys (k ++ s :: r) (k ++ s' :: r') = .lt := by
  rw [compareKeys_append, compareKeys, List.compareLex_cons_cons, h]
  rfl

end Node

end TreePath
