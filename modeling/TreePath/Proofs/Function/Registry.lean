/-
TreePath.Proofs.Function.Registry — a registry holds nothing but what was put into it.

Adding functions in order leaves some of them out and changes none, so a function that a registry
finds is one of those that it was built from, and it accepts the number of arguments asked for.
-/
import TreePath.Function.Registry

namespace TreePath.Registry

theorem mem_of_mem_insertOverload {f g : Function} :
    ∀ {fs : List Function}, g ∈ insertOverload f fs → g = f ∨ g ∈ fs
  | [], h => .inl (List.mem_singleton.mp h)
  | k :: rest, h => by
      rw [insertOverload] at h
      split at h
      · exact List.mem_cons.mp h
      · rcases List.mem_cons.mp h with rfl | h
        · exact .inr List.mem_cons_self
        · rcases mem_of_mem_insertOverload h with rfl | h
          · exact .inl rfl
          · exact .inr (List.mem_cons_of_mem k h)

theorem mem_of_mem_update {name : Name} {f g : Function} :
    ∀ {entries : List (Name × List Function)},
      g ∈ (update name (insertOverload f) entries).flatMap (·.2) →
        g = f ∨ g ∈ entries.flatMap (·.2)
  | [], h => by
      rw [update, List.flatMap_singleton] at h
      exact (mem_of_mem_insertOverload h).imp id fun h => absurd h List.not_mem_nil
  | (n, fs) :: rest, h => by
      rw [update] at h
      split at h
      · rw [List.flatMap_cons, List.mem_append] at h ⊢
        rcases h with h | h
        · exact (mem_of_mem_insertOverload h).imp id .inl
        · exact .inr (.inr h)
      · rw [List.flatMap_cons, List.mem_append] at h ⊢
        rcases h with h | h
        · exact .inr (.inl h)
        · exact (mem_of_mem_update h).imp id .inr

theorem mem_of_register {r r' : Registry} {f g : Function} (h : r.register f = .ok r')
    (hg : g ∈ r'.functions) : g = f ∨ g ∈ r.functions := by
  rw [register] at h
  split at h
  · cases h
  · cases h
    exact mem_of_mem_update hg

/-- **A function of a registry is one that was there before or one of those added.** -/
theorem mem_of_mem_registerAll {f : Function} :
    ∀ {fs : List Function} {r : Registry}, f ∈ (r.registerAll fs).functions →
      f ∈ r.functions ∨ f ∈ fs
  | [], _, h => .inl h
  | g :: fs, r, h => by
      rw [registerAll, List.foldl_cons] at h
      cases hr : r.register g with
      | error a =>
        rw [hr] at h
        have h : f ∈ (r.registerAll fs).functions := h
        exact (mem_of_mem_registerAll h).imp id (List.mem_cons_of_mem g)
      | ok r' =>
        rw [hr] at h
        have h : f ∈ (r'.registerAll fs).functions := h
        rcases mem_of_mem_registerAll h with h | h
        · rcases mem_of_register hr h with rfl | h
          · exact .inr List.mem_cons_self
          · exact .inl h
        · exact .inr (List.mem_cons_of_mem g h)

/-- The function found is one of the registry, and takes as many arguments. -/
theorem mem_of_resolve {r : Registry} {name : Name} {n : Nat} {f : Function}
    (h : r.resolve name n = .ok f) : f ∈ r.functions ∧ f.acceptsArity n = true := by
  rw [resolve] at h
  split at h
  · cases h
  · rename_i fs hlookup
    split at h
    · rename_i g hfind
      cases h
      obtain ⟨l₁, l₂, heq, -⟩ := List.lookup_eq_some_iff.mp hlookup
      refine ⟨List.mem_flatMap.mpr ⟨(name, fs), ?_, List.mem_of_find?_eq_some hfind⟩,
        List.find?_some (p := fun g : Function => g.acceptsArity n) hfind⟩
      rw [heq]
      simp
    · cases h

end TreePath.Registry
