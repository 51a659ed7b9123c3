/-
TreePath.Proofs.Tree.Place — a place belongs to one node.

A node carries its subtree and the subtrees above it, but two nodes are compared by tree and address
alone. For nodes that were reached from the roots of built trees the comparison loses nothing
(`Node.Within.eq_of_same`): siblings have different steps, so an address leads to one subtree.
Moving around never leaves the trees (`Node.kept_within`), and a set of such nodes has every node
that it is made from (`Node.mem_sorted_of_mem`).
-/
import TreePath.Proofs.Tree.Arrangement
import TreePath.Proofs.Tree.Moves

namespace TreePath

/-- The trees that a session can reach, each under its identity. -/
abbrev Forest := TreeId → Option Tree

/-- Every tree of the forest was built by the program. -/
def Forest.Built (F : Forest) : Prop := ∀ id t, F id = some t → t.Built

/-- One tree of the forest. -/
def Forest.only (F : Forest) (id : TreeId) : Forest := fun i => if i = id then F i else none

theorem Forest.Built.only {F : Forest} (h : F.Built) (id : TreeId) : (F.only id).Built := by
  intro i t ht
  rw [Forest.only] at ht
  split at ht
  · exact h i t ht
  · cases ht

namespace Node

/-- The node was reached from the root of a tree of the forest. -/
inductive Within (F : Forest) : Node → Prop where
  | root {id : TreeId} {t : Tree} : F id = some t → Within F (Node.root id t)
  | under {n : Node} {t : Tree} : Within F n → t ∈ n.here.flags ++ n.here.children →
      Within F (n.below t)

variable {F : Forest} {n m : Node}

/-! ## Moving -/

/-- Moving does not leave the forest. -/
theorem kept_within (F : Forest) : Kept (Within F) where
  parent? hn hp := by
    cases hn with
    | root => simp at hp
    | under hn _ =>
      rw [parent?_below] at hp
      cases hp
      exact hn
  flags hn hm := by
    obtain ⟨t, ht, rfl⟩ := exists_of_mem_flags hm
    exact .under hn (List.mem_append_left _ ht)
  children hn hm := by
    obtain ⟨t, ht, rfl⟩ := exists_of_mem_children hm
    exact .under hn (List.mem_append_right _ ht)

theorem Within.top (hn : n.Within F) : n.top.Within F := (kept_within F).top hn

theorem Within.tree_eq {id : TreeId} (hn : n.Within (F.only id)) : n.tree = id := by
  induction hn with
  | root h =>
    rw [Forest.only] at h
    split at h
    · assumption
    · cases h
  | under _ _ ih => exact ih

/-! ## Sets of nodes -/

theorem mem_of_mem_distinct {nodes : List Node} (h : m ∈ distinct nodes) : m ∈ nodes := by
  have hfold : ∀ (nodes kept : List Node), m ∈ nodes.foldl
      (fun kept n => if kept.any n.same then kept else n :: kept) kept → m ∈ kept ∨ m ∈ nodes := by
    intro nodes
    induction nodes with
    | nil => exact fun kept h => .inl h
    | cons n rest ih =>
      intro kept h
      rcases ih _ h with h | h
      · simp only at h
        split at h
        · exact .inl h
        · rcases List.mem_cons.mp h with rfl | h
          · exact .inr List.mem_cons_self
          · exact .inl h
      · exact .inr (List.mem_cons_of_mem n h)
  rcases hfold nodes [] (List.mem_reverse.mp h) with h | h
  · exact absurd h List.not_mem_nil
  · exact h

theorem mem_of_mem_sorted {nodes : List Node} (h : m ∈ sorted nodes) : m ∈ nodes :=
  mem_of_mem_distinct (List.mem_mergeSort.mp h)

/-- Where every step takes in the element or finds one like it, nothing is lost in the end. -/
theorem exists_of_mem_foldl {α β : Type} (like : α → β → Bool) (push : List β → α → List β)
    (hkeep : ∀ kept a, ∀ k ∈ kept, k ∈ push kept a)
    (htake : ∀ kept a, ∃ k ∈ push kept a, like a k = true) {a : α} :
    ∀ {l : List α} (kept : List β), a ∈ l → ∃ k ∈ l.foldl push kept, like a k = true := by
  have hstay : ∀ (l : List α) (kept : List β), ∀ k ∈ kept, k ∈ l.foldl push kept := by
    intro l
    induction l with
    | nil => exact fun _ _ h => h
    | cons b rest ih => exact fun kept k hk => ih _ k (hkeep kept b k hk)
  intro l
  induction l with
  | nil => exact fun _ h => absurd h List.not_mem_nil
  | cons b rest ih =>
    intro kept h
    rcases List.mem_cons.mp h with rfl | h
    · obtain ⟨k, hk, hlike⟩ := htake kept a
      exact ⟨k, hstay rest _ k hk, hlike⟩
    · exact ih _ h

/-- Of nodes at one place one is kept. -/
theorem exists_same_of_mem_distinct {nodes : List Node} (h : m ∈ nodes) :
    ∃ k ∈ distinct nodes, m.same k = true := by
  have hkeep : ∀ (kept : List Node) (n : Node), ∀ k ∈ kept,
      k ∈ if kept.any n.same then kept else n :: kept := by
    intro kept n k hk
    split
    · exact hk
    · exact List.mem_cons_of_mem n hk
  have htake : ∀ (kept : List Node) (n : Node),
      ∃ k ∈ if kept.any n.same then kept else n :: kept, n.same k = true := by
    intro kept n
    split
    · rename_i hany
      exact List.any_eq_true.mp hany
    · exact ⟨n, List.mem_cons_self, by simp [same]⟩
  obtain ⟨k, hk, hsame⟩ := exists_of_mem_foldl same _ hkeep htake [] h
  exact ⟨k, List.mem_reverse.mpr hk, hsame⟩

/-! ## One node per place -/

theorem Within.arranged (hF : F.Built) (hn : n.Within F) : n.here.Arranged := by
  induction hn with
  | root h => exact (hF _ _ h).arranged
  | under _ ht ih => exact ih.of_mem ht

/-- **Nodes at one place of one tree are one node.** -/
theorem Within.eq_of_same (hF : F.Built) (hn : n.Within F) :
    ∀ {m : Node}, m.Within F → n.same m = true → n = m := by
  induction hn with
  | @root id t h =>
    intro m hm hsame
    simp only [same, Bool.and_eq_true, beq_iff_eq] at hsame
    cases hm with
    | root h' =>
      have heq : id = _ := hsame.1
      subst heq
      rw [h] at h'
      cases h'
      rfl
    | under _ _ => exact absurd hsame.2 (by simp [Node.root])
  | @under n t hn ht ih =>
    intro m hm hsame
    simp only [same, Bool.and_eq_true, beq_iff_eq] at hsame
    cases hm with
    | root _ => exact absurd hsame.2 (by simp [Node.root])
    | @under m u hm hu =>
      obtain ⟨haddress, hstep⟩ := List.append_inj' hsame.2 rfl
      have hsame' : n.same m = true := by
        simp only [same, Bool.and_eq_true, beq_iff_eq]
        exact ⟨hsame.1, haddress⟩
      have hnm := ih hm hsame'
      subst hnm
      have htu : t = u :=
        (hn.arranged hF).eq_of_step_eq ht hu (by simpa using hstep)
      rw [htu]

/-- A set of nodes has every node that it is made from. -/
theorem mem_sorted_of_mem (hF : F.Built) {nodes : List Node} (hall : ∀ k ∈ nodes, k.Within F)
    (h : m ∈ nodes) : m ∈ sorted nodes := by
  obtain ⟨k, hk, hsame⟩ := exists_same_of_mem_distinct h
  have heq : m = k := (hall m h).eq_of_same hF (hall k (mem_of_mem_distinct hk)) hsame
  rw [heq]
  exact List.mem_mergeSort.mpr hk

end Node

end TreePath
