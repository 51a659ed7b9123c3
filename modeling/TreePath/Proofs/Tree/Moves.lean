/-
TreePath.Proofs.Tree.Moves — moving from node to node.

All moves are made of single ones: to the parent, to a flag, to a child. The topmost node is reached
through parents, the descendants through children. So a property of nodes that the single moves keep
(`Node.Kept`) is kept by all of them.
-/
import TreePath.Tree.Node

namespace TreePath

namespace Tree

mutual

/-- What holds of a tree as soon as it holds of its children holds of every tree. -/
theorem children_induction {P : Tree → Prop} (h : ∀ t : Tree, (∀ c ∈ t.children, P c) → P t) :
    ∀ t : Tree, P t
  | .mk _ _ _ children => h _ (children_induction_list h children)

theorem children_induction_list {P : Tree → Prop}
    (h : ∀ t : Tree, (∀ c ∈ t.children, P c) → P t) : ∀ (ts : List Tree), ∀ c ∈ ts, P c
  | [], _, hc => absurd hc List.not_mem_nil
  | t :: rest, c, hc => by
      rcases List.mem_cons.mp hc with heq | hc
      · rw [heq]
        exact children_induction h t
      · exact children_induction_list h rest c hc

end

end Tree

namespace Node

variable {n m p : Node}

/-! ## Single moves -/

@[simp] theorem address_below (n : Node) (t : Tree) : (n.below t).address = n.address ++ [t.step] :=
  rfl

@[simp] theorem parent?_root (id : TreeId) (t : Tree) : (Node.root id t).parent? = none := rfl

@[simp] theorem parent?_below (n : Node) (t : Tree) : (n.below t).parent? = some n := by
  simp [below, parent?]

theorem exists_of_mem_children (h : m ∈ n.children) :
    ∃ t ∈ n.here.children, m = n.below t := by
  obtain ⟨t, ht, rfl⟩ := List.mem_map.mp h
  exact ⟨t, ht, rfl⟩

theorem exists_of_mem_flags (h : m ∈ n.flags) : ∃ t ∈ n.here.flags, m = n.below t := by
  obtain ⟨t, ht, rfl⟩ := List.mem_map.mp h
  exact ⟨t, ht, rfl⟩

/-! ## The topmost node -/

theorem ancestors_of_parent? (h : n.parent? = some p) : n.ancestors = p :: p.ancestors := by
  obtain ⟨tree, address, here, above⟩ := n
  cases above with
  | nil => simp [parent?] at h
  | cons t rest =>
    simp only [parent?, Option.some.injEq] at h
    subst h
    rfl

theorem top_of_parent? (h : n.parent? = some p) : n.top = p.top := by
  rw [top, top, ancestors_of_parent? h, List.getLast?_cons]
  rfl

theorem top_of_parent?_none (h : n.parent? = none) : n.top = n := by
  obtain ⟨tree, address, here, above⟩ := n
  cases above with
  | nil => rfl
  | cons t rest => simp [parent?] at h

theorem top_below (n : Node) (t : Tree) : (n.below t).top = n.top :=
  top_of_parent? (parent?_below n t)

/-- What holds of a node as soon as it holds of its parent holds of every node. -/
theorem parent_induction {P : Node → Prop} (h : ∀ n : Node, (∀ p, n.parent? = some p → P p) → P n)
    (n : Node) : P n := by
  have hall : ∀ (above : List Tree) (n : Node), n.above = above → P n := by
    intro above
    induction above with
    | nil =>
      intro n hn
      refine h n fun p hp => ?_
      rw [parent?, hn] at hp
      cases hp
    | cons t rest ih =>
      intro n hn
      refine h n fun p hp => ih p ?_
      rw [parent?, hn] at hp
      cases hp
      rfl
  exact hall n.above n rfl

/-! ## Descendants -/

theorem walk_nil : walk [] = [] := by
  rw [walk]

/-- The children of a node are visited next. -/
theorem walk_cons (n : Node) (stack : List Node) :
    walk (n :: stack) = n :: walk (n.children ++ stack) := by
  rw [walk, turnAbove_pushAll]

theorem walk_append (s t : List Node) : walk (s ++ t) = walk s ++ walk t := by
  induction s using walk.induct with
  | case1 => rw [walk_nil, List.nil_append, List.nil_append]
  | case2 n stack ih =>
    rw [turnAbove_pushAll] at ih
    rw [List.cons_append, walk_cons, walk_cons, ← List.append_assoc, ih, List.cons_append]

/-- Nodes on the stack are visited one after another, each with all that is below it. -/
theorem walk_eq (stack : List Node) : walk stack = stack.flatMap descendantsOrSelf := by
  induction stack with
  | nil => exact walk_nil
  | cons n rest ih => rw [← List.singleton_append, walk_append, ih]; rfl

/-- The descendants of a node are those of its children. -/
theorem descendantsOrSelf_eq (n : Node) :
    n.descendantsOrSelf = n :: n.children.flatMap descendantsOrSelf := by
  rw [descendantsOrSelf, walk_cons, List.append_nil, walk_eq]

/-- What holds of a node as soon as it holds of its children holds of every node. -/
theorem child_induction {P : Node → Prop} (h : ∀ n : Node, (∀ c ∈ n.children, P c) → P n)
    (n : Node) : P n := by
  have hall : ∀ (t : Tree) (n : Node), n.here = t → P n := by
    intro t
    induction t using Tree.children_induction with
    | h t ih =>
      rintro n rfl
      refine h n fun c hc => ?_
      obtain ⟨u, hu, rfl⟩ := exists_of_mem_children hc
      exact ih u hu (n.below u) rfl
  exact hall n.here n rfl

/-! ## Properties that moves keep -/

/-- The single moves keep the property. -/
structure Kept (P : Node → Prop) : Prop where
  parent? : ∀ {n p : Node}, P n → n.parent? = some p → P p
  flags : ∀ {n m : Node}, P n → m ∈ n.flags → P m
  children : ∀ {n m : Node}, P n → m ∈ n.children → P m

namespace Kept

variable {P : Node → Prop}

theorem top (h : Kept P) (hn : P n) : P n.top := by
  induction n using parent_induction with
  | h n ih =>
    cases hp : n.parent? with
    | none =>
      rw [top_of_parent?_none hp]
      exact hn
    | some p =>
      rw [top_of_parent? hp]
      exact ih p hp (h.parent? hn hp)

theorem descendantsOrSelf (h : Kept P) (hn : P n) (hm : m ∈ n.descendantsOrSelf) : P m := by
  induction n using child_induction with
  | h n ih =>
    rw [descendantsOrSelf_eq] at hm
    rcases List.mem_cons.mp hm with rfl | hm
    · exact hn
    · obtain ⟨c, hc, hm⟩ := List.mem_flatMap.mp hm
      exact ih c hc (h.children hn hc) hm

end Kept

/-- Moving does not leave the tree. -/
theorem kept_top (r : Node) : Kept fun n => n.top = r where
  parent? hn hp := (top_of_parent? hp).symm.trans hn
  flags hn hm := by
    obtain ⟨t, -, rfl⟩ := exists_of_mem_flags hm
    rw [top_below, hn]
  children hn hm := by
    obtain ⟨t, -, rfl⟩ := exists_of_mem_children hm
    rw [top_below, hn]

end Node

end TreePath
