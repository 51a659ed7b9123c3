/-
TreePath.Proofs.Tree.Mirror — nodes of a document and their counterparts in a schema.

Where one tree covers another, moving around in the two goes hand in hand: wherever a move leads in
the covered tree, the same move in the other tree leads to a node of the same name and definition.
`Node.Mirrors` relates two nodes that were reached from the roots by such moves; it is kept by every
axis (`Mirrors.parent?`, `Mirrors.top`, `Mirrors.children`, `Mirrors.flags`,
`Mirrors.descendantsOrSelf`).
-/
import TreePath.Proofs.Tree.Cover
import TreePath.Proofs.Tree.Place

namespace TreePath

namespace Node

/-! ## Counterparts -/

/-- Both nodes were reached from the roots of their trees, the second tree being one of the forest,
along nodes of which each one of the second tree covers the one of the first. -/
inductive Mirrors (F : Forest) : Node → Node → Prop where
  | root {id id' : TreeId} {t u : Tree} : F id' = some u → t.CoveredBy u →
      Mirrors F (Node.root id t) (Node.root id' u)
  | under {n m : Node} {t u : Tree} : Mirrors F n m → u ∈ m.here.flags ++ m.here.children →
      t.CoveredBy u → Mirrors F (n.below t) (m.below u)

namespace Mirrors

variable {F : Forest} {n m : Node}

theorem within (h : Mirrors F n m) : m.Within F := by
  induction h with
  | root hu _ => exact .root hu
  | under _ hu _ ih => exact .under ih hu

theorem covered (h : Mirrors F n m) : n.here.CoveredBy m.here := by
  cases h with
  | root _ hcover => exact hcover
  | under _ _ hcover => exact hcover

theorem kind (h : Mirrors F n m) : n.kind = m.kind := h.covered.kind

theorem name (h : Mirrors F n m) : n.name = m.name := h.covered.name

theorem definition (h : Mirrors F n m) : n.definition = m.definition := h.covered.definition

theorem parent? (h : Mirrors F n m) {p : Node} (hp : n.parent? = some p) :
    ∃ q, m.parent? = some q ∧ Mirrors F p q := by
  cases h with
  | root => simp at hp
  | under h _ _ =>
    rw [parent?_below] at hp
    cases hp
    exact ⟨_, parent?_below _ _, h⟩

theorem top (h : Mirrors F n m) : Mirrors F n.top m.top := by
  induction h with
  | root hu hcover => exact .root hu hcover
  | under _ _ _ ih =>
    rw [top_below, top_below]
    exact ih

theorem flags (h : Mirrors F n m) {x : Node} (hx : x ∈ n.flags) :
    ∃ y ∈ m.flags, Mirrors F x y := by
  obtain ⟨t, ht, rfl⟩ := List.mem_map.mp hx
  obtain ⟨u, hu, hcover⟩ := h.covered.flags ht
  exact ⟨m.below u, List.mem_map.mpr ⟨u, hu, rfl⟩,
    .under h (List.mem_append_left _ hu) hcover⟩

theorem children (h : Mirrors F n m) {x : Node} (hx : x ∈ n.children) :
    ∃ y ∈ m.children, Mirrors F x y := by
  obtain ⟨t, ht, rfl⟩ := List.mem_map.mp hx
  obtain ⟨u, hu, hcover⟩ := h.covered.children ht
  exact ⟨m.below u, List.mem_map.mpr ⟨u, hu, rfl⟩,
    .under h (List.mem_append_right _ hu) hcover⟩

theorem descendantsOrSelf (h : Mirrors F n m) {x : Node} (hx : x ∈ n.descendantsOrSelf) :
    ∃ y ∈ m.descendantsOrSelf, Mirrors F x y := by
  induction n using child_induction generalizing m with
  | h n ih =>
    rw [descendantsOrSelf_eq] at hx
    rw [descendantsOrSelf_eq m]
    rcases List.mem_cons.mp hx with rfl | hx
    · exact ⟨m, List.mem_cons_self, h⟩
    · obtain ⟨c, hc, hx⟩ := List.mem_flatMap.mp hx
      obtain ⟨d, hd, hcd⟩ := h.children hc
      obtain ⟨y, hy, hxy⟩ := ih c hc hcd hx
      exact ⟨y, List.mem_cons_of_mem m (List.mem_flatMap.mpr ⟨d, hd, hy⟩), hxy⟩

end Mirrors

end Node

end TreePath
