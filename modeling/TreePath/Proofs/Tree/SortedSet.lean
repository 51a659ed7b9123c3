/-
TreePath.Proofs.Tree.SortedSet — sets of nodes in document order.

A sorted set keeps one of the nodes at each place and sorts what is left by the keys. Nodes of one
built tree have different keys (`Node.Within.eq_of_orderKey_eq`), so in such a set the keys increase
strictly (`Node.inDocumentOrder_sorted`), and the set is determined by the nodes in it
(`Node.InDocumentOrder.eq_of_mem_iff`).
-/
import TreePath.Proofs.Tree.DocumentOrder
import Mathlib.Data.List.Sort

namespace TreePath.Node

variable {F : Forest} {id : TreeId} {nodes nodes' : List Node}

/-- The key of the first node is the smaller one. -/
def Precedes (a b : Node) : Prop := compareKeys a.orderKey b.orderKey = .lt

instance : Std.Irrefl Precedes where
  irrefl a h := by
    rw [Precedes, compareKeys_self] at h
    cases h

instance : Std.Antisymm Precedes where
  antisymm a b h h' := by
    rw [Precedes] at h h'
    rw [Std.OrientedCmp.gt_of_lt h] at h'
    cases h'

/-- The keys increase strictly. -/
def InDocumentOrder (nodes : List Node) : Prop := nodes.Pairwise Precedes

/-- Lists in document order with the same nodes are equal. -/
theorem InDocumentOrder.eq_of_mem_iff (h : InDocumentOrder nodes) (h' : InDocumentOrder nodes')
    (hmem : ∀ m, m ∈ nodes ↔ m ∈ nodes') : nodes = nodes' :=
  List.Pairwise.eq_of_mem_iff h h' hmem

/-! ## One node per place -/

theorem same_comm (a b : Node) : a.same b = b.same a := by
  rw [same, same, Bool.beq_comm, Bool.beq_comm (a := a.address)]

/-- No two of the nodes kept are at one place. -/
theorem pairwise_distinct (nodes : List Node) :
    (distinct nodes).Pairwise fun a b => a.same b = false := by
  have hfold : ∀ (nodes kept : List Node), kept.Pairwise (fun a b => a.same b = false) →
      (nodes.foldl (fun kept n => if kept.any n.same then kept else n :: kept) kept).Pairwise
        fun a b => a.same b = false := by
    intro nodes
    induction nodes with
    | nil => exact fun _ h => h
    | cons n rest ih =>
      intro kept h
      refine ih _ ?_
      show (if kept.any n.same then kept else n :: kept).Pairwise _
      split
      · exact h
      · rename_i hany
        refine List.pairwise_cons.mpr ⟨fun k hk => ?_, h⟩
        by_contra hsame
        exact hany (List.any_eq_true.mpr ⟨k, hk, by simpa using hsame⟩)
  refine List.pairwise_reverse.mpr ((hfold nodes [] List.Pairwise.nil).imp ?_)
  intro a b h
  rw [same_comm]
  exact h

/-! ## Sorting -/

theorem precedesOrSame_iff {a b : Node} :
    precedesOrSame a b = true ↔ (compareKeys a.orderKey b.orderKey).isLE = true := by
  rw [precedesOrSame]
  cases compareKeys a.orderKey b.orderKey <;> decide

theorem precedesOrSame_trans (a b c : Node) (hab : precedesOrSame a b = true)
    (hbc : precedesOrSame b c = true) : precedesOrSame a c = true := by
  rw [precedesOrSame_iff] at hab hbc ⊢
  exact Std.TransCmp.isLE_trans hab hbc

theorem precedesOrSame_total (a b : Node) : (precedesOrSame a b || precedesOrSame b a) = true := by
  rw [Bool.or_eq_true, precedesOrSame_iff, precedesOrSame_iff]
  by_cases h : (compareKeys a.orderKey b.orderKey).isLE = true
  · exact .inl h
  · exact .inr (Ordering.isLE_of_eq_lt (Std.OrientedCmp.lt_of_not_isLE h))

theorem pairwise_precedesOrSame (nodes : List Node) :
    (nodes.mergeSort precedesOrSame).Pairwise fun a b => precedesOrSame a b = true :=
  List.pairwise_mergeSort precedesOrSame_trans precedesOrSame_total nodes

theorem mem_sorted_iff (hF : F.Built) (hall : ∀ k ∈ nodes, k.Within F) {m : Node} :
    m ∈ sorted nodes ↔ m ∈ nodes :=
  ⟨mem_of_mem_sorted, mem_sorted_of_mem hF hall⟩

theorem pairwise_not_same_sorted (nodes : List Node) :
    (sorted nodes).Pairwise fun a b => a.same b = false :=
  ((List.mergeSort_perm _ _).pairwise_iff fun {a b} h => by rw [same_comm]; exact h).mpr
    (pairwise_distinct nodes)

/-- **A set of nodes of one tree is in document order.** -/
theorem inDocumentOrder_sorted (hF : F.Built) (hall : ∀ k ∈ nodes, k.Within (F.only id)) :
    InDocumentOrder (sorted nodes) := by
  have hpairs := (pairwise_not_same_sorted nodes).and (pairwise_precedesOrSame (distinct nodes))
  refine hpairs.imp_of_mem ?_
  intro a b ha hb h
  have ha := hall a (mem_of_mem_sorted ha)
  have hb := hall b (mem_of_mem_sorted hb)
  have hle := precedesOrSame_iff.mp h.2
  show compareKeys a.orderKey b.orderKey = .lt
  cases hcompare : compareKeys a.orderKey b.orderKey with
  | lt => rfl
  | gt =>
    rw [hcompare] at hle
    cases hle
  | eq =>
    -- one key means one place
    have hkey := Std.LawfulEqCmp.eq_of_compare hcompare
    have heq := ha.eq_of_orderKey_eq (hF.only id) hb (ha.tree_eq.trans hb.tree_eq.symm) hkey
    rw [heq, same] at h
    simp at h

end TreePath.Node
