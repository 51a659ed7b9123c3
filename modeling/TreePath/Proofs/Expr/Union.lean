/-
TreePath.Proofs.Expr.Union — unions over several trees.

The operands of a union can lie in different trees. The union then has the nodes of both, each once
and each tree's in its document order, but there is no order of trees: nodes of different trees are
sorted by their keys, and those with one key stand as the operands brought them. So swapping the
operands can change the union, and the nodes of one tree can be separated by those of another
(`Expr.union_depends_on_order`). What is true of all unions, and when these two things do not
happen, is `Expr.union_of_trees`.
-/
import TreePath.Proofs.Expr.Paths
import TreePath.Proofs.Tree.SeveralTrees

namespace TreePath

open Eval

/-! ## Two rooms -/

namespace Node.Sample

/-- The room itself, in the document with that number. -/
def roomOf (i : Nat) : List Node := (Node.root (.document i) room).children

/-- The item in the room that is on no shelf. -/
def itemOf (i : Nat) : List Node := (roomOf i).flatMap (·.childrenMatching (.name "item"))

/-- A context in which the variables `$a` and `$b` stand for nodes. -/
def withNodes (a b : List Node) : Context :=
  ⟨{ globals := [(.plain "a", a.map .node), (.plain "b", b.map .node)],
     now := (⟨.first, .midnight⟩, .utc) }, Library.registry, true⟩

theorem runIn_a (a b : List Node) (σ : Session) :
    ((Expr.var (.plain "a")).eval (withNodes a b) {}).runIn σ = (.ok (a.map .node), σ) := by
  rw [Expr.eval]
  rfl

theorem runIn_b (a b : List Node) (σ : Session) :
    ((Expr.var (.plain "b")).eval (withNodes a b) {}).runIn σ = (.ok (b.map .node), σ) := by
  rw [Expr.eval]
  rfl

theorem within_roomOf {i : Nat} {n : Node} (h : n ∈ roomOf i) : n.Within rooms :=
  (kept_within rooms).children (.root rfl) h

theorem within_itemOf {i : Nat} {n : Node} (h : n ∈ itemOf i) : n.Within rooms := by
  obtain ⟨m, hm, hn⟩ := List.mem_flatMap.mp h
  exact (kept_within rooms).children (within_roomOf hm) (List.mem_filter.mp hn).1

end Node.Sample

namespace Expr

open Node (ComesBefore InDocumentOrder)

/-- **What a union over several trees is.** The operands give nodes of any trees, in either order of
evaluation. Then both unions succeed, and they have the nodes of both operands and no others. They
are ordered by keys, and where these are equal, by first occurrence in the operands, the left one
first; so no node occurs twice. The nodes of each tree are in its document order, and the same in
both unions. They stand together exactly if no node of another tree comes between two of them in the
order of the union. And the unions are equal exactly if nodes of different trees with one key first
occur in the same order in the operands, whichever of the operands comes first. -/
theorem union_of_trees {F : Forest} (hF : F.Built) {ctx : Context} {s : Scope} {left right : Expr}
    {l r : List Node} {σ σ₁ σ₂ τ τ₁ τ₂ : Session} (hall : ∀ n ∈ l ++ r, n.Within F)
    (hleft : (left.eval ctx s).runIn σ = (.ok (l.map .node), σ₁))
    (hright : (right.eval ctx s).runIn σ₁ = (.ok (r.map .node), σ₂))
    (hright' : (right.eval ctx s).runIn τ = (.ok (r.map .node), τ₁))
    (hleft' : (left.eval ctx s).runIn τ₁ = (.ok (l.map .node), τ₂)) :
    ∃ ns ms : List Node,
      ((union left right).eval ctx s).runIn σ = (.ok (ns.map .node), σ₂) ∧
      ((union right left).eval ctx s).runIn τ = (.ok (ms.map .node), τ₂) ∧
      (∀ n, (n ∈ ns ↔ n ∈ l ∨ n ∈ r) ∧ (n ∈ ms ↔ n ∈ l ∨ n ∈ r)) ∧
      ns.Pairwise (ComesBefore (l ++ r)) ∧ ms.Pairwise (ComesBefore (r ++ l)) ∧
      (∀ id : TreeId, InDocumentOrder (ns.filter (·.tree = id)) ∧
        ms.filter (·.tree = id) = ns.filter (·.tree = id) ∧
        (Together (fun n : Node => n.tree = id) ns ↔
          ∀ a ∈ l ++ r, ∀ b ∈ l ++ r, ∀ c ∈ l ++ r, a.tree = id → b.tree ≠ id → c.tree = id →
            ComesBefore (l ++ r) a b → ¬ ComesBefore (l ++ r) b c)) ∧
      (ns = ms ↔
        ∀ a ∈ l ++ r, ∀ b ∈ l ++ r, a.tree ≠ b.tree → a.orderKey = b.orderKey →
          a.firstIn (l ++ r) < b.firstIn (l ++ r) → a.firstIn (r ++ l) < b.firstIn (r ++ l)) := by
  have hswap : ∀ n, n ∈ l ++ r ↔ n ∈ r ++ l := fun n => by
    rw [List.mem_append, List.mem_append, or_comm]
  have hall' : ∀ n ∈ r ++ l, n.Within F := fun n hn => hall n ((hswap n).mpr hn)
  have hmem : ∀ n, n ∈ Node.sorted (l ++ r) ↔ n ∈ l ++ r := fun n => Node.mem_sorted_iff hF hall
  have hmem' : ∀ n, n ∈ Node.sorted (r ++ l) ↔ n ∈ l ++ r := fun n => by
    rw [Node.mem_sorted_iff hF hall', hswap]
  refine ⟨Node.sorted (l ++ r), Node.sorted (r ++ l),
    runIn_union.mpr ⟨l, r, σ₁, hleft, hright, rfl⟩,
    runIn_union.mpr ⟨r, l, τ₁, hright', hleft', rfl⟩, fun n => ?_, Node.pairwise_sorted _,
    Node.pairwise_sorted _, fun id => ⟨?_, ?_, Node.together_sorted_iff hF hall id⟩,
    Node.sorted_eq_iff hF hall hswap⟩
  · rw [hmem, hmem', List.mem_append]
    exact ⟨Iff.rfl, Iff.rfl⟩
  · exact Node.inDocumentOrder_filter_sorted hF hall id
  · refine (Node.inDocumentOrder_filter_sorted hF hall' id).eq_of_mem_iff
      (Node.inDocumentOrder_filter_sorted hF hall id) fun n => ?_
    rw [List.mem_filter, List.mem_filter, hmem, hmem']

open Node.Sample in
/-- Two rooms have one key, so they stand as the operands bring them; and as both come before an
item in one of them, a room can be separated from its item by the other room. -/
theorem union_depends_on_order :
    ∃ ns ms : List Node,
      ((union (.var (.plain "a")) (.var (.plain "b"))).eval
        (withNodes (roomOf 0 ++ itemOf 0) (roomOf 1)) {}).runIn {} = (.ok (ns.map .node), {}) ∧
      ((union (.var (.plain "b")) (.var (.plain "a"))).eval
        (withNodes (roomOf 0 ++ itemOf 0) (roomOf 1)) {}).runIn {} = (.ok (ms.map .node), {}) ∧
      ns.map (fun n => (n.tree, n.path)) = [(.document 0, "/room[1]"), (.document 1, "/room[1]"),
        (.document 0, "/room[1]/item[1]")] ∧
      ms.map (fun n => (n.tree, n.path)) = [(.document 1, "/room[1]"), (.document 0, "/room[1]"),
        (.document 0, "/room[1]/item[1]")] ∧
      ns ≠ ms ∧ ¬ Together (fun n : Node => n.tree = .document 0) ns := by
  have hns : (Node.sorted ((roomOf 0 ++ itemOf 0) ++ roomOf 1)).map (fun n => (n.tree, n.path))
      = [(.document 0, "/room[1]"), (.document 1, "/room[1]"),
        (.document 0, "/room[1]/item[1]")] := by cbv
  have hms : (Node.sorted (roomOf 1 ++ (roomOf 0 ++ itemOf 0))).map (fun n => (n.tree, n.path))
      = [(.document 1, "/room[1]"), (.document 0, "/room[1]"),
        (.document 0, "/room[1]/item[1]")] := by cbv
  have hwithin : ∀ n ∈ (roomOf 0 ++ itemOf 0) ++ roomOf 1, n.Within rooms := by
    simp only [List.forall_mem_append]
    exact ⟨⟨fun _ => within_roomOf, fun _ => within_itemOf⟩, fun _ => within_roomOf⟩
  refine ⟨_, _, runIn_union.mpr ⟨_, _, {}, runIn_a _ _ {}, runIn_b _ _ {}, rfl⟩,
    runIn_union.mpr ⟨_, _, {}, runIn_b _ _ {}, runIn_a _ _ {}, rfl⟩, hns, hms, fun heq => ?_,
    fun htogether => ?_⟩
  · rw [heq, hms] at hns
    revert hns
    decide
  · have hbetween := (Node.together_sorted_iff built_rooms hwithin _).mp htogether
    have hsorted := Node.pairwise_sorted ((roomOf 0 ++ itemOf 0) ++ roomOf 1)
    have hmem : ∀ n ∈ Node.sorted ((roomOf 0 ++ itemOf 0) ++ roomOf 1),
        n ∈ (roomOf 0 ++ itemOf 0) ++ roomOf 1 := fun _ => Node.mem_of_mem_sorted
    generalize Node.sorted ((roomOf 0 ++ itemOf 0) ++ roomOf 1) = ns at hns hsorted hmem
    obtain ⟨a, _, rfl, ha, hns⟩ := List.map_eq_cons_iff.mp hns
    obtain ⟨b, _, rfl, hb, hns⟩ := List.map_eq_cons_iff.mp hns
    obtain ⟨c, _, rfl, hc, -⟩ := List.map_eq_cons_iff.mp hns
    obtain ⟨hfirst, hrest⟩ := List.pairwise_cons.mp hsorted
    refine hbetween a (hmem a (by simp)) b (hmem b (by simp)) c (hmem c (by simp))
      (congrArg Prod.fst ha) ?_ (congrArg Prod.fst hc) (hfirst b (by simp))
      ((List.pairwise_cons.mp hrest).1 c (by simp))
    rw [show b.tree = .document 1 from congrArg Prod.fst hb]
    decide

open Node.Sample in
/-- A room comes before an item in the other room, whichever of them the union names first. -/
theorem union_of_trees_of_rooms :
    ∃ ns : List Node,
      ((union (.var (.plain "a")) (.var (.plain "b"))).eval
        (withNodes (itemOf 0) (roomOf 1)) {}).runIn {} = (.ok (ns.map .node), {}) ∧
      ((union (.var (.plain "b")) (.var (.plain "a"))).eval
        (withNodes (itemOf 0) (roomOf 1)) {}).runIn {} = (.ok (ns.map .node), {}) ∧
      ∀ n, n ∈ ns ↔ n ∈ itemOf 0 ∨ n ∈ roomOf 1 := by
  have hwithin : ∀ n ∈ itemOf 0 ++ roomOf 1, n.Within rooms :=
    List.forall_mem_append.mpr ⟨fun _ => within_itemOf, fun _ => within_roomOf⟩
  have hkeys : (itemOf 0 ++ roomOf 1).map (fun n => (n.orderKey, n.tree))
      = [([(1, 1), (1, 1)], .document 0), ([(1, 1)], .document 1)] := by cbv
  have hties : ∀ a ∈ itemOf 0 ++ roomOf 1, ∀ b ∈ itemOf 0 ++ roomOf 1,
      a.orderKey = b.orderKey → a.tree = b.tree := by
    intro a ha b hb
    have hpairs : ∀ p ∈ (itemOf 0 ++ roomOf 1).map (fun n => (n.orderKey, n.tree)),
        ∀ q ∈ (itemOf 0 ++ roomOf 1).map (fun n => (n.orderKey, n.tree)),
          p.1 = q.1 → p.2 = q.2 := by
      rw [hkeys]
      decide
    exact hpairs _ (List.mem_map_of_mem ha) _ (List.mem_map_of_mem hb)
  obtain ⟨ns, ms, hunion, hunion', hmem, -, -, -, hsame⟩ :=
    union_of_trees built_rooms hwithin (runIn_a _ _ {}) (runIn_b _ _ {}) (runIn_b _ _ {})
      (runIn_a _ _ {})
  obtain rfl : ns = ms := hsame.mpr fun a ha b hb htree hkey =>
    absurd (hties a ha b hb hkey) htree
  exact ⟨ns, hunion, hunion', fun n => (hmem n).1⟩

end Expr

end TreePath
