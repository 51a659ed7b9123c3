/-
TreePath.Proofs.Expr.Paths — what paths and unions give.

A path evaluates its step once in each of the scopes that the nodes of its base open up
(`Eval.pathScopes`), one scope after another in one session, and puts the results together
(`Expr.runIn_path`). Inside one tree nothing is lost by that: a path has exactly the items that its
step gives, and if they are nodes, they are in document order and none of them occurs twice. A union
is the path from its two operands to themselves (`Expr.path_union_ordered`).
-/
import TreePath.Proofs.Expr.Navigation
import TreePath.Proofs.Session.Staying
import TreePath.Proofs.Tree.SortedSet
import Mathlib.Data.Set.List

namespace TreePath

open Eval
open Sequence (AllItems)

namespace Eval

/-! ## Collecting -/

section Collect

variable {α β γ : Type}

theorem collect_eq (f : α → Eval (List β)) (l : List α) :
    collect f l = do return (← l.mapM f).flatten := by
  induction l with
  | nil => simp [collect]
  | cons a rest ih => simp [collect, ih, List.mapM_cons]

theorem collect_append (f : α → Eval (List β)) (l l' : List α) :
    collect f (l ++ l') = do return (← collect f l) ++ (← collect f l') := by
  simp [collect_eq, List.mapM_append]

theorem collect_flatMap (f : β → Eval (List γ)) (g : α → List β) (l : List α) :
    collect f (l.flatMap g) = collect (fun a => collect f (g a)) l := by
  induction l with
  | nil => rfl
  | cons a rest ih => rw [List.flatMap_cons, collect_append, collect, ih]

/-- Where collecting succeeds it has succeeded for every element. -/
theorem exists_of_runIn_collect {f : α → Eval (List β)} :
    ∀ {l : List α} {s s' : Session} {r : List β}, (collect f l).runIn s = (.ok r, s') →
      ∀ a ∈ l, ∃ t t' q, (f a).runIn t = (.ok q, t')
  | [], _, _, _, _, a, ha => absurd ha List.not_mem_nil
  | b :: rest, s, s', r, h, a, ha => by
      rw [collect] at h
      obtain ⟨first, s₁, hfirst, h⟩ := runIn_bind_eq_ok.mp h
      obtain ⟨others, s₂, hothers, -⟩ := runIn_bind_eq_ok.mp h
      rcases List.mem_cons.mp ha with rfl | ha
      · exact ⟨s, s₁, first, hfirst⟩
      · exact exists_of_runIn_collect hothers a ha

end Collect

/-! ## Sequences of nodes -/

theorem exists_eq_map_node {s : Sequence} (h : ∀ i ∈ s, ∃ n, Item.node n = i) :
    ∃ nodes : List Node, nodes.map .node = s :=
  (Set.ext_iff.mp (Set.range_list_map Item.node) s).mpr h

theorem map_node_injective {nodes nodes' : List Node}
    (h : nodes.map Item.node = nodes'.map Item.node) : nodes = nodes' :=
  (List.map_inj_right fun _ _ h => Item.node.inj h).mp h

theorem length_filterMap_node?_le (s : Sequence) : (s.filterMap Item.node?).length ≤ s.length :=
  List.length_filterMap_le _ _

/-- A sequence that is as long as its nodes has nothing else. -/
theorem exists_node_of_length_eq {s : Sequence} (h : (s.filterMap Item.node?).length = s.length) :
    ∀ i ∈ s, ∃ n, Item.node n = i := by
  induction s with
  | nil => exact fun _ hi => absurd hi List.not_mem_nil
  | cons i rest ih =>
    cases i with
    | atomic v =>
      have hle := length_filterMap_node?_le rest
      simp only [List.filterMap_cons, Item.node?, List.length_cons] at h
      omega
    | node n =>
      simp only [List.filterMap_cons, Item.node?, List.length_cons, Nat.add_right_cancel_iff] at h
      exact List.forall_mem_cons.mpr ⟨⟨n, rfl⟩, ih h⟩

/-- The result of a path is a sorted set, or a sequence of values that is not empty. -/
theorem pathResult_eq_ok {q r : Sequence} (h : pathResult q = .ok r) :
    (∃ nodes : List Node, q = nodes.map .node ∧ r = nodeSet nodes) ∨
      (r = q ∧ q ≠ [] ∧ ∀ i ∈ q, ∃ v, Item.atomic v = i) := by
  rw [pathResult] at h
  split at h
  · rename_i hlength
    obtain ⟨nodes, rfl⟩ := exists_eq_map_node (exists_node_of_length_eq hlength)
    rw [filterMap_node?] at h
    cases h
    exact .inl ⟨nodes, rfl, rfl⟩
  · rename_i hlength
    split at h
    · rename_i hempty
      cases h
      refine .inr ⟨rfl, fun hnil => hlength (by rw [hnil]; rfl), fun i hi => ?_⟩
      cases i with
      | atomic v => exact ⟨v, rfl⟩
      | node n =>
        have hmem : n ∈ q.filterMap Item.node? := List.mem_filterMap.mpr ⟨_, hi, rfl⟩
        rw [List.isEmpty_iff.mp hempty] at hmem
        exact absurd hmem List.not_mem_nil
    · cases h

theorem pathResult_values {q : Sequence} (h : ∀ i ∈ q, ∃ v, Item.atomic v = i) :
    ∃ r, pathResult q = .ok r := by
  have hnone : q.filterMap Item.node? = [] := by
    refine List.filterMap_eq_nil_iff.mpr fun i hi => ?_
    obtain ⟨v, rfl⟩ := h i hi
    rfl
  rw [pathResult, hnone]
  split
  · exact ⟨_, rfl⟩
  · exact ⟨_, rfl⟩

theorem unionNodes_eq_ok {q : Sequence} {nodes : List Node} (h : unionNodes q = .ok nodes) :
    q = nodes.map .node := by
  induction q generalizing nodes with
  | nil =>
    cases h
    rfl
  | cons i rest ih =>
    rw [unionNodes, List.mapM_cons] at h
    cases i with
    | atomic v => cases h
    | node n =>
      cases hrest : unionNodes rest with
      | error e =>
        rw [unionNodes] at hrest
        rw [hrest] at h
        cases h
      | ok found =>
        have hih := ih hrest
        rw [unionNodes] at hrest
        rw [hrest] at h
        cases h
        rw [hih]
        rfl

/-! ## The scopes of a path -/

/-- The scopes in which the step of a path is evaluated: for each node of the base the node itself,
with its place among all of them, or its descendants too, each with its place among these. -/
def pathScopes (s : Scope) (descendant : Bool) (nodes : List Node) : List Scope :=
  nodes.zipIdx.flatMap fun (n, i) =>
    if descendant then
      n.descendantsOrSelf.zipIdx.map fun (m, j) =>
        s.onItem (.node m) (j + 1) n.descendantsOrSelf.length
    else [s.onItem (.node n) (i + 1) nodes.length]

/-- The step is evaluated at the nodes themselves, or at all their descendants. -/
theorem exists_of_mem_pathScopes {s scope : Scope} {descendant : Bool} {nodes : List Node}
    (h : scope ∈ pathScopes s descendant nodes) :
    ∃ n ∈ nodes, ∃ m ∈ Expr.starts descendant n, ∃ position size,
      scope = s.onItem (.node m) position size := by
  obtain ⟨⟨n, i⟩, hn, h⟩ := List.mem_flatMap.mp h
  refine ⟨n, List.fst_mem_of_mem_zipIdx hn, ?_⟩
  cases descendant with
  | true =>
    obtain ⟨⟨m, j⟩, hm, rfl⟩ := List.mem_map.mp h
    exact ⟨m, List.fst_mem_of_mem_zipIdx hm, _, _, rfl⟩
  | false => exact ⟨n, List.mem_singleton_self n, _, _, List.mem_singleton.mp h⟩

theorem exists_mem_pathScopes (s : Scope) {descendant : Bool} {nodes : List Node} {n m : Node}
    (hn : n ∈ nodes) (hm : m ∈ Expr.starts descendant n) :
    ∃ position size, s.onItem (.node m) position size ∈ pathScopes s descendant nodes := by
  obtain ⟨i, hi⟩ := List.getElem?_of_mem hn
  have hni : (n, i) ∈ nodes.zipIdx := List.mk_mem_zipIdx_iff_getElem?.mpr hi
  cases descendant with
  | true =>
    obtain ⟨j, hj⟩ := List.getElem?_of_mem (l := n.descendantsOrSelf) hm
    exact ⟨_, _, List.mem_flatMap.mpr ⟨_, hni, List.mem_map.mpr
      ⟨(m, j), List.mk_mem_zipIdx_iff_getElem?.mpr hj, rfl⟩⟩⟩
  | false =>
    rw [List.mem_singleton.mp hm]
    exact ⟨_, _, List.mem_flatMap.mpr ⟨_, hni, List.mem_singleton_self _⟩⟩

/-- The context items are the nodes themselves, or all their descendants. -/
theorem contextItems_pathScopes (s : Scope) (descendant : Bool) (nodes : List Node) :
    ((pathScopes s descendant nodes).map fun scope => scope.focus.map (·.item))
      = ((nodes.flatMap (Expr.starts descendant)).map Item.node).map some := by
  rw [pathScopes, List.map_map, List.map_flatMap, List.map_flatMap,
    ← flatMap_zipIdx (fun n => (Expr.starts descendant n).map (some ∘ Item.node)) nodes]
  refine List.flatMap_congr ?_
  rintro ⟨n, i⟩ -
  cases descendant with
  | false => rfl
  | true =>
    simp only [if_true, List.map_map, Expr.starts]
    conv_rhs => rw [← List.zipIdx_map_fst 0 n.descendantsOrSelf, List.map_map]
    rfl

/-- For nodes, opening scopes and evaluating in them item by item is evaluating in all of them. -/
theorem collect_scopes (next : Scope → Eval Sequence) (s : Scope) (descendant : Bool)
    (nodes : List Node) :
    (collect (fun (i, k) => do
        collect next (← ofResult (stepScopes s descendant i (k + 1) nodes.length)))
      (nodes.map Item.node).zipIdx) = collect next (pathScopes s descendant nodes) := by
  rw [pathScopes, collect_flatMap, List.zipIdx_map, collect_map]
  refine congrArg (collect · nodes.zipIdx) (funext fun ⟨n, k⟩ => ?_)
  cases descendant <;> rfl

end Eval

namespace Expr

variable {ctx : Context} {s : Scope} {σ σ' : Session}

/-- **A path evaluates its base, then its step in every scope, and puts the results together.** -/
theorem runIn_path {base next : Expr} {descendant : Bool} {r : Sequence} :
    ((Expr.path base next descendant).eval ctx s).runIn σ = (.ok r, σ') ↔
      ∃ nodes σ₁ found, (base.eval ctx s).runIn σ = (.ok (nodes.map .node), σ₁) ∧
        ((pathScopes s descendant nodes).mapM fun scope => next.eval ctx scope).runIn σ₁
          = (.ok found, σ') ∧
        pathResult found.flatten = .ok r := by
  rw [eval]
  constructor
  · intro h
    obtain ⟨items, σ₁, hbase, h⟩ := runIn_bind_eq_ok.mp h
    obtain ⟨q, σ₂, hcollect, h⟩ := runIn_bind_eq_ok.mp h
    rw [runIn_ofResult, Prod.mk.injEq] at h
    obtain ⟨hresult, rfl⟩ := h
    -- a value in the base would have been an error
    have hnodes : ∀ i ∈ items, ∃ n, Item.node n = i := by
      intro i hi
      obtain ⟨k, hk⟩ := List.getElem?_of_mem hi
      obtain ⟨t, t', q', hstep⟩ := exists_of_runIn_collect hcollect (i, k)
        (List.mk_mem_zipIdx_iff_getElem?.mpr hk)
      cases i with
      | node n => exact ⟨n, rfl⟩
      | atomic v =>
        obtain ⟨_, hscopes, -⟩ := runIn_bind_ofResult_eq_ok.mp hstep
        cases hscopes
    obtain ⟨nodes, rfl⟩ := exists_eq_map_node hnodes
    rw [List.length_map, collect_scopes, collect_eq] at hcollect
    obtain ⟨found, σ₃, hfound, hq⟩ := runIn_bind_eq_ok.mp hcollect
    cases hq
    exact ⟨nodes, σ₁, found, hbase, hfound, hresult⟩
  · rintro ⟨nodes, σ₁, found, hbase, hfound, hresult⟩
    refine runIn_bind_eq_ok.mpr ⟨_, _, hbase, ?_⟩
    simp only [List.length_map]
    rw [collect_scopes, collect_eq]
    refine runIn_bind_eq_ok.mpr ⟨found.flatten, σ', ?_, ?_⟩
    · exact runIn_bind_eq_ok.mpr ⟨found, σ', hfound, rfl⟩
    · rw [runIn_ofResult, hresult]

theorem runIn_union {left right : Expr} {r : Sequence} :
    ((Expr.union left right).eval ctx s).runIn σ = (.ok r, σ') ↔
      ∃ nodes nodes' σ₁, (left.eval ctx s).runIn σ = (.ok (nodes.map .node), σ₁) ∧
        (right.eval ctx s).runIn σ₁ = (.ok (nodes'.map .node), σ') ∧
        r = nodeSet (nodes ++ nodes') := by
  rw [eval]
  constructor
  · intro h
    obtain ⟨q, σ₁, hleft, h⟩ := runIn_bind_eq_ok.mp h
    obtain ⟨nodes, hnodes, h⟩ := runIn_bind_ofResult_eq_ok.mp h
    obtain ⟨q', σ₂, hright, h⟩ := runIn_bind_eq_ok.mp h
    obtain ⟨nodes', hnodes', h⟩ := runIn_bind_ofResult_eq_ok.mp h
    cases h
    rw [unionNodes_eq_ok hnodes] at hleft
    rw [unionNodes_eq_ok hnodes'] at hright
    exact ⟨nodes, nodes', σ₁, hleft, hright, rfl⟩
  · rintro ⟨nodes, nodes', σ₁, hleft, hright, rfl⟩
    refine runIn_bind_eq_ok.mpr ⟨_, _, hleft, ?_⟩
    refine runIn_bind_ofResult_eq_ok.mpr ⟨nodes, unionNodes_nodes nodes, ?_⟩
    refine runIn_bind_eq_ok.mpr ⟨_, _, hright, ?_⟩
    exact runIn_bind_ofResult_eq_ok.mpr ⟨nodes', unionNodes_nodes nodes', rfl⟩

/-- The context items of scopes, one after another. -/
theorem runIn_mapM_contextItem {scopes : List Scope} {items : List Item}
    (h : scopes.map (fun scope => scope.focus.map (·.item)) = items.map some) :
    (scopes.mapM fun scope => Expr.contextItem.eval ctx scope).runIn σ
      = (.ok (items.map fun i => [i]), σ) := by
  induction scopes generalizing items with
  | nil =>
    rw [List.map_nil, eq_comm, List.map_eq_nil_iff] at h
    rw [h]
    rfl
  | cons scope rest ih =>
    cases items with
    | nil => cases h
    | cons i items =>
      obtain ⟨hitem, hrest⟩ := List.cons_eq_cons.mp h
      have hcontext : Eval.contextItem scope = .ok i := by
        obtain ⟨f, hf, rfl⟩ := Option.map_eq_some_iff.mp hitem
        rw [Eval.contextItem, hf]
      have hscope : (Expr.contextItem.eval ctx scope).runIn σ = (.ok [i], σ) := by
        rw [eval, hcontext]
        rfl
      rw [List.mapM_cons, runIn_bind_ok hscope, runIn_bind_ok (ih hrest)]
      rfl

/-- **A union that succeeds is the path from both operands to themselves.** -/
theorem runIn_path_of_union {left right : Expr} {r : Sequence}
    (h : ((Expr.union left right).eval ctx s).runIn σ = (.ok r, σ')) :
    ((Expr.path (.sequence [left, right]) .contextItem false).eval ctx s).runIn σ
      = (.ok r, σ') := by
  obtain ⟨nodes, nodes', σ₁, hleft, hright, rfl⟩ := runIn_union.mp h
  have hbase : ((Expr.sequence [left, right]).eval ctx s).runIn σ
      = (.ok ((nodes ++ nodes').map .node), σ') := by
    rw [eval, evalAll, evalAll, evalAll, List.map_append]
    refine runIn_bind_eq_ok.mpr ⟨[nodes.map .node, nodes'.map .node], σ', ?_, by simp⟩
    refine runIn_bind_eq_ok.mpr ⟨_, _, hleft, ?_⟩
    exact runIn_bind_eq_ok.mpr ⟨_, _, runIn_bind_eq_ok.mpr ⟨_, _, hright, rfl⟩, rfl⟩
  have hstarts : (nodes ++ nodes').flatMap (starts false) = nodes ++ nodes' :=
    List.flatMap_singleton' _
  have hitems := contextItems_pathScopes s false (nodes ++ nodes')
  rw [hstarts] at hitems
  refine runIn_path.mpr ⟨_, _, _, hbase, runIn_mapM_contextItem hitems, ?_⟩
  have hflat : (((nodes ++ nodes').map Item.node).map fun i => [i]).flatten
      = (nodes ++ nodes').map .node := by
    rw [← List.flatMap_def, List.flatMap_singleton']
  rw [hflat, pathResult_nodes]

end Expr

/-! ## Inside one tree -/

section Tree

variable {F : Forest} {id : TreeId} {Valid : Session → Prop} {ctx : Context} {s : Scope}
  {σ σ' : Session}

namespace Eval

theorem known_of_mem_pathScopes {P : Item → Prop} {env : Environment} (hP : Realm env P)
    (hs : s.Known P) {descendant : Bool} {nodes : List Node}
    (hnodes : AllItems P (nodes.map .node)) :
    ∀ scope ∈ pathScopes s descendant nodes, scope.Known P := by
  intro scope h
  obtain ⟨n, hn, m, hm, position, size, rfl⟩ := exists_of_mem_pathScopes h
  have hn : P (.node n) := hnodes _ (List.mem_map.mpr ⟨n, hn, rfl⟩)
  exact hs.onItem (Expr.kept_of_mem_starts hP.moves hn hm) position size

theorem within_of_allItems {nodes : List Node}
    (h : AllItems (Supply.ofTree F id).HasItem (nodes.map .node)) :
    ∀ n ∈ nodes, n.Within (F.only id) :=
  fun n hn => h (.node n) (List.mem_map.mpr ⟨n, hn, rfl⟩)

/-- A set of nodes of one tree has all nodes that it is made from. -/
theorem mem_nodeSet_iff (hF : F.Built) {nodes : List Node}
    (hall : ∀ n ∈ nodes, n.Within (F.only id)) {i : Item} :
    i ∈ nodeSet nodes ↔ i ∈ nodes.map .node := by
  simp only [nodeSet, List.mem_map, Node.mem_sorted_iff (hF.only id) hall]

/-- The result of a path has the items that it is made from. -/
theorem mem_pathResult_iff (hF : F.Built) {q r : Sequence}
    (hq : AllItems (Supply.ofTree F id).HasItem q) (h : pathResult q = .ok r) {i : Item} :
    i ∈ r ↔ i ∈ q := by
  obtain ⟨nodes, rfl, rfl⟩ | ⟨rfl, -, -⟩ := pathResult_eq_ok h
  · exact mem_nodeSet_iff hF (within_of_allItems hq)
  · exact Iff.rfl

/-- Nodes that a path gives are a sorted set. -/
theorem exists_sorted_of_pathResult {q : Sequence} {ns : List Node}
    (h : pathResult q = .ok (ns.map .node)) :
    ∃ nodes : List Node, q = nodes.map .node ∧ ns = Node.sorted nodes := by
  obtain ⟨nodes, hq, hr⟩ | ⟨hr, hne, hvalues⟩ := pathResult_eq_ok h
  · exact ⟨nodes, hq, map_node_injective hr⟩
  · obtain ⟨i, rest, rfl⟩ := List.exists_cons_of_ne_nil hne
    obtain ⟨v, rfl⟩ := hvalues i List.mem_cons_self
    cases ns <;> cases hr

end Eval

namespace Expr

/-- Steps evaluated in scopes of one tree stay in the tree. -/
theorem mapM_keeps {P : Item → Prop} (hctx : ctx.Keeps P Valid) {e : Expr} {scopes : List Scope}
    (hscopes : ∀ scope ∈ scopes, scope.Known P) (hlit : ∀ v ∈ e.literals, P (.atomic v))
    (hσ : Valid σ) {found : List Sequence}
    (h : (scopes.mapM fun scope => e.eval ctx scope).runIn σ = (.ok found, σ')) :
    ∀ q ∈ found, AllItems P q := by
  obtain ⟨-, -, hfound⟩ := Related.mapM (fun scope hscope =>
    e.eval_related hctx.matches (.refl hctx.matches scope) (hscopes scope hscope) hlit)
    σ σ ⟨rfl, hσ⟩
  exact hfound found (congrArg Prod.fst h)

/-- **Paths and unions give ordered sets.** Where the focus, the variables and what functions make
of them stay in one tree: if the result of a path is made of nodes, they are in document order and
no node occurs twice. A path has exactly the items that its step gives at the nodes of its base, or
at all their descendants. A union is in document order without duplicates, and it is what the path
from its operands to the context item gives. -/
theorem path_union_ordered (hF : F.Built) (hctx : ctx.Keeps (Supply.ofTree F id).HasItem Valid)
    (hs : s.Known (Supply.ofTree F id).HasItem) (hσ : Valid σ) :
    (∀ (base next : Expr) (descendant : Bool) (r : Sequence) (σ' : Session),
      ((Expr.path base next descendant).eval ctx s).runIn σ = (.ok r, σ') →
        (∀ ns : List Node, r = ns.map .node →
          Node.InDocumentOrder ns ∧ ns.Pairwise fun a b => a.same b = false) ∧
        ∃ nodes σ₁ found, (base.eval ctx s).runIn σ = (.ok (nodes.map .node), σ₁) ∧
          ((pathScopes s descendant nodes).mapM fun scope => next.eval ctx scope).runIn σ₁
            = (.ok found, σ') ∧
          ∀ i, i ∈ r ↔ ∃ q ∈ found, i ∈ q) ∧
    ∀ (left right : Expr) (r : Sequence) (σ' : Session),
      ((Expr.union left right).eval ctx s).runIn σ = (.ok r, σ') →
        (∃ ns : List Node, r = ns.map .node ∧ Node.InDocumentOrder ns ∧
          ns.Pairwise fun a b => a.same b = false) ∧
        ((Expr.path (.sequence [left, right]) .contextItem false).eval ctx s).runIn σ
          = (.ok r, σ') := by
  have hlit : ∀ e : Expr, ∀ v ∈ e.literals, (Supply.ofTree F id).HasItem (.atomic v) :=
    fun _ v _ => Supply.hasItem_ofTree_atomic F id v
  refine ⟨fun base next descendant r σ' h => ?_, fun left right r σ' h => ?_⟩
  · obtain ⟨nodes, σ₁, found, hbase, hfound, hresult⟩ := runIn_path.mp h
    have hkeeps := base.eval_keeps hctx hs (hlit base) hσ
    rw [hbase] at hkeeps
    obtain ⟨hσ₁, hnodes⟩ := hkeeps
    have hscopes : ∀ scope ∈ pathScopes s descendant nodes,
        scope.Known (Supply.ofTree F id).HasItem :=
      known_of_mem_pathScopes hctx.realm hs (hnodes _ rfl)
    have hitems := mapM_keeps hctx hscopes (hlit next) hσ₁ hfound
    have hflat : AllItems (Supply.ofTree F id).HasItem found.flatten := by
      intro i hi
      obtain ⟨q, hq, hi⟩ := List.mem_flatten.mp hi
      exact hitems q hq i hi
    refine ⟨?_, nodes, σ₁, found, hbase, hfound, fun i => ?_⟩
    · rintro ns rfl
      obtain ⟨nodes', hnodes', rfl⟩ := exists_sorted_of_pathResult hresult
      rw [hnodes'] at hflat
      exact ⟨Node.inDocumentOrder_sorted hF (within_of_allItems hflat),
        Node.pairwise_not_same_sorted nodes'⟩
    · rw [mem_pathResult_iff hF hflat hresult, List.mem_flatten]
  · refine ⟨?_, runIn_path_of_union h⟩
    obtain ⟨nodes, nodes', σ₁, hleft, hright, rfl⟩ := runIn_union.mp h
    have hkeeps := left.eval_keeps hctx hs (hlit left) hσ
    rw [hleft] at hkeeps
    have hkeeps' := right.eval_keeps hctx hs (hlit right) hkeeps.1
    rw [hright] at hkeeps'
    have hall : ∀ n ∈ nodes ++ nodes', n.Within (F.only id) := List.forall_mem_append.mpr
      ⟨within_of_allItems (hkeeps.2 _ rfl), within_of_allItems (hkeeps'.2 _ rfl)⟩
    exact ⟨_, rfl, Node.inDocumentOrder_sorted hF hall, Node.pairwise_not_same_sorted _⟩

end Expr

end Tree

/-! The parents of all nodes of a room: most of them are found several times. -/

namespace Node.Sample

def context : Context := ⟨{ now := (⟨.first, .midnight⟩, .utc) }, Library.registry, true⟩

def scope : Scope := { focus := some (Focus.on (.node roomNode)) }

theorem known_scope : scope.Known (Supply.ofTree rooms (.document 0)).HasItem where
  ranges _ h := absurd h List.not_mem_nil
  focus f hf := by
    cases hf
    exact .root rfl

theorem context_keeps :
    context.Keeps (Supply.ofTree rooms (.document 0)).HasItem (Session.Local rooms) :=
  Library.keeps built_rooms (fun _ h => absurd h List.not_mem_nil) true

/-- `.//*` -/
def everything : Expr := .path .contextItem (.step .model .wildcard) true

/-- `.//*/..` -/
def parents : Expr := .path everything .parent false

theorem parents_navigates : parents.Navigates :=
  .path false (.path true .contextItem (.step _ _)) .parent

theorem everything_navigates : everything.Navigates := .path true .contextItem (.step _ _)

end Node.Sample

open Node.Sample in
/-- The parents are in document order, and so are all nodes and parents together. -/
theorem Expr.path_union_ordered_of_room :
    (parents.reached roomNode).map (·.path) = ["/", "/room[1]", "/room[1]/shelf[1]"] ∧
      Node.InDocumentOrder (parents.reached roomNode) ∧
      ∃ r, ((Expr.path (.sequence [parents, everything]) .contextItem false).eval context
          scope).runIn {} = (.ok (r.map .node), {}) ∧
        Node.InDocumentOrder r := by
  have hordered := Expr.path_union_ordered built_rooms context_keeps known_scope
    Session.Local.empty
  have hparents := hordered.1 _ _ _ _ _ (parents_navigates.runIn_eval (s := scope) rfl rfl {})
  have hunion : (Expr.union parents everything).Navigates :=
    .union parents_navigates everything_navigates
  obtain ⟨⟨ns, hns, hin, -⟩, hpath⟩ :=
    hordered.2 _ _ _ _ (hunion.runIn_eval (s := scope) rfl rfl {})
  refine ⟨by cbv, (hparents.1 _ rfl).1, ns, ?_, hin⟩
  rw [← hns]
  exact hpath

end TreePath
