/-
TreePath.Proofs.Expr.Composition — paths compose.

Without the cache what an expression of built-in functions gives depends neither on the session nor
on the place of the context item among others (`Expr.outcome_congr`). So the step of a path gives
one thing at each node, however the node was reached, and a path succeeds if its base gives nodes,
its step succeeds at all of them, and what the step gives is all nodes or all values
(`Expr.succeeds_path_iff`). Told so, the two ways of grouping three expressions say the same about
the same nodes (`Expr.path_composition`).
-/
import TreePath.Proofs.Expr.Paths

namespace TreePath

open Eval
open Sequence (AllItems)

variable {F : Forest} {id : TreeId} {env : Environment}

/-- The built-in functions without the cache. -/
abbrev Library.uncached (env : Environment) : Context := ⟨env, registry, false⟩

/-! ## Places -/

/-- The places show one context item. -/
def Focus.Alike (focus focus' : Option Focus) : Prop := focus.map (·.item) = focus'.map (·.item)

/-- Without the cache a call of a built-in function gives one answer in all sessions and at all
places with one context item. -/
theorem Library.matches_uncached (hF : F.Built)
    (hglobals : ∀ e ∈ env.globals, (Supply.ofTree F id).HasItems e.2) :
    (uncached env).Matches (uncached env) (Supply.ofTree F id).HasItem (fun _ _ => True)
      Focus.Alike where
  env_eq := rfl
  registry_eq := rfl
  realm := Supply.realm (Supply.serves_ofTree hF hglobals)
  like_refl _ := rfl
  item_eq hlike := hlike
  calls := by
    intro name n f hf args focus focus' hlike hargs hfocus
    have hf := Supply.mem_functions_of_resolve hf
    have hS := Supply.serves_ofTree hF hglobals
    obtain ⟨callee, hcall⟩ := Function.call_eq (uncached env) f args focus
    obtain ⟨callee', hcall'⟩ := Function.call_eq (uncached env) f args focus'
    rw [hcall, hcall', Function.callWith_eq, Function.callWith_eq]
    refine .bind (.mapError (.ofResult fun a h => Supply.convertArguments_spec hS hargs h)) ?_
    rintro args' ⟨harity, hargs'⟩ s s' -
    rw [Function.runIn_afterConversion_uncached hf rfl,
      Function.runIn_afterConversion_uncached hf rfl, answer_congr hf harity fun _ => hlike]
    refine ⟨rfl, trivial, fun r hr => ?_⟩
    rw [← answer_congr hf harity fun _ => hlike] at hr
    cases hans : f.answer ⟨env, focus⟩ args' with
    | error e => rw [hans] at hr; cases hr
    | ok r' =>
      rw [hans] at hr
      cases hr
      exact hasItems_answer hf hS.withoutGlobals hfocus hargs' hans

/-- All nodes that an evaluation starts with are of one tree. -/
structure Scope.InTree (F : Forest) (id : TreeId) (env : Environment) (s : Scope) : Prop where
  built : F.Built
  globals : ∀ e ∈ env.globals, (Supply.ofTree F id).HasItems e.2
  known : s.Known (Supply.ofTree F id).HasItem

/-- A node on its own as the context item. -/
def Scope.at (s : Scope) (n : Node) : Scope := s.onItem (.node n) 1 1

theorem Scope.InTree.at {s : Scope} (h : s.InTree F id env) {n : Node}
    (hn : n.Within (F.only id)) : (s.at n).InTree F id env :=
  ⟨h.built, h.globals, h.known.onItem (i := .node n) hn 1 1⟩

/-! ## Outcomes -/

namespace Expr

/-- What an expression of built-in functions gives without the cache, in a session that starts. -/
def outcome (env : Environment) (e : Expr) (s : Scope) : Except Error Sequence :=
  ((e.eval (Library.uncached env) s).runIn {}).1

/-- The expression does not fail. -/
def Succeeds (env : Environment) (e : Expr) (s : Scope) : Prop := ∃ r, e.outcome env s = .ok r

/-- The expression gives the item at one of the nodes. -/
def Gives (env : Environment) (e : Expr) (s : Scope) (nodes : List Node) (i : Item) : Prop :=
  ∃ m ∈ nodes, ∃ q, e.outcome env (s.at m) = .ok q ∧ i ∈ q

variable {e base next : Expr} {s s' : Scope} {σ : Session}

theorem eval_related_outcome (h : s.InTree F id env) (hlike : s.Alike Focus.Alike s') (e : Expr) :
    Related (fun _ _ => True) (AllItems (Supply.ofTree F id).HasItem)
      (e.eval (Library.uncached env) s) (e.eval (Library.uncached env) s') :=
  e.eval_related (Library.matches_uncached h.built h.globals) hlike h.known fun v _ =>
    Supply.hasItem_ofTree_atomic F id v

/-- **The outcome depends on the context item and the variables alone.** -/
theorem outcome_congr (h : s.InTree F id env) (hlike : s.Alike Focus.Alike s') (σ : Session) :
    ((e.eval (Library.uncached env) s').runIn σ).1 = e.outcome env s :=
  (eval_related_outcome h hlike e {} σ trivial).1.symm

theorem runIn_eval_eq_outcome (h : s.InTree F id env) (σ : Session) :
    ((e.eval (Library.uncached env) s).runIn σ).1 = e.outcome env s :=
  outcome_congr h ⟨rfl, rfl⟩ σ

theorem outcome_onItem (h : s.InTree F id env) {n : Node} (hn : n.Within (F.only id))
    (position size : Nat) :
    e.outcome env (s.onItem (.node n) position size) = e.outcome env (s.at n) := by
  have hlike : (s.at n).Alike Focus.Alike (s.onItem (.node n) position size) := ⟨rfl, rfl⟩
  exact outcome_congr (h.at hn) hlike {}

theorem allItems_of_outcome (h : s.InTree F id env) {r : Sequence} (hr : e.outcome env s = .ok r) :
    AllItems (Supply.ofTree F id).HasItem r :=
  (eval_related_outcome h ⟨rfl, rfl⟩ e {} {} trivial).2.2 r hr

/-- Nodes that an expression gives are of the tree. -/
theorem within_of_outcome (h : s.InTree F id env) {nodes : List Node}
    (hr : e.outcome env s = .ok (nodes.map .node)) : ∀ n ∈ nodes, n.Within (F.only id) :=
  within_of_allItems (allItems_of_outcome h hr)

/-- The nodes themselves, or all their descendants. -/
theorem within_of_mem_starts {nodes : List Node} (h : ∀ n ∈ nodes, n.Within (F.only id))
    (descendant : Bool) : ∀ m ∈ nodes.flatMap (starts descendant), m.Within (F.only id) := by
  intro m hm
  obtain ⟨n, hn, hm⟩ := List.mem_flatMap.mp hm
  exact kept_of_mem_starts (Node.kept_within _) (h n hn) hm

end Expr

/-! ## One kind of items -/

/-- All items are nodes, or all are values. -/
def OneKind (P : Item → Prop) : Prop :=
  (∀ i, P i → ∃ n, Item.node n = i) ∨ ∀ i, P i → ∃ v, Item.atomic v = i

theorem OneKind.mono {P Q : Item → Prop} (h : OneKind P) (himp : ∀ i, Q i → P i) : OneKind Q :=
  h.imp (fun h i hi => h i (himp i hi)) fun h i hi => h i (himp i hi)

theorem Eval.exists_pathResult_iff {q : Sequence} :
    (∃ r, pathResult q = .ok r) ↔ OneKind (· ∈ q) := by
  constructor
  · rintro ⟨r, h⟩
    obtain ⟨nodes, rfl, -⟩ | ⟨-, -, hvalues⟩ := pathResult_eq_ok h
    · exact .inl fun i hi => (List.mem_map.mp hi).imp fun _ h => h.2
    · exact .inr hvalues
  · rintro (hnodes | hvalues)
    · obtain ⟨nodes, rfl⟩ := exists_eq_map_node hnodes
      exact ⟨_, pathResult_nodes nodes⟩
    · exact pathResult_values hvalues

/-! ## Outcomes of paths -/

namespace Expr

variable {e base next : Expr} {s : Scope} {descendant : Bool} {r : Sequence}

/-- The nodes at which a path evaluates its step. -/
abbrev places (descendant : Bool) (nodes : List Node) : List Node :=
  nodes.flatMap (starts descendant)

theorem outcome_path (h : s.InTree F id env) :
    (Expr.path base next descendant).outcome env s = .ok r ↔
      ∃ nodes found, base.outcome env s = .ok (nodes.map .node) ∧
        List.Forall₂ (fun scope q => next.outcome env scope = .ok q)
          (pathScopes s descendant nodes) found ∧
        pathResult found.flatten = .ok r := by
  have hscopes : ∀ nodes : List Node, base.outcome env s = .ok (nodes.map .node) →
      ∀ scope ∈ pathScopes s descendant nodes, ∀ τ,
        ((next.eval (Library.uncached env) scope).runIn τ).1 = next.outcome env scope := by
    intro nodes hbase scope hscope τ
    have hknown := known_of_mem_pathScopes
      (Library.matches_uncached h.built h.globals).realm h.known (allItems_of_outcome h hbase) scope
      hscope
    exact runIn_eval_eq_outcome ⟨h.built, h.globals, hknown⟩ τ
  constructor
  · intro hr
    rcases hrun : ((Expr.path base next descendant).eval (Library.uncached env) s).runIn {}
      with ⟨r', σ'⟩
    obtain rfl : r' = .ok r := by rw [← hr, outcome, hrun]
    obtain ⟨nodes, σ₁, found, hbase, hfound, hresult⟩ := runIn_path.mp hrun
    have hbase : base.outcome env s = .ok (nodes.map .node) := congrArg Prod.fst hbase
    refine ⟨nodes, found, hbase, mapM_eq_ok_iff.mp ?_, hresult⟩
    rw [← runIn_mapM σ₁ (hscopes nodes hbase), hfound]
  · rintro ⟨nodes, found, hbase, hfound, hresult⟩
    rcases hrun : (base.eval (Library.uncached env) s).runIn {} with ⟨r', σ₁⟩
    obtain rfl : r' = .ok (nodes.map .node) := by rw [← hbase, outcome, hrun]
    rcases hsteps : ((pathScopes s descendant nodes).mapM fun scope =>
      next.eval (Library.uncached env) scope).runIn σ₁ with ⟨r'', σ'⟩
    obtain rfl : r'' = .ok found := by
      rw [← mapM_eq_ok_iff.mpr hfound, ← runIn_mapM σ₁ (hscopes nodes hbase), hsteps]
    exact congrArg Prod.fst (runIn_path.mpr ⟨nodes, σ₁, found, hrun, hsteps, hresult⟩)

/-- What the step gives in all scopes is what it gives at the nodes. -/
theorem mem_flatten_iff_gives (h : s.InTree F id env) {nodes : List Node}
    (hnodes : ∀ n ∈ nodes, n.Within (F.only id)) {found : List Sequence}
    (hfound : List.Forall₂ (fun scope q => next.outcome env scope = .ok q)
      (pathScopes s descendant nodes) found) {i : Item} :
    i ∈ found.flatten ↔ next.Gives env s (places descendant nodes) i := by
  rw [List.mem_flatten]
  constructor
  · rintro ⟨q, hq, hi⟩
    obtain ⟨scope, hscope, hgives⟩ := exists_of_forall₂_left (List.Forall₂.flip hfound) hq
    obtain ⟨n, hn, m, hm, position, size, rfl⟩ := exists_of_mem_pathScopes hscope
    have hm := List.mem_flatMap.mpr ⟨n, hn, hm⟩
    have hwithin := within_of_mem_starts hnodes descendant m hm
    exact ⟨m, hm, q, (outcome_onItem h hwithin position size).symm.trans hgives, hi⟩
  · rintro ⟨m, hm, q, hq, hi⟩
    have hwithin := within_of_mem_starts hnodes descendant m hm
    obtain ⟨n, hn, hm⟩ := List.mem_flatMap.mp hm
    obtain ⟨position, size, hscope⟩ := exists_mem_pathScopes s hn hm
    obtain ⟨q', hq', hgives⟩ := exists_of_forall₂_left hfound hscope
    have heq : q' = q := by
      rw [outcome_onItem h hwithin, hq] at hgives
      exact (Except.ok.inj hgives).symm
    exact ⟨q, heq ▸ hq', hi⟩

/-- What the step gives is of the tree. -/
theorem allItems_flatten (h : s.InTree F id env) {nodes : List Node}
    (hnodes : ∀ n ∈ nodes, n.Within (F.only id)) {found : List Sequence}
    (hfound : List.Forall₂ (fun scope q => next.outcome env scope = .ok q)
      (pathScopes s descendant nodes) found) :
    AllItems (Supply.ofTree F id).HasItem found.flatten := by
  intro i hi
  obtain ⟨m, hm, q, hq, hi⟩ := (mem_flatten_iff_gives h hnodes hfound).mp hi
  exact allItems_of_outcome (h.at (within_of_mem_starts hnodes descendant m hm)) hq i hi

/-- **A path succeeds if its base gives nodes, its step succeeds at all of them, and all that the
step gives is of one kind.** -/
theorem succeeds_path_iff (h : s.InTree F id env) :
    (Expr.path base next descendant).Succeeds env s ↔
      ∃ nodes, base.outcome env s = .ok (nodes.map .node) ∧
        (∀ m ∈ places descendant nodes, next.Succeeds env (s.at m)) ∧
        OneKind (next.Gives env s (places descendant nodes)) := by
  constructor
  · rintro ⟨r, hr⟩
    obtain ⟨nodes, found, hbase, hfound, hresult⟩ := (outcome_path h).mp hr
    have hnodes := within_of_outcome h hbase
    refine ⟨nodes, hbase, fun m hm => ?_, (exists_pathResult_iff.mp ⟨r, hresult⟩).mono fun i hi =>
      (mem_flatten_iff_gives h hnodes hfound).mpr hi⟩
    have hwithin := within_of_mem_starts hnodes descendant m hm
    obtain ⟨n, hn, hm⟩ := List.mem_flatMap.mp hm
    obtain ⟨position, size, hscope⟩ := exists_mem_pathScopes s hn hm
    obtain ⟨q, -, hgives⟩ := exists_of_forall₂_left hfound hscope
    exact ⟨q, (outcome_onItem h hwithin position size).symm.trans hgives⟩
  · rintro ⟨nodes, hbase, hsteps, hkind⟩
    have hnodes := within_of_outcome h hbase
    obtain ⟨found, hfound⟩ := exists_forall₂ (R := fun scope q => next.outcome env scope = .ok q)
      (l := pathScopes s descendant nodes) fun scope hscope => by
        obtain ⟨n, hn, m, hm, position, size, rfl⟩ := exists_of_mem_pathScopes hscope
        have hm := List.mem_flatMap.mpr ⟨n, hn, hm⟩
        obtain ⟨q, hq⟩ := hsteps m hm
        have hwithin := within_of_mem_starts hnodes descendant m hm
        exact ⟨q, (outcome_onItem h hwithin position size).trans hq⟩
    obtain ⟨r, hr⟩ := exists_pathResult_iff.mpr (hkind.mono fun i hi =>
      (mem_flatten_iff_gives h hnodes hfound).mp hi)
    exact ⟨r, (outcome_path h).mpr ⟨nodes, found, hbase, hfound, hr⟩⟩

/-- A path has the items that its step gives at the nodes of its base. -/
theorem mem_outcome_path (h : s.InTree F id env) {nodes : List Node}
    (hbase : base.outcome env s = .ok (nodes.map .node))
    (hr : (Expr.path base next descendant).outcome env s = .ok r) {i : Item} :
    i ∈ r ↔ next.Gives env s (places descendant nodes) i := by
  obtain ⟨nodes', found, hbase', hfound, hresult⟩ := (outcome_path h).mp hr
  obtain rfl : nodes' = nodes := by
    rw [hbase] at hbase'
    exact (map_node_injective (Except.ok.inj hbase')).symm
  have hnodes := within_of_outcome h hbase
  rw [← mem_flatten_iff_gives h hnodes hfound]
  exact mem_pathResult_iff h.built (allItems_flatten h hnodes hfound) hresult

/-- Nodes that a path gives are in document order. -/
theorem inDocumentOrder_outcome_path (h : s.InTree F id env) {ns : List Node}
    (hr : (Expr.path base next descendant).outcome env s = .ok (ns.map .node)) :
    Node.InDocumentOrder ns := by
  obtain ⟨nodes, found, hbase, hfound, hresult⟩ := (outcome_path h).mp hr
  have hitems := allItems_flatten h (within_of_outcome h hbase) hfound
  obtain ⟨nodes', hnodes', rfl⟩ := exists_sorted_of_pathResult hresult
  rw [hnodes'] at hitems
  exact Node.inDocumentOrder_sorted h.built (within_of_allItems hitems)

/-! ## Grouping -/

variable {a b c : Expr}

/-- Paths that have the same items give the same nodes. -/
theorem outcome_eq_of_mem_iff (h : s.InTree F id env) {base' next' : Expr} {descendant' : Bool}
    (hsucceeds : (Expr.path base next descendant).Succeeds env s →
      (Expr.path base' next' descendant').Succeeds env s)
    (hmem : ∀ r r', (Expr.path base next descendant).outcome env s = .ok r →
      (Expr.path base' next' descendant').outcome env s = .ok r' → ∀ i, i ∈ r ↔ i ∈ r')
    {ns : List Node} (hns : (Expr.path base next descendant).outcome env s = .ok (ns.map .node)) :
    (Expr.path base' next' descendant').outcome env s = .ok (ns.map .node) := by
  obtain ⟨r', hr'⟩ := hsucceeds ⟨_, hns⟩
  have hiff := hmem _ _ hns hr'
  obtain ⟨ns', rfl⟩ := exists_eq_map_node (s := r') fun i hi =>
    (List.mem_map.mp ((hiff i).mpr hi)).imp fun _ h => h.2
  have heq : ns = ns' := (inDocumentOrder_outcome_path h hns).eq_of_mem_iff
    (inDocumentOrder_outcome_path h hr') fun m => by
      have hm := hiff (.node m)
      simpa using hm
  rw [heq, hr']

theorem places_false (nodes : List Node) : places false nodes = nodes :=
  List.flatMap_singleton' nodes

/-- From the nodes that the first two parts lead to, the third gives what the last two together give
from the nodes of the first. -/
theorem gives_path_iff (h : s.InTree F id env) {nodes ms : List Node}
    (hnodes : ∀ n ∈ nodes, n.Within (F.only id))
    (hms : ∀ m, m ∈ ms ↔ b.Gives env s nodes (.node m))
    (hsteps : ∀ n ∈ nodes, (Expr.path b c false).Succeeds env (s.at n)) (i : Item) :
    c.Gives env s ms i ↔ (Expr.path b c false).Gives env s nodes i := by
  constructor
  · rintro ⟨m, hm, q, hq, hi⟩
    obtain ⟨n, hn, q', hq', hm⟩ := (hms m).mp hm
    obtain ⟨r, hr⟩ := hsteps n hn
    have hin := h.at (hnodes n hn)
    obtain ⟨bs, hbs, -, -⟩ := (succeeds_path_iff hin).mp ⟨r, hr⟩
    refine ⟨n, hn, r, hr, (mem_outcome_path hin hbs hr).mpr ⟨m, ?_, q, hq, hi⟩⟩
    rw [places_false]
    rw [hbs] at hq'
    cases hq'
    simpa using hm
  · rintro ⟨n, hn, r, hr, hi⟩
    have hin := h.at (hnodes n hn)
    obtain ⟨bs, hbs, -, -⟩ := (succeeds_path_iff hin).mp ⟨r, hr⟩
    obtain ⟨m, hm, q, hq, hi⟩ := (mem_outcome_path hin hbs hr).mp hi
    rw [places_false] at hm
    refine ⟨m, (hms m).mpr ⟨n, hn, _, hbs, List.mem_map.mpr ⟨m, hm, rfl⟩⟩, q, hq, hi⟩

/-- The nodes of a path are those that its step gives. -/
theorem mem_iff_gives (h : s.InTree F id env) {nodes ms : List Node}
    (hbase : base.outcome env s = .ok (nodes.map .node))
    (hms : (Expr.path base next descendant).outcome env s = .ok (ms.map .node)) (m : Node) :
    m ∈ ms ↔ next.Gives env s (places descendant nodes) (.node m) := by
  rw [← mem_outcome_path h hbase hms]
  simp

theorem succeeds_path_path (h : s.InTree F id env)
    (hleft : (Expr.path (.path a b descendant) c false).Succeeds env s) :
    (Expr.path a (.path b c false) descendant).Succeeds env s := by
  obtain ⟨ms, hms, hsteps, hkind⟩ := (succeeds_path_iff h).mp hleft
  rw [places_false] at hsteps hkind
  obtain ⟨nodes, ha, hb, -⟩ := (succeeds_path_iff h).mp ⟨_, hms⟩
  have hnodes := within_of_mem_starts (within_of_outcome h ha) descendant
  have hmem := mem_iff_gives h ha hms
  have hinner : ∀ n ∈ places descendant nodes, (Expr.path b c false).Succeeds env (s.at n) := by
    intro n hn
    obtain ⟨q, hq⟩ := hb n hn
    -- all that `b` gives is among the nodes of `a/b`
    have hall : ∀ i ∈ q, ∃ m, Item.node m = i := fun i hi =>
      (List.mem_map.mp ((mem_outcome_path h ha hms).mpr ⟨n, hn, q, hq, hi⟩)).imp fun _ h => h.2
    obtain ⟨bs, rfl⟩ := exists_eq_map_node hall
    have hsub : ∀ m ∈ bs, m ∈ ms := fun m hm =>
      (hmem m).mpr ⟨n, hn, _, hq, List.mem_map.mpr ⟨m, hm, rfl⟩⟩
    refine (succeeds_path_iff (h.at (hnodes n hn))).mpr ⟨bs, hq, ?_, ?_⟩
    · rw [places_false]
      exact fun m hm => hsteps m (hsub m hm)
    · rw [places_false]
      exact hkind.mono fun i ⟨m, hm, hi⟩ => ⟨m, hsub m hm, hi⟩
  exact (succeeds_path_iff h).mpr ⟨nodes, ha, hinner,
    hkind.mono fun i hi => (gives_path_iff h hnodes hmem hinner i).mpr hi⟩

theorem succeeds_path_of_inner (h : s.InTree F id env)
    (hright : (Expr.path a (.path b c false) descendant).Succeeds env s) :
    (Expr.path (.path a b descendant) c false).Succeeds env s := by
  obtain ⟨nodes, ha, hinner, hkind⟩ := (succeeds_path_iff h).mp hright
  have hnodes := within_of_mem_starts (within_of_outcome h ha) descendant
  have hb : ∀ n ∈ places descendant nodes, ∃ bs : List Node,
      b.outcome env (s.at n) = .ok (bs.map .node) ∧ ∀ m ∈ bs, c.Succeeds env (s.at m) := by
    intro n hn
    obtain ⟨bs, hbs, hc, -⟩ := (succeeds_path_iff (h.at (hnodes n hn))).mp (hinner n hn)
    rw [places_false] at hc
    exact ⟨bs, hbs, hc⟩
  have hgives : ∀ i, b.Gives env s (places descendant nodes) i → ∃ m, Item.node m = i := by
    rintro i ⟨n, hn, q, hq, hi⟩
    obtain ⟨bs, hbs, -⟩ := hb n hn
    rw [hbs] at hq
    cases hq
    exact (List.mem_map.mp hi).imp fun _ h => h.2
  have houter : (Expr.path a b descendant).Succeeds env s := (succeeds_path_iff h).mpr
    ⟨nodes, ha, fun n hn => (hb n hn).imp' (List.map .node) fun _ h => h.1, .inl hgives⟩
  obtain ⟨r, hr⟩ := houter
  obtain ⟨ms, rfl⟩ := exists_eq_map_node (s := r) fun i hi =>
    hgives i ((mem_outcome_path h ha hr).mp hi)
  have hmem := mem_iff_gives h ha hr
  refine (succeeds_path_iff h).mpr ⟨ms, hr, fun m hm => ?_, ?_⟩
  · rw [places_false] at hm
    obtain ⟨n, hn, q, hq, hi⟩ := (hmem m).mp hm
    obtain ⟨bs, hbs, hc⟩ := hb n hn
    rw [hbs] at hq
    cases hq
    exact hc m (by simpa using hi)
  · rw [places_false]
    exact hkind.mono fun i hi => (gives_path_iff h hnodes hmem hinner i).mp hi

/-- Both groupings give the same items. -/
theorem mem_path_path_iff (h : s.InTree F id env) {r r' : Sequence}
    (hr : (Expr.path (.path a b descendant) c false).outcome env s = .ok r)
    (hr' : (Expr.path a (.path b c false) descendant).outcome env s = .ok r') (i : Item) :
    i ∈ r ↔ i ∈ r' := by
  obtain ⟨ms, hms, -, -⟩ := (succeeds_path_iff h).mp ⟨r, hr⟩
  obtain ⟨nodes, ha, hinner, -⟩ := (succeeds_path_iff h).mp ⟨r', hr'⟩
  have hnodes := within_of_mem_starts (within_of_outcome h ha) descendant
  rw [mem_outcome_path h hms hr, mem_outcome_path h ha hr', places_false]
  exact gives_path_iff h hnodes (mem_iff_gives h ha hms) hinner i

/-! ## All descendants first -/

theorem outcome_contextItem (s : Scope) (n : Node) :
    Expr.contextItem.outcome env (s.at n) = .ok [.node n] := by
  rw [outcome, eval]
  rfl

theorem gives_contextItem {nodes : List Node} {i : Item} :
    Expr.contextItem.Gives env s nodes i ↔ ∃ n ∈ nodes, .node n = i := by
  refine exists_congr fun n => and_congr_right fun _ => ?_
  rw [outcome_contextItem]
  constructor
  · rintro ⟨q, hq, hi⟩
    cases hq
    exact (List.mem_singleton.mp hi).symm
  · rintro rfl
    exact ⟨_, rfl, List.mem_singleton_self _⟩

/-- The path to the context item leads to the nodes at which a step would be evaluated. -/
theorem exists_outcome_places (descendant : Bool) (h : s.InTree F id env) {nodes : List Node}
    (ha : a.outcome env s = .ok (nodes.map .node)) :
    ∃ ms : List Node, (Expr.path a .contextItem descendant).outcome env s = .ok (ms.map .node) ∧
      ∀ m, m ∈ ms ↔ m ∈ places descendant nodes := by
  have hkind : ∀ i, Expr.contextItem.Gives env s (places descendant nodes) i →
      ∃ n, Item.node n = i := fun i hi => (gives_contextItem.mp hi).imp fun _ h => h.2
  obtain ⟨r, hr⟩ : (Expr.path a .contextItem descendant).Succeeds env s :=
    (succeeds_path_iff h).mpr ⟨nodes, ha, fun m _ => ⟨_, outcome_contextItem s m⟩, .inl hkind⟩
  obtain ⟨ms, rfl⟩ := exists_eq_map_node (s := r) fun i hi =>
    hkind i ((mem_outcome_path h ha hr).mp hi)
  refine ⟨ms, hr, fun m => ?_⟩
  rw [mem_iff_gives h ha hr, gives_contextItem]
  simp

theorem gives_congr {nodes ms : List Node} (hmem : ∀ m, m ∈ ms ↔ m ∈ nodes) (i : Item) :
    b.Gives env s ms i ↔ b.Gives env s nodes i :=
  exists_congr fun m => and_congr_left fun _ => hmem m

theorem succeeds_descendants_iff (h : s.InTree F id env) :
    (Expr.path a b descendant).Succeeds env s ↔
      (Expr.path (.path a .contextItem descendant) b false).Succeeds env s := by
  constructor
  · intro hleft
    obtain ⟨nodes, ha, hb, hkind⟩ := (succeeds_path_iff h).mp hleft
    obtain ⟨ms, hms, hmem⟩ := exists_outcome_places descendant h ha
    refine (succeeds_path_iff h).mpr ⟨ms, hms, ?_, ?_⟩
    · rw [places_false]
      exact fun m hm => hb m ((hmem m).mp hm)
    · rw [places_false]
      exact hkind.mono fun i hi => (gives_congr hmem i).mp hi
  · intro hright
    obtain ⟨ms, hms, hb, hkind⟩ := (succeeds_path_iff h).mp hright
    rw [places_false] at hb hkind
    obtain ⟨nodes, ha, -, -⟩ := (succeeds_path_iff h).mp ⟨_, hms⟩
    obtain ⟨ms', hms', hmem⟩ := exists_outcome_places descendant h ha
    obtain rfl : ms' = ms := by
      rw [hms] at hms'
      exact (map_node_injective (Except.ok.inj hms')).symm
    exact (succeeds_path_iff h).mpr ⟨nodes, ha, fun m hm => hb m ((hmem m).mpr hm),
      hkind.mono fun i hi => (gives_congr hmem i).mpr hi⟩

theorem mem_descendants_iff (h : s.InTree F id env) {r r' : Sequence}
    (hr : (Expr.path a b descendant).outcome env s = .ok r)
    (hr' : (Expr.path (.path a .contextItem descendant) b false).outcome env s = .ok r')
    (i : Item) : i ∈ r ↔ i ∈ r' := by
  obtain ⟨nodes, ha, -, -⟩ := (succeeds_path_iff h).mp ⟨r, hr⟩
  obtain ⟨ms, hms, hmem⟩ := exists_outcome_places descendant h ha
  rw [mem_outcome_path h ha hr, mem_outcome_path h hms hr', places_false]
  exact (gives_congr hmem i).symm

/-- Both succeed or both fail, and nodes that one gives the other gives in the same order. -/
def SameNodes (x y : Except Error Sequence) : Prop :=
  ((∃ r, x = .ok r) ↔ ∃ r, y = .ok r) ∧
    ∀ ns : List Node, x = .ok (ns.map .node) ↔ y = .ok (ns.map .node)

/-- **Paths compose.** Without the cache, for expressions of built-in functions whose focus and
variables hold nodes of one tree only: `(a/b)/c` succeeds if and only if `a/(b/c)` does, and if the
one gives nodes, the other gives the same sequence of them; and likewise `a//b` and `(a//.)/b`. -/
theorem path_composition (hF : F.Built)
    (hglobals : ∀ e ∈ env.globals, (Supply.ofTree F id).HasItems e.2)
    (hs : s.Known (Supply.ofTree F id).HasItem) (a b c : Expr) (σ τ : Session) :
    SameNodes
        (((Expr.path (.path a b false) c false).eval (Library.uncached env) s).runIn σ).1
        (((Expr.path a (.path b c false) false).eval (Library.uncached env) s).runIn τ).1 ∧
      SameNodes
        (((Expr.path a b true).eval (Library.uncached env) s).runIn σ).1
        (((Expr.path (.path a .contextItem true) b false).eval (Library.uncached env) s).runIn
          τ).1 := by
  have h : s.InTree F id env := ⟨hF, hglobals, hs⟩
  simp only [runIn_eval_eq_outcome h]
  refine ⟨⟨⟨succeeds_path_path h, succeeds_path_of_inner h⟩, fun ns => ⟨?_, ?_⟩⟩,
    ⟨succeeds_descendants_iff h, fun ns => ⟨?_, ?_⟩⟩⟩
  · exact outcome_eq_of_mem_iff h (succeeds_path_path h) fun r r' hr hr' =>
      mem_path_path_iff h hr hr'
  · exact outcome_eq_of_mem_iff h (succeeds_path_of_inner h) fun r r' hr hr' i =>
      (mem_path_path_iff h hr' hr i).symm
  · exact outcome_eq_of_mem_iff h (succeeds_descendants_iff h).mp fun r r' hr hr' =>
      mem_descendants_iff h hr hr'
  · exact outcome_eq_of_mem_iff h (succeeds_descendants_iff h).mpr fun r r' hr hr' i =>
      (mem_descendants_iff h hr' hr i).symm

open Node.Sample in
/-- `(.//*/..)/item` and `(.//*)/(../item)` give the same items, and so do `.//item` and
`(.//.)/item`. -/
theorem path_composition_of_room :
    ∃ ns ns' : List Node,
      ns.map (·.path)
        = ["/room[1]/item[1]", "/room[1]/shelf[1]/item[1]", "/room[1]/shelf[1]/item[2]"] ∧
      (((Expr.path everything (.path .parent (.step .model (.name "item")) false) false).eval
        (Library.uncached context.env) scope).runIn {}).1 = .ok (ns.map .node) ∧
      (((Expr.path (.path .contextItem .contextItem true) (.step .model (.name "item"))
        false).eval (Library.uncached context.env) scope).runIn {}).1 = .ok (ns'.map .node) := by
  have hcompose := @path_composition rooms (.document 0) context.env scope built_rooms
    (fun _ h => absurd h List.not_mem_nil) known_scope
  have hleft : (Expr.path parents (.step .model (.name "item")) false).Navigates :=
    .path false parents_navigates (.step _ _)
  have hitems : (Expr.path .contextItem (.step .model (.name "item")) true).Navigates :=
    .path true .contextItem (.step _ _)
  refine ⟨_, _, ?_, ((hcompose everything .parent (.step .model (.name "item")) {} {}).1.2 _).mp
    (congrArg Prod.fst (hleft.runIn_eval rfl rfl {})),
    ((hcompose .contextItem (.step .model (.name "item")) .contextItem {} {}).2.2 _).mp
    (congrArg Prod.fst (hitems.runIn_eval rfl rfl {}))⟩
  cbv

end Expr

end TreePath
