/-
TreePath.Proofs.Expr.Navigation — expressions that only move around.

An expression that is made of steps, paths, unions and sequences alone (`Expr.Navigates`) computes
nothing: it leads from a node to nodes (`Expr.reached`). Inside a document its evaluation cannot
fail, leaves the session as it is, and gives these nodes whatever the variables and functions are
(`Expr.runIn_eval`). As it does nothing but move, it leads from a node of a document to nodes that
all have counterparts among those it leads to from the counterpart in the schema
(`Node.Mirrors.reached`).
-/
import TreePath.Eval
import TreePath.Proofs.Function.Outcome
import TreePath.Proofs.Tree.Mirror

namespace TreePath

open Eval

/-! ## Moving expressions -/

namespace Expr

/-- The expression is made of the context item, the root, parents, steps, paths, unions and
sequences. -/
inductive Navigates : Expr → Prop where
  | contextItem : Navigates .contextItem
  | root : Navigates .root
  | parent : Navigates .parent
  | step (axis : Axis) (test : NameTest) : Navigates (.step axis test)
  | path {base next : Expr} (descendant : Bool) : Navigates base → Navigates next →
      Navigates (.path base next descendant)
  | union {left right : Expr} : Navigates left → Navigates right → Navigates (.union left right)
  | sequence {parts : List Expr} : (∀ p ∈ parts, Navigates p) → Navigates (.sequence parts)

/-- The nodes that the step of a path is taken from, for one node of its base. -/
def starts (descendant : Bool) (n : Node) : List Node :=
  if descendant then n.descendantsOrSelf else [n]

mutual

/-- The nodes that an expression which only moves around leads to. -/
def reached : Expr → Node → List Node
  | .contextItem, n => [n]
  | .root, n => [n.top]
  | .parent, n => n.parent?.toList
  | .step axis test, n => selected axis test n
  | .path base next descendant, n =>
    Node.sorted ((base.reached n).flatMap fun m =>
      (starts descendant m).flatMap fun k => next.reached k)
  | .union left right, n => Node.sorted (left.reached n ++ right.reached n)
  | .sequence parts, n => reachedByAll parts n
  | _, _ => []

/-- The nodes that expressions lead to, one after another. -/
def reachedByAll : List Expr → Node → List Node
  | [], _ => []
  | e :: rest, n => e.reached n ++ reachedByAll rest n

end

theorem mem_reachedByAll {parts : List Expr} {n m : Node} :
    m ∈ reachedByAll parts n ↔ ∃ p ∈ parts, m ∈ p.reached n := by
  induction parts with
  | nil => simp [reachedByAll]
  | cons e rest ih => simp [reachedByAll, ih]

theorem mem_reached_path {base next : Expr} {descendant : Bool} {n x : Node}
    (h : x ∈ (Expr.path base next descendant).reached n) :
    ∃ m ∈ base.reached n, ∃ k ∈ starts descendant m, x ∈ next.reached k := by
  rw [reached] at h
  obtain ⟨m, hm, hx⟩ := List.mem_flatMap.mp (Node.mem_of_mem_sorted h)
  obtain ⟨k, hk, hx⟩ := List.mem_flatMap.mp hx
  exact ⟨m, hm, k, hk, hx⟩

/-! ## Where moving leads -/

variable {P : Node → Prop}

theorem kept_of_mem_starts (hP : Node.Kept P) {descendant : Bool} {n m : Node} (hn : P n)
    (h : m ∈ starts descendant n) : P m := by
  rw [starts] at h
  split at h
  · exact hP.descendantsOrSelf hn h
  · rw [List.mem_singleton.mp h]
    exact hn

/-- A property that single moves keep holds wherever an expression leads. -/
theorem Navigates.kept {e : Expr} (h : e.Navigates) (hP : Node.Kept P) :
    ∀ {n m : Node}, P n → m ∈ e.reached n → P m := by
  induction h with
  | contextItem =>
    intro n m hn hm
    rw [reached] at hm
    rw [List.mem_singleton.mp hm]
    exact hn
  | root =>
    intro n m hn hm
    rw [reached] at hm
    rw [List.mem_singleton.mp hm]
    exact hP.top hn
  | parent =>
    intro n m hn hm
    rw [reached] at hm
    exact hP.parent? hn (Option.mem_toList.mp hm)
  | step axis test =>
    intro n m hn hm
    rw [reached] at hm
    cases axis with
    | model => exact hP.children hn (List.mem_filter.mp hm).1
    | flag => exact hP.flags hn (List.mem_filter.mp hm).1
  | path descendant _ _ ihBase ihNext =>
    intro n m hn hm
    obtain ⟨b, hb, k, hk, hm⟩ := mem_reached_path hm
    exact ihNext (kept_of_mem_starts hP (ihBase hn hb) hk) hm
  | union _ _ ihLeft ihRight =>
    intro n m hn hm
    rw [reached] at hm
    rcases List.mem_append.mp (Node.mem_of_mem_sorted hm) with hm | hm
    · exact ihLeft hn hm
    · exact ihRight hn hm
  | sequence _ ih =>
    intro n m hn hm
    rw [reached] at hm
    obtain ⟨p, hp, hm⟩ := mem_reachedByAll.mp hm
    exact ih p hp hn hm

end Expr

/-! ## Evaluation -/

namespace Eval

theorem collect_map {α β γ : Type} (f : β → Eval (List γ)) (g : α → β) (l : List α) :
    collect f (l.map g) = collect (fun a => f (g a)) l := by
  induction l with
  | nil => rfl
  | cons a rest ih => rw [List.map_cons, collect, collect, ih]

/-- Evaluations that leave the session as it is do so one after another. -/
theorem runIn_collect {α β : Type} {f : α → Eval (List β)} {g : α → List β} {l : List α}
    (h : ∀ a ∈ l, ∀ s, (f a).runIn s = (.ok (g a), s)) (s : Session) :
    (collect f l).runIn s = (.ok (l.flatMap g), s) := by
  induction l with
  | nil => rfl
  | cons a rest ih =>
    have hrest := ih fun b hb => h b (List.mem_cons_of_mem a hb)
    rw [collect, runIn_bind_ok (h a List.mem_cons_self s), runIn_bind_ok hrest]
    rfl

theorem flatMap_zipIdx {α β : Type} (g : α → List β) (l : List α) :
    (l.zipIdx.flatMap fun p => g p.1) = l.flatMap g := by
  have h : (l.zipIdx.flatMap fun p => g p.1) = (l.zipIdx.map Prod.fst).flatMap g :=
    (List.flatMap_map ..).symm
  rw [h, List.zipIdx_map_fst]

theorem filterMap_node? (nodes : List Node) :
    (nodes.map Item.node).filterMap Item.node? = nodes := by
  induction nodes with
  | nil => rfl
  | cons n rest ih => simpa [Item.node?] using ih

theorem pathResult_nodes (nodes : List Node) :
    pathResult (nodes.map .node) = .ok (nodeSet nodes) := by
  simp only [pathResult, filterMap_node?, List.length_map, if_true]

theorem unionNodes_nodes (nodes : List Node) : unionNodes (nodes.map .node) = .ok nodes := by
  induction nodes with
  | nil => rfl
  | cons n rest ih =>
    rw [unionNodes] at ih ⊢
    rw [List.map_cons, List.mapM_cons, ih]
    rfl

theorem contextNode_of_contextItem {s : Scope} {n : Node} (h : contextItem s = .ok (.node n)) :
    contextNode s = .ok n := by
  rw [contextNode, h]
  rfl

/-- The step of a path is evaluated at each of the nodes that it starts from. -/
theorem runIn_collect_scopes {ctx : Context} {next : Expr} {s : Scope} {descendant : Bool}
    {m : Node} {position size : Nat}
    (h : ∀ k ∈ Expr.starts descendant m, ∀ t : Scope, contextItem t = .ok (.node k) →
      ∀ σ, (next.eval ctx t).runIn σ = (.ok ((next.reached k).map .node), σ)) (σ : Session) :
    (do
      let scopes ← ofResult (stepScopes s descendant (.node m) position size)
      collect (fun scope => next.eval ctx scope) scopes : Eval Sequence).runIn σ
      = (.ok (((Expr.starts descendant m).flatMap fun k => next.reached k).map .node), σ) := by
  rw [runIn_bind]
  cases descendant with
  | false =>
    have hone := h m (List.mem_singleton.mpr rfl) (s.onItem (.node m) position size) rfl
    simp only [stepScopes, runIn_ofResult, Bool.false_eq_true, if_false]
    rw [collect, runIn_bind_ok (hone σ)]
    simp [collect, Expr.starts]
  | true =>
    simp only [stepScopes, runIn_ofResult, if_true]
    rw [collect_map, runIn_collect (g := fun p => (next.reached p.1).map .node)]
    · rw [flatMap_zipIdx (fun k => (next.reached k).map Item.node), Expr.starts, if_pos rfl,
        List.map_flatMap]
    · rintro ⟨k, j⟩ hk
      exact h k (List.fst_mem_of_mem_zipIdx hk) _ rfl

end Eval

namespace Expr

/-- **Moving around inside a document always succeeds, changes no session, and depends on the node
alone.** -/
theorem Navigates.runIn_eval {e : Expr} (h : e.Navigates) :
    ∀ {ctx : Context} {s : Scope} {n : Node}, Eval.contextItem s = .ok (.node n) →
      n.top.kind = .document →
      ∀ σ, (e.eval ctx s).runIn σ = (.ok ((e.reached n).map .node), σ) := by
  induction h with
  | contextItem =>
    intro ctx s n hn _ σ
    rw [eval, hn, reached]
    rfl
  | root =>
    intro ctx s n hn hdoc σ
    have hroot : documentNode s = .ok n.top := by
      rw [documentNode, contextNode_of_contextItem hn]
      exact if_pos hdoc
    rw [eval, hroot, reached]
    rfl
  | parent =>
    intro ctx s n hn _ σ
    rw [eval, contextNode_of_contextItem hn, runIn_bind_ok (runIn_ofResult _ σ), reached]
    cases n.parent? <;> rfl
  | step axis test =>
    intro ctx s n hn _ σ
    rw [eval, contextNode_of_contextItem hn, reached]
    rfl
  | @path base next descendant hbase _ ihBase ihNext =>
    intro ctx s n hn hdoc σ
    rw [eval, runIn_bind_ok (ihBase hn hdoc σ)]
    simp only [List.zipIdx_map, collect_map]
    rw [runIn_bind_ok]
    · rw [pathResult_nodes, reached]
      rfl
    · rw [runIn_collect (g := fun p =>
        ((starts descendant p.1).flatMap fun k => next.reached k).map Item.node)]
      · rw [flatMap_zipIdx (fun m =>
          ((starts descendant m).flatMap fun k => next.reached k).map Item.node),
          ← List.map_flatMap]
      · rintro ⟨m, i⟩ hm
        refine runIn_collect_scopes fun k hk t ht => ihNext ht ?_
        have hm' := hbase.kept (Node.kept_top n.top) rfl (List.fst_mem_of_mem_zipIdx hm)
        rw [kept_of_mem_starts (Node.kept_top n.top) hm' hk]
        exact hdoc
  | union _ _ ihLeft ihRight =>
    intro ctx s n hn hdoc σ
    rw [eval, runIn_bind_ok (ihLeft hn hdoc σ), unionNodes_nodes,
      runIn_bind_ok (runIn_ofResult _ σ), runIn_bind_ok (ihRight hn hdoc σ), unionNodes_nodes,
      runIn_bind_ok (runIn_ofResult _ σ), reached]
    rfl
  | @sequence parts _ ih =>
    intro ctx s n hn hdoc σ
    have hall : ∀ ps : List Expr, (∀ p ∈ ps, p ∈ parts) → ∃ r : List Sequence,
        (evalAll ctx s ps).runIn σ = (.ok r, σ) ∧ r.flatten = (reachedByAll ps n).map .node := by
      intro ps
      induction ps with
      | nil => exact fun _ => ⟨[], rfl, rfl⟩
      | cons p rest ihRest =>
        intro hps
        obtain ⟨r, hr, hflat⟩ := ihRest fun q hq => hps q (List.mem_cons_of_mem p hq)
        have hp : (p.eval ctx s).runIn σ = (.ok ((p.reached n).map .node), σ) :=
          ih p (hps p List.mem_cons_self) hn hdoc σ
        refine ⟨(p.reached n).map .node :: r, ?_, ?_⟩
        · rw [evalAll, runIn_bind_ok hp, runIn_bind_ok hr]
          rfl
        · rw [List.flatten_cons, hflat, reachedByAll, List.map_append]
    obtain ⟨r, hr, hflat⟩ := hall parts fun p hp => hp
    rw [eval, runIn_bind_ok hr, reached, ← hflat]
    rfl

end Expr

/-! ## Counterparts -/

namespace Node.Mirrors

variable {F : Forest} {n m : Node}

theorem starts (h : Mirrors F n m) {descendant : Bool} {x : Node}
    (hx : x ∈ Expr.starts descendant n) : ∃ y ∈ Expr.starts descendant m, Mirrors F x y := by
  cases descendant with
  | false =>
    rw [List.mem_singleton.mp hx]
    exact ⟨m, List.mem_singleton.mpr rfl, h⟩
  | true => exact h.descendantsOrSelf hx

/-- Counterparts have one name, so a test on names takes both or none. -/
theorem selected (h : Mirrors F n m) {axis : Axis} {test : NameTest} {x : Node}
    (hx : x ∈ Eval.selected axis test n) : ∃ y ∈ Eval.selected axis test m, Mirrors F x y := by
  cases axis with
  | model =>
    obtain ⟨hmem, htest⟩ := List.mem_filter.mp hx
    obtain ⟨y, hy, hxy⟩ := h.children hmem
    refine ⟨y, List.mem_filter.mpr ⟨hy, ?_⟩, hxy⟩
    rw [← hxy.name]
    exact htest
  | flag =>
    obtain ⟨hmem, htest⟩ := List.mem_filter.mp hx
    obtain ⟨y, hy, hxy⟩ := h.flags hmem
    refine ⟨y, List.mem_filter.mpr ⟨hy, ?_⟩, hxy⟩
    rw [← hxy.name]
    exact htest

/-- **Wherever an expression leads from a node, it leads to a counterpart from the node's
counterpart.** Sets of nodes keep one node per place; in trees that the program built a place
belongs to one node, so a counterpart is never lost. -/
theorem reached (hF : F.Built) {e : Expr} (he : e.Navigates) :
    ∀ {n m : Node}, Mirrors F n m → ∀ {x : Node}, x ∈ e.reached n →
      ∃ y ∈ e.reached m, Mirrors F x y := by
  induction he with
  | contextItem =>
    intro n m h x hx
    rw [Expr.reached] at hx ⊢
    rw [List.mem_singleton.mp hx]
    exact ⟨m, List.mem_singleton.mpr rfl, h⟩
  | root =>
    intro n m h x hx
    rw [Expr.reached] at hx ⊢
    rw [List.mem_singleton.mp hx]
    exact ⟨m.top, List.mem_singleton.mpr rfl, h.top⟩
  | parent =>
    intro n m h x hx
    rw [Expr.reached] at hx ⊢
    obtain ⟨y, hy, hxy⟩ := h.parent? (Option.mem_toList.mp hx)
    exact ⟨y, Option.mem_toList.mpr hy, hxy⟩
  | step axis test =>
    intro n m h x hx
    rw [Expr.reached] at hx ⊢
    exact h.selected hx
  | @path base next descendant hbase hnext ihBase ihNext =>
    intro n m h x hx
    obtain ⟨b, hb, k, hk, hx⟩ := Expr.mem_reached_path hx
    obtain ⟨b', hb', hbb⟩ := ihBase h hb
    obtain ⟨k', hk', hkk⟩ := hbb.starts hk
    obtain ⟨y, hy, hxy⟩ := ihNext hkk hx
    refine ⟨y, ?_, hxy⟩
    rw [Expr.reached]
    refine mem_sorted_of_mem hF ?_
      (List.mem_flatMap.mpr ⟨b', hb', List.mem_flatMap.mpr ⟨k', hk', hy⟩⟩)
    intro z hz
    obtain ⟨b₁, hb₁, hz⟩ := List.mem_flatMap.mp hz
    obtain ⟨k₁, hk₁, hz⟩ := List.mem_flatMap.mp hz
    have hb₁ := hbase.kept (kept_within F) h.within hb₁
    exact hnext.kept (kept_within F) (Expr.kept_of_mem_starts (kept_within F) hb₁ hk₁) hz
  | @union left right hleft hright ihLeft ihRight =>
    intro n m h x hx
    have hall : ∀ z ∈ left.reached m ++ right.reached m, z.Within F := by
      intro z hz
      rcases List.mem_append.mp hz with hz | hz
      · exact hleft.kept (kept_within F) h.within hz
      · exact hright.kept (kept_within F) h.within hz
    rw [Expr.reached] at hx ⊢
    rcases List.mem_append.mp (mem_of_mem_sorted hx) with hx | hx
    · obtain ⟨y, hy, hxy⟩ := ihLeft h hx
      exact ⟨y, mem_sorted_of_mem hF hall (List.mem_append_left _ hy), hxy⟩
    · obtain ⟨y, hy, hxy⟩ := ihRight h hx
      exact ⟨y, mem_sorted_of_mem hF hall (List.mem_append_right _ hy), hxy⟩
  | sequence _ ih =>
    intro n m h x hx
    rw [Expr.reached] at hx ⊢
    obtain ⟨p, hp, hx⟩ := Expr.mem_reachedByAll.mp hx
    obtain ⟨y, hy, hxy⟩ := ih p hp h hx
    exact ⟨y, Expr.mem_reachedByAll.mpr ⟨p, hp, hy⟩, hxy⟩

end Node.Mirrors

end TreePath
