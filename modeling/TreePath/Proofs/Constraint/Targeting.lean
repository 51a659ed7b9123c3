/-
TreePath.Proofs.Constraint.Targeting — targets evaluated at a schema reach its documents.

Groups are attached by evaluating their targets at the trees of the schema, before there is any
document. What one composition does is said once for each of its parts, from the attachment of a
group to one definition up to the walk over all roots: nothing that was attached is lost
(`Attachments.Extends`), and a group ends up on every definition that its target selects
(`ConstraintGroup.Placed`). For a target that only moves around, the nodes that it selects in any
document of a root have counterparts among those (`Node.Mirrors.reached`), so they carry the group
as well.
-/
import Mathlib
import TreePath.Constraint.Composition
import TreePath.Proofs.Expr.Navigation

namespace TreePath

open Eval

/-! ## Attachments -/

namespace Attachments

/-- Whatever the first attachments carry, the second ones carry too. -/
def Extends (a a' : Attachments) : Prop := ∀ d c, a.carries d c = true → a'.carries d c = true

variable {a a' a'' : Attachments}

theorem Extends.refl (a : Attachments) : a.Extends a := fun _ _ h => h

theorem Extends.trans (h : a.Extends a') (h' : a'.Extends a'') : a.Extends a'' :=
  fun d c hc => h' d c (h d c hc)

theorem extends_add (a : Attachments) (d : DefinitionId) (c : Constraint) :
    a.Extends (a.add d c) := by
  intro d' c' h
  rw [add]
  split
  · exact h
  · simp only [carries, List.any_append, Bool.or_eq_true] at h ⊢
    exact .inl h

theorem carries_add (a : Attachments) (d : DefinitionId) (c : Constraint) :
    (a.add d c).carries d c = true := by
  rw [add]
  split
  · assumption
  · simp [carries]

theorem foldl_add (d : DefinitionId) (cs : List Constraint) (a : Attachments) :
    a.Extends (cs.foldl (fun a c => a.add d c) a) ∧
      ∀ c ∈ cs, (cs.foldl (fun a c => a.add d c) a).carries d c = true := by
  induction cs generalizing a with
  | nil => exact ⟨.refl a, fun _ h => absurd h List.not_mem_nil⟩
  | cons c rest ih =>
    obtain ⟨hext, hall⟩ := ih (a.add d c)
    refine ⟨(extends_add a d c).trans hext, fun c' hc' => ?_⟩
    rcases List.mem_cons.mp hc' with rfl | hc'
    · exact hext _ _ (carries_add a d c')
    · exact hall c' hc'

end Attachments

open Attachments (Extends)

theorem ConstraintGroup.attach_spec {g : ConstraintGroup} {d : Definition} {a a' : Attachments}
    (h : g.attach d a = .ok a') :
    a.Extends a' ∧ ∀ c ∈ g.constraints, a'.carries d.id c = true := by
  rw [attach] at h
  split at h
  · cases h
  · cases h
    exact Attachments.foldl_add d.id g.constraints a

/-! ## Runs of a composition -/

namespace Composing

variable {α β : Type}

/-- What a composition gives, with the attachments and the session afterwards. -/
def runIn (m : Composing α) (a : Attachments) (s : Session) :
    (Except Error α × Attachments) × Session := ((ExceptT.run m).run a).run s

theorem runIn_bind (m : Composing α) (k : α → Composing β) (a : Attachments) (s : Session) :
    runIn (m >>= k) a s = match runIn m a s with
      | ((.ok x, a'), s') => runIn (k x) a' s'
      | ((.error e, a'), s') => ((.error e, a'), s') := by
  rcases h : runIn m a s with ⟨⟨r, a'⟩, s'⟩
  have h' : ((ExceptT.run m).run a).run s = ((r, a'), s') := h
  simp only [runIn, ExceptT.run_bind, StateT.run_bind, h']
  cases r <;> rfl

/-- A run that succeeds is a run of its parts, and they succeed. -/
theorem exists_of_runIn_bind {m : Composing α} {k : α → Composing β} {a a' : Attachments}
    {s s' : Session} {y : β} (h : runIn (m >>= k) a s = ((.ok y, a'), s')) :
    ∃ x a₁ s₁, runIn m a s = ((.ok x, a₁), s₁) ∧ runIn (k x) a₁ s₁ = ((.ok y, a'), s') := by
  rw [runIn_bind] at h
  rcases hm : runIn m a s with ⟨⟨r, a₁⟩, s₁⟩
  rw [hm] at h
  cases r with
  | ok x => exact ⟨x, a₁, s₁, rfl, h⟩
  | error e => cases h

theorem runIn_ofEval (m : Eval α) (a : Attachments) (s : Session) :
    runIn (ofEval m) a s = (((m.runIn s).1, a), (m.runIn s).2) := rfl

/-! ## One group -/

theorem exists_mem_distinctDefinitions {nodes : List Node} {n : Node} (h : n ∈ nodes) :
    ∃ d ∈ distinctDefinitions nodes, d.id = n.definition.id := by
  have hkeep : ∀ (kept : List Definition) (n : Node), ∀ k ∈ kept,
      k ∈ if kept.any fun d => d.id == n.definition.id then kept else kept ++ [n.definition] := by
    intro kept n k hk
    split
    · exact hk
    · exact List.mem_append_left _ hk
  have htake : ∀ (kept : List Definition) (n : Node),
      ∃ k ∈ if kept.any fun d => d.id == n.definition.id then kept else kept ++ [n.definition],
        (k.id == n.definition.id) = true := by
    intro kept n
    split
    · rename_i hany
      exact List.any_eq_true.mp hany
    · exact ⟨n.definition, List.mem_append_right _ List.mem_cons_self, beq_self_eq_true _⟩
  obtain ⟨d, hd, hid⟩ := Node.exists_of_mem_foldl
    (fun (n : Node) (d : Definition) => d.id == n.definition.id) _ hkeep htake [] h
  exact ⟨d, hd, beq_iff_eq.mp hid⟩

variable {g : ConstraintGroup} {a a' : Attachments} {s s' : Session}

theorem runIn_attach {d : Definition} {u : Unit} (h : runIn (attach g d) a s = ((.ok u, a'), s')) :
    a.Extends a' ∧ ∀ c ∈ g.constraints, a'.carries d.id c = true := by
  have hget : runIn (get : Composing Attachments) a s = ((.ok a, a), s) := rfl
  rw [attach, runIn_bind, hget] at h
  simp only at h
  cases hg : g.attach d a with
  | ok b =>
    rw [hg] at h
    cases h
    exact ConstraintGroup.attach_spec hg
  | error e =>
    rw [hg] at h
    cases h

theorem runIn_attachAll {ds : List Definition} {u : Unit}
    (h : runIn (attachAll g ds) a s = ((.ok u, a'), s')) :
    a.Extends a' ∧ ∀ d ∈ ds, ∀ c ∈ g.constraints, a'.carries d.id c = true := by
  induction ds generalizing a s with
  | nil =>
    cases h
    exact ⟨.refl _, fun _ hd => absurd hd List.not_mem_nil⟩
  | cons d rest ih =>
    rw [attachAll] at h
    obtain ⟨_, a₁, s₁, hfirst, hrest⟩ := exists_of_runIn_bind h
    obtain ⟨hext, hcarries⟩ := runIn_attach hfirst
    obtain ⟨hext', hall⟩ := ih hrest
    refine ⟨hext.trans hext', fun d' hd' c hc => ?_⟩
    rcases List.mem_cons.mp hd' with rfl | hd'
    · exact hext' _ _ (hcarries c hc)
    · exact hall d' hd' c hc

end Composing

/-- The target of the group was evaluated at a tree, and all definitions that it selected carry the
constraints of the group. -/
def ConstraintGroup.Placed (g : ConstraintGroup) (ctx : Context) (tree : Node) (a : Attachments) :
    Prop :=
  ∃ s items, ((g.target.evalAt ctx (.node tree)).runIn s).1 = .ok items ∧
    ∀ n, .node n ∈ items → ∀ c ∈ g.constraints, a.carries n.definition.id c = true

theorem ConstraintGroup.Placed.mono {g : ConstraintGroup} {ctx : Context} {tree : Node}
    {a a' : Attachments} (h : g.Placed ctx tree a) (hext : a.Extends a') :
    g.Placed ctx tree a' := by
  obtain ⟨s, items, hitems, hall⟩ := h
  exact ⟨s, items, hitems, fun n hn c hc => hext _ _ (hall n hn c hc)⟩

namespace Composing

variable {ctx : Context} {tree : Node} {a a' : Attachments} {s s' : Session} {count : Nat}

theorem runIn_group {g : ConstraintGroup}
    (h : runIn (group ctx tree g) a s = ((.ok count, a'), s')) :
    a.Extends a' ∧ g.Placed ctx tree a' := by
  rw [group] at h
  obtain ⟨items, a₁, s₁, heval, h⟩ := exists_of_runIn_bind h
  obtain ⟨_, a₂, s₂, hattach, h⟩ := exists_of_runIn_bind h
  rw [runIn_ofEval] at heval
  cases h
  obtain ⟨hext, hall⟩ := runIn_attachAll hattach
  have hitems : ((g.target.evalAt ctx (.node tree)).runIn s).1 = .ok items :=
    congrArg (fun r => r.1.1) heval
  have hsame : a = a₁ := congrArg (fun r => r.1.2) heval
  rw [hsame]
  refine ⟨hext, s, items, hitems, fun n hn c hc => ?_⟩
  have hmem : n ∈ items.filterMap Item.node? := List.mem_filterMap.mpr ⟨.node n, hn, rfl⟩
  obtain ⟨d, hd, hid⟩ := exists_mem_distinctDefinitions hmem
  rw [← hid]
  exact hall d hd c hc

/-! ## All groups and all roots -/

theorem runIn_groups {gs : List ConstraintGroup}
    (h : runIn (groups ctx tree gs) a s = ((.ok count, a'), s')) :
    a.Extends a' ∧ ∀ g ∈ gs, g.Placed ctx tree a' := by
  induction gs generalizing a s count with
  | nil =>
    cases h
    exact ⟨.refl _, fun _ hg => absurd hg List.not_mem_nil⟩
  | cons g rest ih =>
    rw [groups] at h
    obtain ⟨_, a₁, s₁, hfirst, h⟩ := exists_of_runIn_bind h
    obtain ⟨_, a₂, s₂, hrest, h⟩ := exists_of_runIn_bind h
    cases h
    obtain ⟨hext, hplaced⟩ := runIn_group hfirst
    obtain ⟨hext', hall⟩ := ih hrest
    refine ⟨hext.trans hext', fun g' hg' => ?_⟩
    rcases List.mem_cons.mp hg' with rfl | hg'
    · exact hplaced.mono hext'
    · exact hall g' hg'

theorem runIn_roots {gs : List ConstraintGroup} {index : Nat} {ds : List AssemblyDefinition}
    (h : runIn (roots ctx gs index ds) a s = ((.ok count, a'), s')) :
    a.Extends a' ∧ ∀ d ∈ ds, ∃ i, ∀ g ∈ gs,
      g.Placed ctx (Node.root (.schema i) (Tree.schemaDocument d)) a' := by
  induction ds generalizing a s count index with
  | nil =>
    cases h
    exact ⟨.refl _, fun _ hd => absurd hd List.not_mem_nil⟩
  | cons d rest ih =>
    rw [roots] at h
    obtain ⟨_, a₁, s₁, hfirst, h⟩ := exists_of_runIn_bind h
    obtain ⟨_, a₂, s₂, hrest, h⟩ := exists_of_runIn_bind h
    cases h
    obtain ⟨hext, hplaced⟩ := runIn_groups hfirst
    obtain ⟨hext', hall⟩ := ih hrest
    refine ⟨hext.trans hext', fun d' hd' => ?_⟩
    rcases List.mem_cons.mp hd' with rfl | hd'
    · exact ⟨index, fun g hg => (hplaced g hg).mono hext'⟩
    · exact hall d' hd'

end Composing

/-! ## Documents of a module -/

/-- The one schema tree. -/
def Forest.ofSchema (id : TreeId) (root : AssemblyDefinition) : Forest :=
  fun i => if i = id then some (Tree.schemaDocument root) else none

theorem Forest.built_ofSchema (id : TreeId) (root : AssemblyDefinition) :
    (Forest.ofSchema id root).Built := by
  intro i t h
  rw [ofSchema] at h
  split at h
  · cases h
    exact .schemaDocument root
  · cases h

section

variable {e : Expression} {ctx : Context}

/-- A moving expression evaluated at the document node of a document. -/
theorem runIn_evalAt_document (he : e.expr.Navigates) (root : AssemblyDefinition) (b : Binding)
    (uri : Option String) (id : TreeId) (s : Session) :
    (e.evalAt ctx (.node (Node.root id (Tree.document root b uri)))).runIn s
      = (.ok ((e.expr.reached (Node.root id (Tree.document root b uri))).map .node), s) :=
  he.runIn_eval rfl rfl s

/-- A moving expression evaluated at the document node of a schema. -/
theorem runIn_evalAt_schemaDocument (he : e.expr.Navigates) (root : AssemblyDefinition)
    (id : TreeId) (s : Session) :
    (e.evalAt ctx (.node (Node.root id (Tree.schemaDocument root)))).runIn s
      = (.ok ((e.expr.reached (Node.root id (Tree.schemaDocument root))).map .node), s) :=
  he.runIn_eval rfl rfl s

/-- Each node that a moving expression reaches in a document has a counterpart of the same
definition among those that it reaches in the schema. -/
theorem exists_definition_eq (he : e.expr.Navigates) (root : AssemblyDefinition) (b : Binding)
    (uri : Option String) (id id' : TreeId) {x : Node}
    (hx : x ∈ e.expr.reached (Node.root id (Tree.document root b uri))) :
    ∃ y ∈ e.expr.reached (Node.root id' (Tree.schemaDocument root)),
      y.definition = x.definition := by
  have hroot : Node.Mirrors (.ofSchema id' root) (Node.root id (Tree.document root b uri))
      (Node.root id' (Tree.schemaDocument root)) :=
    .root (if_pos rfl) (Tree.document_coveredBy_schemaDocument root b uri)
  obtain ⟨y, hy, hxy⟩ := Node.Mirrors.reached (Forest.built_ofSchema id' root) he hroot hx
  exact ⟨y, hy, hxy.definition.symm⟩

end

/-- **Targets evaluated at the schema cover all documents.** In every document of a root of the
module, an expression that only moves around selects nodes that have counterparts of the same
definition among those it selects in the schema tree of the root. So after a successful composition
every node that the target of a group selects in a document carries all constraints of the group. -/
theorem Module.compose_covers_documents (m : Module) :
    (∀ root ∈ m.roots, ∀ (b : Binding) (uri : Option String) (e : Expression), e.expr.Navigates →
      ∀ (ctx ctx' : Context) (id id' : TreeId) (s s' : Session), ∃ xs ys : List Node,
        (e.evalAt ctx (.node (Node.root id (Tree.document root b uri)))).runIn s
          = (.ok (xs.map .node), s) ∧
        (e.evalAt ctx' (.node (Node.root id' (Tree.schemaDocument root)))).runIn s'
          = (.ok (ys.map .node), s') ∧
        ∀ x ∈ xs, ∃ y ∈ ys, y.definition = x.definition) ∧
    (∀ (ctx : Context) (gs : List ConstraintGroup) (a a' : Attachments) (s s' : Session)
      (count : Nat), Composing.runIn (m.compose ctx gs) a s = ((.ok count, a'), s') →
      ∀ g ∈ gs, g.target.expr.Navigates → ∀ root ∈ m.roots,
      ∀ (b : Binding) (uri : Option String) (ctx' : Context) (id : TreeId) (t : Session),
        ∃ xs : List Node,
          (g.target.evalAt ctx' (.node (Node.root id (Tree.document root b uri)))).runIn t
            = (.ok (xs.map .node), t) ∧
          ∀ x ∈ xs, ∀ c ∈ g.constraints, a'.carries x.definition.id c = true) := by
  refine ⟨?_, ?_⟩
  · intro root _ b uri e he ctx ctx' id id' s s'
    exact ⟨_, _, runIn_evalAt_document he root b uri id s,
      runIn_evalAt_schemaDocument he root id' s',
      fun x hx => exists_definition_eq he root b uri id id' hx⟩
  · intro ctx gs a a' s s' count h g hg he root hroot b uri ctx' id t
    refine ⟨_, runIn_evalAt_document he root b uri id t, fun x hx c hc => ?_⟩
    obtain ⟨i, hplaced⟩ := (Composing.runIn_roots h).2 root hroot
    obtain ⟨s₁, items, hitems, hall⟩ := hplaced g hg
    rw [runIn_evalAt_schemaDocument he] at hitems
    cases hitems
    obtain ⟨y, hy, hdefinition⟩ := exists_definition_eq he root b uri id (.schema i) hx
    rw [← hdefinition]
    exact hall y (List.mem_map.mpr ⟨y, hy, rfl⟩) c hc

/-! A store whose schema declares its items twice under one name: the second declaration counts. -/

namespace Sample

def info : ModuleInfo := ⟨"store", "urn:store", "1.0", none⟩

def itemField (id : DefinitionId) : FieldDefinition :=
  ⟨⟨id, "item", none, info⟩, .string, [⟨⟨⟨1, "id", none, info⟩, .token⟩, none, false⟩]⟩

def storeRoot : AssemblyDefinition :=
  ⟨⟨⟨0, "store", none, info⟩, none, []⟩, [.field none (itemField 2), .field none (itemField 3)]⟩

/-- Two items, one of them with a flag. -/
def storeBinding : Binding :=
  .mk none [] [("item", .mk none [("id", .token "a")] []), ("item", .mk none [] [])]

/-- `//item` -/
def itemTarget : Expression := ⟨"//item", .path .contextItem (.step .model (.name "item")) true⟩

theorem itemTarget_navigates : itemTarget.expr.Navigates := .path true .contextItem (.step _ _)

def itemGroup : ConstraintGroup :=
  { target := itemTarget, constraints := [{ identity := 7, rule := .allowedValues [] true }] }

def ctx : Context := ⟨{ now := (⟨.first, .midnight⟩, .utc) }, ⟨[]⟩, true⟩

end Sample

open Sample in
/-- Both items of the store carry the group, although the schema declares them twice. -/
theorem compose_covers_items_declared_twice :
    ∃ a' s', Composing.runIn (Module.compose ⟨info, [storeRoot]⟩ ctx [itemGroup]) .empty {}
        = ((.ok 1, a'), s') ∧
      ∃ xs : List Node, (itemTarget.evalAt ctx
          (.node (Node.root (.document 0) (Tree.document storeRoot storeBinding none)))).runIn {}
            = (.ok (xs.map .node), {}) ∧
        xs.map (·.definition.id) = [3, 3] ∧
        ∀ x ∈ xs, ∀ c ∈ itemGroup.constraints, a'.carries x.definition.id c = true := by
  have hok : (Composing.runIn (Module.compose ⟨info, [storeRoot]⟩ ctx [itemGroup])
      .empty {}).1.1 = .ok 1 := by cbv
  have hids : (itemTarget.expr.reached (Node.root (.document 0)
      (Tree.document storeRoot storeBinding none))).map (·.definition.id) = [3, 3] := by cbv
  rcases hrun : Composing.runIn (Module.compose ⟨info, [storeRoot]⟩ ctx [itemGroup])
    .empty {} with ⟨⟨r, a'⟩, s'⟩
  rw [hrun] at hok
  cases hok
  obtain ⟨xs, hxs, hall⟩ := (Module.compose_covers_documents ⟨info, [storeRoot]⟩).2 ctx [itemGroup]
    .empty a' {} s' 1 hrun itemGroup List.mem_cons_self itemTarget_navigates storeRoot
    List.mem_cons_self storeBinding none ctx (.document 0) {}
  refine ⟨a', s', rfl, xs, hxs, ?_, hall⟩
  have heval : (itemTarget.evalAt ctx (.node (Node.root (.document 0)
      (Tree.document storeRoot storeBinding none)))).runIn {}
        = (.ok ((itemTarget.expr.reached (Node.root (.document 0)
          (Tree.document storeRoot storeBinding none))).map .node), {}) :=
    runIn_evalAt_document itemTarget_navigates storeRoot storeBinding none (.document 0) {}
  have hsame : xs.map Item.node = (itemTarget.expr.reached (Node.root (.document 0)
      (Tree.document storeRoot storeBinding none))).map Item.node := by
    have h := hxs.symm.trans heval
    simpa using congrArg Prod.fst h
  rw [(List.map_inj_right fun _ _ h => Item.node.inj h).mp hsame]
  exact hids

end TreePath
