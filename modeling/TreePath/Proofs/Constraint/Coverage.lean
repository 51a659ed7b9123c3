/-
TreePath.Proofs.Constraint.Coverage — every constraint is checked once at every node it is for.

Attaching keeps what is attached free of repetitions (`Attachments.nodup_add`), and gives no
definition two constraints of one identity (`Attachments.Unrepeated.add`). A composition does
nothing else (`Module.keeps_compose`). A walk over a document comes upon every node and every flag
once. So the checks of a document are all pairs of a node and a constraint of its definition, each
of them once (`mem_allChecks`, `nodup_allChecks`).
-/
import TreePath.Proofs.Constraint.CrossReferences
import TreePath.Proofs.Constraint.Targeting

namespace TreePath

/-! ## Attaching -/

namespace Attachments

theorem nodup_add {a : Attachments} (h : a.entries.Nodup) (d : DefinitionId) (c : Constraint) :
    (a.add d c).entries.Nodup := by
  rw [add]
  split
  · exact h
  · rename_i hcarries
    have hnew : (d, c) ∉ a.entries := fun hmem =>
      hcarries (List.any_eq_true.mpr ⟨(d, c), hmem, by simp⟩)
    exact List.nodup_append.mpr ⟨h, List.nodup_singleton _, fun e he e' he' heq => by
      rw [heq, List.mem_singleton.mp he'] at he
      exact hnew he⟩

/-- No definition carries two constraints of one identity. -/
def Unrepeated (a : Attachments) : Prop := (a.entries.map fun e => (e.1, e.2.identity)).Nodup

theorem Unrepeated.nodup {a : Attachments} (h : a.Unrepeated) : a.entries.Nodup := h.of_map

theorem Unrepeated.add {a : Attachments} (h : a.Unrepeated) (d : DefinitionId) (c : Constraint) :
    (a.add d c).Unrepeated := by
  rw [Attachments.add]
  split
  · exact h
  · rename_i hcarries
    rw [Unrepeated, List.map_append]
    refine List.nodup_append.mpr ⟨h, List.nodup_singleton _, fun p hp p' hp' heq => hcarries ?_⟩
    obtain ⟨e, he, rfl⟩ := List.mem_map.mp hp
    obtain ⟨hd, hidentity⟩ := Prod.mk.inj (heq.trans (List.mem_singleton.mp hp'))
    exact List.any_eq_true.mpr ⟨e, he, by simp [hd, hidentity]⟩

/-- Two constraints of one definition are told apart by their identities. -/
theorem Unrepeated.eq_of_identity_eq {a : Attachments} (h : a.Unrepeated) {d : DefinitionId}
    {c c' : Constraint} (hc : (d, c) ∈ a.entries) (hc' : (d, c') ∈ a.entries)
    (hidentity : c.identity = c'.identity) : c = c' :=
  (Prod.mk.inj (List.inj_on_of_nodup_map h hc hc' (by rw [hidentity]))).2

variable {P : Attachments → Prop}

theorem keeps_foldl_add (h : ∀ a d c, P a → P (a.add d c)) {a : Attachments} (ha : P a)
    (d : DefinitionId) (cs : List Constraint) : P (cs.foldl (fun a c => a.add d c) a) := by
  induction cs generalizing a with
  | nil => exact ha
  | cons c rest ih => exact ih (h a d c ha)

end Attachments

/-- Attaching a group is attaching its constraints. -/
theorem ConstraintGroup.keeps_attach {P : Attachments → Prop}
    (h : ∀ a d c, P a → P (a.add d c)) {g : ConstraintGroup} {d : Definition} {a a' : Attachments}
    (ha : P a) (hattach : g.attach d a = .ok a') : P a' := by
  rw [attach] at hattach
  split at hattach
  · cases hattach
  · cases hattach
    exact Attachments.keeps_foldl_add h ha d.id g.constraints

/-! ## Compositions -/

namespace Composing

variable {α β : Type} {P : Attachments → Prop}

/-- Whatever comes of the composition, the attachments stay as they have to be. -/
def Keeps (P : Attachments → Prop) (m : Composing α) : Prop :=
  ∀ a s, P a → P (runIn m a s).1.2

theorem Keeps.pure (x : α) : Keeps P (pure x : Composing α) := fun _ _ h => h

theorem Keeps.ofEval (m : Eval α) : Keeps P (Composing.ofEval m) := fun _ _ h => h

theorem Keeps.bind {m : Composing α} {k : α → Composing β} (hm : Keeps P m)
    (hk : ∀ x, Keeps P (k x)) : Keeps P (m >>= k) := by
  intro a s ha
  have hfirst := hm a s ha
  rw [runIn_bind]
  rcases h : runIn m a s with ⟨⟨r, a₁⟩, s₁⟩
  rw [h] at hfirst
  cases r with
  | ok x => exact hk x a₁ s₁ hfirst
  | error e => exact hfirst

/-- What every attachment of the group keeps, its composition keeps. -/
theorem keeps_attach {g : ConstraintGroup}
    (h : ∀ d a a', P a → g.attach d a = .ok a' → P a') (d : Definition) :
    Keeps P (attach g d) := by
  intro a s ha
  have hget : runIn (get : Composing Attachments) a s = ((.ok a, a), s) := rfl
  rw [attach, runIn_bind, hget]
  simp only
  cases hg : g.attach d a with
  | ok b => exact h d a b ha hg
  | error e => exact ha

theorem keeps_attachAll {g : ConstraintGroup}
    (h : ∀ d a a', P a → g.attach d a = .ok a' → P a') (ds : List Definition) :
    Keeps P (attachAll g ds) := by
  induction ds with
  | nil => exact .pure ()
  | cons d rest ih =>
    rw [attachAll]
    exact .bind (keeps_attach h d) fun _ => ih

theorem keeps_groups (h : ∀ (g : ConstraintGroup) d a a', P a → g.attach d a = .ok a' → P a')
    (ctx : Context) (tree : Node) (gs : List ConstraintGroup) :
    Keeps P (groups ctx tree gs) := by
  induction gs with
  | nil => exact .pure 0
  | cons g rest ih =>
    have hgroup : Keeps P (group ctx tree g) := by
      rw [group]
      exact .bind (.ofEval _) fun _ => .bind (keeps_attachAll (h g) _) fun _ => .pure _
    rw [groups]
    exact .bind hgroup fun _ => .bind ih fun _ => .pure _

theorem keeps_roots (h : ∀ (g : ConstraintGroup) d a a', P a → g.attach d a = .ok a' → P a')
    (ctx : Context) (gs : List ConstraintGroup) (index : Nat) (ds : List AssemblyDefinition) :
    Keeps P (roots ctx gs index ds) := by
  induction ds generalizing index with
  | nil => exact .pure 0
  | cons d rest ih =>
    rw [roots]
    exact .bind (keeps_groups h ctx _ gs) fun _ => .bind (ih (index + 1)) fun _ => .pure _

end Composing

/-- What every attachment of a constraint keeps, a composition keeps, whether it succeeds or not. -/
theorem Module.keeps_compose {P : Attachments → Prop} (h : ∀ a d c, P a → P (a.add d c))
    (m : Module) (ctx : Context) (gs : List ConstraintGroup) {a : Attachments} (ha : P a)
    (σ : Session) : P ((m.compose ctx gs).runIn a σ).1.2 :=
  Composing.keeps_roots (fun _ _ _ _ => ConstraintGroup.keeps_attach h) ctx gs 0 m.roots a σ ha

/-- **A composition attaches nothing twice**, whether it succeeds or not. -/
theorem Module.nodup_compose (m : Module) (ctx : Context) (gs : List ConstraintGroup)
    {a : Attachments} (ha : a.entries.Nodup) (σ : Session) :
    ((m.compose ctx gs).runIn a σ).1.2.entries.Nodup :=
  m.keeps_compose (P := fun a => a.entries.Nodup) (fun _ d c h => Attachments.nodup_add h d c)
    ctx gs ha σ

/-- It gives no definition two constraints of one identity. -/
theorem Module.unrepeated_compose (m : Module) (ctx : Context) (gs : List ConstraintGroup)
    {a : Attachments} (ha : a.Unrepeated) (σ : Session) :
    ((m.compose ctx gs).runIn a σ).1.2.Unrepeated :=
  m.keeps_compose (fun _ d c h => h.add d c) ctx gs ha σ

/-! ## Checks -/

namespace Attachments

variable {a : Attachments} {d : DefinitionId}

theorem mem_ofKind {kind : ConstraintKind} {c : Constraint} :
    c ∈ a.ofKind d kind ↔ (d, c) ∈ a.entries ∧ c.kind = kind := by
  simp only [ofKind, ofDefinition, List.mem_filter, List.mem_map, beq_iff_eq]
  refine and_congr_left fun _ => ⟨?_, fun h => ⟨(d, c), ⟨h, rfl⟩, rfl⟩⟩
  rintro ⟨⟨d', c'⟩, ⟨he, rfl⟩, rfl⟩
  exact he

/-- The constraints of all kinds are those of the definition. -/
theorem mem_inOrder {c : Constraint} : c ∈ a.inOrder d ↔ (d, c) ∈ a.entries := by
  rw [inOrder, List.mem_flatMap]
  constructor
  · rintro ⟨kind, -, h⟩
    exact (mem_ofKind.mp h).1
  · intro h
    exact ⟨c.kind, by cases c.kind <;> decide, mem_ofKind.mpr ⟨h, rfl⟩⟩

theorem nodup_inOrder (h : a.entries.Nodup) (d : DefinitionId) : (a.inOrder d).Nodup := by
  have hdefinition : (a.ofDefinition d).Nodup := by
    refine (List.Nodup.filter _ h).map_on fun e he e' he' heq => ?_
    have hd := beq_iff_eq.mp (List.mem_filter.mp he).2
    have hd' := beq_iff_eq.mp (List.mem_filter.mp he').2
    exact Prod.ext (hd.trans hd'.symm) heq
  refine List.nodup_flatMap.mpr ⟨fun _ _ => hdefinition.filter _, ?_⟩
  -- a constraint is of one kind only
  refine List.Pairwise.imp (fun hne c hc hc' => ?_) (show ConstraintKind.all.Nodup by decide)
  exact hne ((mem_ofKind.mp hc).2.symm.trans (mem_ofKind.mp hc').2)

variable {F : Forest} {document : Node}

theorem nodup_nodes (hF : F.Built) (hdocument : document.Within F) :
    (Validation.nodes document).Nodup := by
  refine List.Nodup.filter _ ((hdocument.pairwise_address hF).imp fun hlt heq => ?_)
  rw [heq, Node.compareKeys_self] at hlt
  cases hlt

/-- **What is checked in a document**: every node but the document node, and every flag, against the
constraints of its definition. -/
theorem mem_allChecks (hF : F.Built) (hdocument : document.Within F) {n : Node} {c : Constraint} :
    (n, c) ∈ a.allChecks document
      ↔ document.Reaches n ∧ n.kind ≠ .document ∧ (n.definition.id, c) ∈ a.entries := by
  simp only [allChecks, List.mem_flatMap, List.mem_map, Prod.mk.injEq, Validation.nodes,
    List.mem_filter, hdocument.mem_withFlags_iff hF, bne_iff_ne, mem_inOrder]
  constructor
  · rintro ⟨n, ⟨hreaches, hkind⟩, c, hc, rfl, rfl⟩
    exact ⟨hreaches, hkind, hc⟩
  · rintro ⟨hreaches, hkind, hc⟩
    exact ⟨n, ⟨hreaches, hkind⟩, c, hc, rfl, rfl⟩

/-- **No check is made twice.** -/
theorem nodup_allChecks (hF : F.Built) (hdocument : document.Within F) (ha : a.entries.Nodup) :
    (a.allChecks document).Nodup := by
  refine List.nodup_flatMap.mpr ⟨fun n _ => (nodup_inOrder ha _).map fun c c' h => ?_, ?_⟩
  · exact (Prod.mk.inj h).2
  · refine (nodup_nodes hF hdocument).imp fun hne p hp hp' => ?_
    obtain ⟨c, -, rfl⟩ := List.mem_map.mp hp
    obtain ⟨c', -, heq⟩ := List.mem_map.mp hp'
    exact hne (Prod.mk.inj heq).1.symm

end Attachments

end TreePath
