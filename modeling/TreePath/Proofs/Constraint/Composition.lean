/-
TreePath.Proofs.Constraint.Composition — what compositions leave and count.

Groups are rejected for one definition at a time. When a composition fails, everything that it has
attached stays, constraints of the rejected group included (`Module.compose_error`); only what would
have come later is missing. A composition that succeeds counts a definition once for every group and
every root at whose tree the group selects it, so a definition that roots share is counted for each
of them. A second composition has nothing left to attach (`Module.compose_count`).
-/
import TreePath.Proofs.Constraint.Rounds

namespace TreePath

/-! ## Compositions that fail -/

open Composing in
/-- **A composition that fails has rejected a group for a definition, not as a whole.** All groups
before it stay attached to the definitions that they selected. The group itself stays attached to
those that it was attached to before the failure: at the trees of earlier roots, and before the
first definition that cannot carry it. Nothing else is attached. -/
theorem Module.compose_error {m : Module} {ctx : Context} {gs : List ConstraintGroup}
    {a a' : Attachments} {s s' : Session} {e : Error}
    (h : (m.compose ctx gs).runIn a s = ((.error e, a'), s')) :
    ∃ done round rest before, m.rounds gs = done ++ round :: rest ∧
      (∀ r ∈ done, r.Settled ctx s') ∧ round.FailsAfter ctx s' before e ∧
      ∀ id c, a'.carries id c = true ↔ a.carries id c = true ∨
        (∃ r ∈ done, r.group.Has c ∧ ∃ d ∈ r.definitions ctx s', d.id = id) ∨
        round.group.Has c ∧ ∃ d ∈ before, d.id = id := by
  rw [m.compose_eq] at h
  obtain ⟨-, done, round, rest, before, hrounds, hdone, hfails, rfl⟩ := runIn_all_error h
  refine ⟨done, round, rest, before, hrounds, hdone, hfails, fun id c => ?_⟩
  rw [Attachments.placeAll_append, Attachments.carries_placeAll, Attachments.carries_placeAll,
    exists_mem_visits, Round.exists_mem_visitsOf, or_assoc]

/-! A store and its items are to have different items, which only the store can be asked for. -/

namespace Sample

/-- `(store, store/item)` -/
def storeAndItems : Expression :=
  ⟨"(store, store/item)", .sequence [.step .model (.name "store"),
    .path (.step .model (.name "store")) (.step .model (.name "item")) false]⟩

def differentItems : ConstraintGroup :=
  { target := storeAndItems
    constraints := [{ identity := 8
                      target := ⟨"item", .step .model (.name "item")⟩
                      rule := .unique [{ target := .contextItem }] }] }

end Sample

open Sample in
/-- The store carries the group although the composition has failed at the first item. -/
theorem compose_leaves_rejected_group :
    ∃ e a' s', (Module.compose ⟨info, [storeRoot]⟩ ctx [differentItems]).runIn .empty {}
        = ((.error e, a'), s') ∧ e.code = .misplacedConstraint ∧
      ∀ c ∈ differentItems.constraints, a'.carries 0 c = true ∧
        Attachments.empty.carries 0 c = false := by
  have hfails : (match ((Module.compose ⟨info, [storeRoot]⟩ ctx [differentItems]).runIn
      .empty {}).1.1 with
    | .error e => e.code
    | .ok _ => .wrongType) = .misplacedConstraint := by cbv
  have hcarries : differentItems.constraints.all fun c =>
      ((Module.compose ⟨info, [storeRoot]⟩ ctx [differentItems]).runIn .empty {}).1.2.carries 0 c
        := by cbv
  rcases hrun : (Module.compose ⟨info, [storeRoot]⟩ ctx [differentItems]).runIn .empty {} with
    ⟨⟨o, a'⟩, s'⟩
  rw [hrun] at hfails hcarries
  cases o with
  | ok n => cases hfails
  | error e => exact ⟨e, a', s', rfl, hfails, fun c hc => ⟨List.all_eq_true.mp hcarries c hc, rfl⟩⟩

open Sample in
/-- The field comes after the store in the round of the group, which leaves the store with it. -/
theorem compose_error_at_item :
    ∃ e a' s', (Module.compose ⟨info, [storeRoot]⟩ ctx [differentItems]).runIn .empty {}
        = ((.error e, a'), s') ∧
      ∃ done round rest before,
        Module.rounds ⟨info, [storeRoot]⟩ [differentItems] = done ++ round :: rest ∧
        (∀ r ∈ done, r.Settled ctx s') ∧ round.FailsAfter ctx s' before e ∧
        ∀ id c, a'.carries id c = true ↔ Attachments.empty.carries id c = true ∨
          (∃ r ∈ done, r.group.Has c ∧ ∃ d ∈ r.definitions ctx s', d.id = id) ∨
          round.group.Has c ∧ ∃ d ∈ before, d.id = id := by
  have hfails : ((Module.compose ⟨info, [storeRoot]⟩ ctx [differentItems]).runIn
      .empty {}).1.1.isOk = false := by cbv
  rcases hrun : (Module.compose ⟨info, [storeRoot]⟩ ctx [differentItems]).runIn .empty {} with
    ⟨⟨o, a'⟩, s'⟩
  rw [hrun] at hfails
  cases o with
  | ok n => cases hfails
  | error e => exact ⟨e, a', s', rfl, Module.compose_error hrun⟩

/-! ## Compositions that succeed -/

namespace Composing

/-- The visits by their numbers: the root, the group and the definition. -/
def marks (ctx : Context) (t : Session) (rs : List Round) : List (Nat × Nat × DefinitionId) :=
  rs.flatMap fun r => (r.definitions ctx t).map fun d => (r.root, r.number, d.id)

theorem length_marks (ctx : Context) (t : Session) (rs : List Round) :
    (marks ctx t rs).length = (visits ctx t rs).length := by
  simp only [marks, visits, Round.visitsOf, List.length_flatMap, List.length_map]

theorem nodup_definitions (ctx : Context) (t : Session) (r : Round) :
    ((r.definitions ctx t).map (·.id)).Nodup := by
  unfold Round.definitions
  split
  · exact nodup_distinctDefinitions _
  · exact List.nodup_nil

/-- Rounds differ in their root or in their group. -/
theorem pairwise_rounds (m : Module) (gs : List ConstraintGroup) :
    (m.rounds gs).Pairwise fun r r' => (r.root, r.number) ≠ (r'.root, r'.number) := by
  have hindex : ∀ {α : Type} (l : List α), l.zipIdx.Pairwise fun x y => x.2 ≠ y.2 :=
    fun l => List.pairwise_map.mp (List.nodup_zipIdx_map_snd l)
  unfold Module.rounds rounds
  rw [List.pairwise_flatMap]
  refine ⟨fun x _ => ?_, (hindex m.roots).imp fun hne r hr r' hr' heq => ?_⟩
  · rw [List.pairwise_map]
    exact (hindex gs).imp fun hne heq => hne (Prod.mk.inj heq).2
  · obtain ⟨y, -, rfl⟩ := List.mem_map.mp hr
    obtain ⟨y', -, rfl⟩ := List.mem_map.mp hr'
    exact hne (Prod.mk.inj heq).1

theorem nodup_marks (m : Module) (ctx : Context) (t : Session) (gs : List ConstraintGroup) :
    (marks ctx t (m.rounds gs)).Nodup := by
  unfold marks
  rw [List.nodup_flatMap]
  refine ⟨fun r _ => ?_, (pairwise_rounds m gs).imp fun hne x hx hx' => ?_⟩
  · have h := (nodup_definitions ctx t r).map (f := fun id => (r.root, r.number, id))
      fun id id' heq => (Prod.mk.inj (Prod.mk.inj heq).2).2
    rw [List.map_map] at h
    exact h
  · obtain ⟨d, -, rfl⟩ := List.mem_map.mp hx
    obtain ⟨d', -, heq⟩ := List.mem_map.mp hx'
    obtain ⟨hroot, heq⟩ := Prod.mk.inj heq
    exact hne (Prod.ext hroot.symm (Prod.mk.inj heq).1.symm)

end Composing

/-- At the tree of a root, the target of a group selects a node of a definition. -/
def Module.Selects (m : Module) (ctx : Context) (t : Session) (gs : List ConstraintGroup)
    (root group : Nat) (id : DefinitionId) : Prop :=
  ∃ d g items n, m.roots[root]? = some d ∧ gs[group]? = some g ∧
    ((g.target.evalAt ctx (.node (Node.root (.schema root) (Tree.schemaDocument d)))).runIn t).1
      = .ok items ∧
    .node n ∈ items ∧ n.definition.id = id

theorem Composing.mem_map_id_definitions {ctx : Context} {t : Session} {r : Round}
    {id : DefinitionId} : id ∈ (r.definitions ctx t).map (·.id) ↔
      ∃ items n, ((r.evaluation ctx).runIn t).1 = .ok items ∧ .node n ∈ items ∧
        n.definition.id = id := by
  have hnode : ∀ {items : Sequence} {n : Node},
      n ∈ items.filterMap Item.node? ↔ .node n ∈ items := by
    intro items n
    rw [List.mem_filterMap]
    constructor
    · rintro ⟨i, hi, hn⟩
      cases i with
      | node n' =>
        cases hn
        exact hi
      | atomic v => cases hn
    · exact fun hn => ⟨.node n, hn, rfl⟩
  unfold Round.definitions
  cases ((r.evaluation ctx).runIn t).1 with
  | error e =>
    refine ⟨fun h => absurd h List.not_mem_nil, ?_⟩
    rintro ⟨items, n, h, -⟩
    cases h
  | ok items =>
    simp only [mem_map_id_distinctDefinitions, hnode, Except.ok.injEq]
    constructor
    · rintro ⟨n, hn, hid⟩
      exact ⟨items, n, rfl, hn, hid⟩
    · rintro ⟨_, n, rfl, hn, hid⟩
      exact ⟨n, hn, hid⟩

open Composing in
theorem Module.mem_marks {m : Module} {ctx : Context} {t : Session} {gs : List ConstraintGroup}
    {root group : Nat} {id : DefinitionId} :
    (root, group, id) ∈ marks ctx t (m.rounds gs) ↔ m.Selects ctx t gs root group id := by
  have hmark : (root, group, id) ∈ marks ctx t (m.rounds gs) ↔
      ∃ r ∈ m.rounds gs, r.root = root ∧ r.number = group ∧
        id ∈ (r.definitions ctx t).map (·.id) := by
    simp only [marks, List.mem_flatMap, List.mem_map, Prod.mk.injEq]
    constructor
    · rintro ⟨r, hr, d, hd, hroot, hnumber, hid⟩
      exact ⟨r, hr, hroot, hnumber, d, hd, hid⟩
    · rintro ⟨r, hr, hroot, hnumber, d, hd, hid⟩
      exact ⟨r, hr, d, hd, hroot, hnumber, hid⟩
  rw [hmark]
  constructor
  · rintro ⟨r, hr, rfl, rfl, hid⟩
    obtain ⟨⟨d, i⟩, hd, hr⟩ := List.mem_flatMap.mp hr
    obtain ⟨⟨g, j⟩, hg, rfl⟩ := List.mem_map.mp hr
    obtain ⟨items, n, hitems, hn, hid⟩ := mem_map_id_definitions.mp hid
    exact ⟨d, g, items, n, List.mk_mem_zipIdx_iff_getElem?.mp hd,
      List.mk_mem_zipIdx_iff_getElem?.mp hg, hitems, hn, hid⟩
  · rintro ⟨d, g, items, n, hd, hg, hitems, hn, hid⟩
    refine ⟨⟨root, group, Node.root (.schema root) (Tree.schemaDocument d), g⟩, ?_, rfl, rfl,
      mem_map_id_definitions.mpr ⟨items, n, hitems, hn, hid⟩⟩
    refine List.mem_flatMap.mpr ⟨(d, root), List.mk_mem_zipIdx_iff_getElem?.mpr hd, ?_⟩
    exact List.mem_map.mpr ⟨(g, group), List.mk_mem_zipIdx_iff_getElem?.mpr hg, rfl⟩

/-- **A composition counts the definitions of each group at each root.** -/
theorem Module.compose_count {m : Module} {ctx : Context} {gs : List ConstraintGroup}
    {a a' : Attachments} {s s' : Session} {n : Nat}
    (h : (m.compose ctx gs).runIn a s = ((.ok n, a'), s')) :
    n = {v : Nat × Nat × DefinitionId | m.Selects ctx s' gs v.1 v.2.1 v.2.2}.ncard ∧
      (n = {v : Nat × DefinitionId | ∃ root, m.Selects ctx s' gs root v.1 v.2}.ncard ↔
        ∀ root root' group id, m.Selects ctx s' gs root group id →
          m.Selects ctx s' gs root' group id → root = root') ∧
      ∀ t : Session, t.Remembers s' →
        ∃ t', (m.compose ctx gs).runIn a' t = ((.ok n, a'), t') := by
  rw [m.compose_eq] at h ⊢
  obtain ⟨-, hsettled, rfl, rfl⟩ := Composing.runIn_all_ok h
  have hmarks : {v : Nat × Nat × DefinitionId | m.Selects ctx s' gs v.1 v.2.1 v.2.2}
      = ↑(Composing.marks ctx s' (m.rounds gs)).toFinset := by
    ext ⟨root, group, id⟩
    rw [Finset.mem_coe, List.mem_toFinset, m.mem_marks]
    rfl
  have hcount : (Composing.visits ctx s' (m.rounds gs)).length
      = {v : Nat × Nat × DefinitionId | m.Selects ctx s' gs v.1 v.2.1 v.2.2}.ncard := by
    rw [hmarks, Set.ncard_coe_finset,
      List.toFinset_card_of_nodup (Composing.nodup_marks m ctx s' gs), Composing.length_marks]
  refine ⟨hcount, ?_, fun t ht => ?_⟩
  · have himage : {v : Nat × DefinitionId | ∃ root, m.Selects ctx s' gs root v.1 v.2}
        = Prod.snd '' {v : Nat × Nat × DefinitionId | m.Selects ctx s' gs v.1 v.2.1 v.2.2} := by
      ext v
      constructor
      · rintro ⟨root, hv⟩
        exact ⟨(root, v), hv, rfl⟩
      · rintro ⟨⟨root, v'⟩, hv, rfl⟩
        exact ⟨root, hv⟩
    have hfinite : {v : Nat × Nat × DefinitionId | m.Selects ctx s' gs v.1 v.2.1 v.2.2}.Finite := by
      rw [hmarks]
      exact Finset.finite_toSet _
    rw [hcount, himage, eq_comm, Set.ncard_image_iff hfinite]
    constructor
    · intro hinj root root' group id hv hv'
      have heq : (root, group, id) = (root', group, id) := hinj hv hv' rfl
      exact (Prod.mk.inj heq).1
    · rintro hroots ⟨root, v⟩ hv ⟨root', v'⟩ hv' heq
      cases heq
      exact Prod.ext (hroots root root' v.1 v.2 hv hv') rfl
  · obtain ⟨t', -, hrun⟩ := Composing.runIn_all_settled hsettled ht
      (a.placeAll (Composing.visits ctx s' (m.rounds gs)))
    rw [Attachments.placeAll_again] at hrun
    exact ⟨t', hrun⟩

/-! Two roots share a flag definition, and a group is for the flags of both. -/

namespace Sample

def flaggedRoot (id : DefinitionId) (name : String) : AssemblyDefinition :=
  ⟨⟨⟨id, name, none, info⟩, none, [⟨⟨⟨1, "id", none, info⟩, .token⟩, none, false⟩]⟩, []⟩

def twoRoots : Module := ⟨info, [flaggedRoot 4 "shelf", flaggedRoot 5 "box"]⟩

/-- Values of the flags at the roots, `*/@id`. -/
def flagGroup : ConstraintGroup :=
  { target := ⟨"*/@id", .path (.step .model .wildcard) (.step .flag (.name "id")) false⟩
    constraints := [{ identity := 9, rule := .allowedValues [("a", "A")] false }] }

end Sample

open Sample in
/-- There is one flag definition, and it is counted twice. -/
theorem compose_counts_shared_flag_twice :
    ∃ a' s', (twoRoots.compose ctx [flagGroup]).runIn .empty {} = ((.ok 2, a'), s') ∧
      {v : Nat × DefinitionId | ∃ root, twoRoots.Selects ctx s' [flagGroup] root v.1 v.2}.ncard
        = 1 := by
  have hcount : ((twoRoots.compose ctx [flagGroup]).runIn .empty {}).1.1 = .ok 2 := by cbv
  have hmarks : Composing.marks ctx ((twoRoots.compose ctx [flagGroup]).runIn .empty {}).2
      (twoRoots.rounds [flagGroup]) = [(0, 0, 1), (1, 0, 1)] := by cbv
  rcases hrun : (twoRoots.compose ctx [flagGroup]).runIn .empty {} with ⟨⟨o, a'⟩, s'⟩
  rw [hrun] at hcount hmarks
  cases hcount
  refine ⟨a', s', rfl, ?_⟩
  have hpairs : {v : Nat × DefinitionId |
      ∃ root, twoRoots.Selects ctx s' [flagGroup] root v.1 v.2} = {(0, 1)} := by
    ext ⟨group, id⟩
    simp only [Set.mem_ofPred_eq, ← Module.mem_marks, hmarks, List.mem_cons, List.not_mem_nil,
      or_false, Prod.mk.injEq, Set.mem_singleton_iff]
    constructor
    · rintro ⟨root, ⟨-, h⟩ | ⟨-, h⟩⟩ <;> exact h
    · exact fun h => ⟨0, .inl ⟨rfl, h⟩⟩
  rw [hpairs, Set.ncard_singleton]

open Sample in
/-- The count of the composition, and a second composition that attaches nothing. -/
theorem compose_count_of_two_roots :
    ∃ a' s', (twoRoots.compose ctx [flagGroup]).runIn .empty {} = ((.ok 2, a'), s') ∧
      2 = {v : Nat × Nat × DefinitionId |
        twoRoots.Selects ctx s' [flagGroup] v.1 v.2.1 v.2.2}.ncard ∧
      (2 = {v : Nat × DefinitionId |
          ∃ root, twoRoots.Selects ctx s' [flagGroup] root v.1 v.2}.ncard ↔
        ∀ root root' group id, twoRoots.Selects ctx s' [flagGroup] root group id →
          twoRoots.Selects ctx s' [flagGroup] root' group id → root = root') ∧
      ∀ t : Session, t.Remembers s' →
        ∃ t', (twoRoots.compose ctx [flagGroup]).runIn a' t = ((.ok 2, a'), t') := by
  have hcount : ((twoRoots.compose ctx [flagGroup]).runIn .empty {}).1.1 = .ok 2 := by cbv
  rcases hrun : (twoRoots.compose ctx [flagGroup]).runIn .empty {} with ⟨⟨o, a'⟩, s'⟩
  rw [hrun] at hcount
  cases hcount
  exact ⟨a', s', rfl, Module.compose_count hrun⟩

end TreePath
