/-
TreePath.Proofs.Constraint.Rounds — what a composition visits, and what it leaves.

A composition goes through rounds, one for each root and each group (`Module.compose_eq`). In a
round the target of the group is evaluated and the group is attached to the definitions that it
selects, until one of them cannot carry it. So a composition leaves what its visits leave, be it all
of them (`Composing.runIn_all_ok`) or those before the failure (`Composing.runIn_all_error`).

Targets are evaluated in the session as it is at the time, and each evaluation may keep results that
later ones find. An evaluation that has succeeded can be repeated, though, in every session that
remembers what it left (`Expression.evalAt_repeats`). So all targets can be said to be evaluated in
the session at the end, and the whole composition can be repeated (`Composing.runIn_all_settled`).
-/
import TreePath.Proofs.Constraint.Attaching
import TreePath.Proofs.Session.Repetition

namespace TreePath

/-! ## Rounds -/

namespace Composing

/-- One evaluation of a target. -/
structure Round where
  /-- The number of the root. -/
  root : Nat
  /-- The number of the group. -/
  number : Nat
  tree : Node
  group : ConstraintGroup

/-- The rounds of some roots; `index` is the number of the first of them. -/
def rounds (gs : List ConstraintGroup) (index : Nat) (ds : List AssemblyDefinition) : List Round :=
  (ds.zipIdx index).flatMap fun (d, i) => gs.zipIdx.map fun (g, j) =>
    ⟨i, j, Node.root (.schema i) (Tree.schemaDocument d), g⟩

/-- Attaches groups round by round, and counts the definitions. -/
def all (ctx : Context) : List Round → Composing Nat
  | [] => return 0
  | r :: rest => do
    let n ← group ctx r.tree r.group
    return n + (← all ctx rest)

theorem all_append (ctx : Context) (rs rs' : List Round) :
    all ctx (rs ++ rs') = do return (← all ctx rs) + (← all ctx rs') := by
  induction rs with
  | nil => simp only [List.nil_append, all, pure_bind, Nat.zero_add, bind_pure]
  | cons r rest ih =>
    simp only [List.cons_append, all, ih, bind_assoc, pure_bind, Nat.add_assoc]

theorem groups_eq (ctx : Context) (tree : Node) (gs : List ConstraintGroup) (i j : Nat) :
    groups ctx tree gs = all ctx ((gs.zipIdx j).map fun (g, j) => ⟨i, j, tree, g⟩) := by
  induction gs generalizing j with
  | nil => rfl
  | cons g rest ih => rw [groups, ih (j + 1), List.zipIdx_cons, List.map_cons, all]

theorem roots_eq (ctx : Context) (gs : List ConstraintGroup) (index : Nat)
    (ds : List AssemblyDefinition) : roots ctx gs index ds = all ctx (rounds gs index ds) := by
  induction ds generalizing index with
  | nil => rfl
  | cons d rest ih =>
    rw [roots, ih, groups_eq ctx _ gs index 0, rounds, rounds, List.zipIdx_cons,
      List.flatMap_cons, all_append]

end Composing

/-- The rounds of a composition. -/
def Module.rounds (m : Module) (gs : List ConstraintGroup) : List Composing.Round :=
  Composing.rounds gs 0 m.roots

theorem Module.compose_eq (m : Module) (ctx : Context) (gs : List ConstraintGroup) :
    m.compose ctx gs = Composing.all ctx (m.rounds gs) :=
  Composing.roots_eq ctx gs 0 m.roots

/-! ## Definitions, each once -/

open KeyedList (putNew)

namespace Composing

theorem distinctDefinitions_eq (nodes : List Node) :
    distinctDefinitions nodes = (nodes.map (·.definition)).foldl (putNew Definition.id) [] := by
  rw [List.foldl_map]
  rfl

/-- No identity occurs twice, -/
theorem nodup_distinctDefinitions (nodes : List Node) :
    ((distinctDefinitions nodes).map (·.id)).Nodup := by
  rw [distinctDefinitions_eq]
  exact List.pairwise_map.mpr (KeyedList.pairwise_foldl_putNew .nil _)

/-- and every identity of a node occurs. -/
theorem mem_map_id_distinctDefinitions {nodes : List Node} {id : DefinitionId} :
    id ∈ (distinctDefinitions nodes).map (·.id) ↔ ∃ n ∈ nodes, n.definition.id = id := by
  rw [List.mem_map]
  constructor
  · rintro ⟨d, hd, rfl⟩
    rw [distinctDefinitions_eq] at hd
    rcases KeyedList.mem_of_mem_foldl_putNew hd with h | h
    · exact absurd h List.not_mem_nil
    · obtain ⟨n, hn, rfl⟩ := List.mem_map.mp h
      exact ⟨n, hn, rfl⟩
  · rintro ⟨n, hn, rfl⟩
    exact exists_mem_distinctDefinitions hn

/-! ## One group -/

section

variable {g : ConstraintGroup} {ds : List Definition} {a a' : Attachments} {s s' : Session}

/-- Suited to all definitions, the group is attached to them all. -/
theorem runIn_attachAll_suited (h : ∀ d ∈ ds, g.obstacle? d = none) (a : Attachments)
    (s : Session) : (attachAll g ds).runIn a s = ((.ok (), a.placeAll (ds.map (g, ·))), s) := by
  induction ds generalizing a with
  | nil => rfl
  | cons d rest ih =>
    obtain ⟨hd, hrest⟩ := List.forall_mem_cons.mp h
    rw [attachAll, runIn_bind, runIn_attach_eq, ConstraintGroup.outcome, hd]
    exact ih hrest (g.place d.id a)

/-- Otherwise it is attached to those before the first to which it is not. -/
theorem runIn_attachAll_unsuited {before after : List Definition} {d : Definition} {e : Error}
    (h : ∀ d ∈ before, g.obstacle? d = none) (hd : g.obstacle? d = some e) (a : Attachments)
    (s : Session) : (attachAll g (before ++ d :: after)).runIn a s
      = ((.error e, a.placeAll (before.map (g, ·))), s) := by
  induction before generalizing a with
  | nil =>
    rw [List.nil_append, attachAll, runIn_bind, runIn_attach_eq, ConstraintGroup.outcome, hd]
    rfl
  | cons d' rest ih =>
    obtain ⟨hd', hrest⟩ := List.forall_mem_cons.mp h
    rw [List.cons_append, attachAll, runIn_bind, runIn_attach_eq, ConstraintGroup.outcome, hd']
    exact ih hrest (g.place d'.id a)

theorem suited_or_unsuited (g : ConstraintGroup) (ds : List Definition) :
    (∀ d ∈ ds, g.obstacle? d = none) ∨ ∃ before d after e, ds = before ++ d :: after ∧
      (∀ d ∈ before, g.obstacle? d = none) ∧ g.obstacle? d = some e := by
  induction ds with
  | nil => exact .inl fun _ h => absurd h List.not_mem_nil
  | cons d rest ih =>
    cases hd : g.obstacle? d with
    | some e => exact .inr ⟨[], d, rest, e, rfl, fun _ h => absurd h List.not_mem_nil, hd⟩
    | none =>
      rcases ih with h | ⟨before, d', after, e, rfl, h, hd'⟩
      · exact .inl (List.forall_mem_cons.mpr ⟨hd, h⟩)
      · exact .inr ⟨d :: before, d', after, e, rfl, List.forall_mem_cons.mpr ⟨hd, h⟩, hd'⟩

end

/-! ## One round -/

namespace Round

/-- The evaluation of the target. -/
def evaluation (ctx : Context) (r : Round) : Eval Sequence :=
  r.group.target.evalAt ctx (.node r.tree)

/-- The definitions selected when the target is evaluated in a session, none if this fails. -/
def definitions (ctx : Context) (t : Session) (r : Round) : List Definition :=
  match ((r.evaluation ctx).runIn t).1 with
  | .ok items => distinctDefinitions (items.filterMap Item.node?)
  | .error _ => []

/-- The group attached to definitions. -/
def visitsOf (r : Round) (ds : List Definition) : List (ConstraintGroup × Definition) :=
  ds.map (r.group, ·)

theorem exists_mem_visitsOf {r : Round} {ds : List Definition} {id : DefinitionId}
    {c : Constraint} : (∃ v ∈ r.visitsOf ds, v.2.id = id ∧ v.1.Has c) ↔
      r.group.Has c ∧ ∃ d ∈ ds, d.id = id := by
  unfold visitsOf
  constructor
  · rintro ⟨v, hv, hid, hc⟩
    obtain ⟨d, hd, rfl⟩ := List.mem_map.mp hv
    exact ⟨hc, d, hd, hid⟩
  · rintro ⟨hc, d, hd, hid⟩
    exact ⟨(r.group, d), List.mem_map.mpr ⟨d, hd, rfl⟩, hid, hc⟩

/-- The target can be evaluated in all sessions that remember this one, always with the same result,
and the definitions selected can carry the group. -/
structure Settled (ctx : Context) (s : Session) (r : Round) : Prop where
  again : ∃ items, ∀ t, t.Remembers s → ((r.evaluation ctx).runIn t).1 = .ok items ∧
    ((r.evaluation ctx).runIn t).2.kept = t.kept
  suited : ∀ d ∈ r.definitions ctx s, r.group.obstacle? d = none

variable {ctx : Context} {r : Round} {s t : Session}

theorem Settled.definitions_eq (h : r.Settled ctx s) (ht : t.Remembers s) :
    r.definitions ctx t = r.definitions ctx s := by
  obtain ⟨items, hitems⟩ := h.again
  unfold definitions
  rw [(hitems t ht).1, (hitems s (.refl s)).1]

theorem Settled.mono (h : r.Settled ctx s) (ht : t.Remembers s) : r.Settled ctx t where
  again := by
    obtain ⟨items, hitems⟩ := h.again
    exact ⟨items, fun u hu => hitems u (hu.trans ht)⟩
  suited := by
    rw [h.definitions_eq ht]
    exact h.suited

theorem runIn_evaluation_again {items : Sequence} {s' : Session}
    (h : (r.evaluation ctx).runIn s = (.ok items, s')) (ht : t.Remembers s') :
    ((r.evaluation ctx).runIn t).1 = .ok items ∧
      ((r.evaluation ctx).runIn t).2.kept = t.kept :=
  (r.group.target.evalAt_repeats ctx (.node r.tree)).again s items t (congrArg Prod.fst h)
    (congrArg Prod.snd h ▸ ht)

theorem remembers_of_evaluation {s' : Session} {o : Except Error Sequence}
    (h : (r.evaluation ctx).runIn s = (o, s')) : s'.Remembers s := by
  have hremembers := (r.group.target.evalAt_repeats ctx (.node r.tree)).remembers s
  rw [show (r.group.target.evalAt ctx (.node r.tree)).runIn s = (o, s') from h] at hremembers
  exact hremembers

/-- What was selected is selected again in the sessions that remember what is left. -/
theorem definitions_of_evaluation {items : Sequence} {s' : Session}
    (h : (r.evaluation ctx).runIn s = (.ok items, s')) (ht : t.Remembers s') :
    r.definitions ctx t = distinctDefinitions (items.filterMap Item.node?) := by
  unfold definitions
  rw [(runIn_evaluation_again h ht).1]

end Round

section

variable {ctx : Context} {r : Round} {s s' t : Session}

theorem runIn_group_of_error {e : Error} (h : (r.evaluation ctx).runIn s = (.error e, s'))
    (a : Attachments) : (group ctx r.tree r.group).runIn a s = ((.error e, a), s') := by
  unfold Round.evaluation at h
  rw [group, runIn_bind, runIn_ofEval, h]

theorem runIn_group_of_ok {items : Sequence} (h : (r.evaluation ctx).runIn s = (.ok items, s'))
    (a : Attachments) : (group ctx r.tree r.group).runIn a s
      = match (attachAll r.group (distinctDefinitions (items.filterMap Item.node?))).runIn a s' with
        | ((.ok _, a'), s'') =>
          ((.ok (distinctDefinitions (items.filterMap Item.node?)).length, a'), s'')
        | ((.error e, a'), s'') => ((.error e, a'), s'') := by
  unfold Round.evaluation at h
  rw [group, runIn_bind, runIn_ofEval, h]
  simp only
  rw [runIn_bind]
  rcases (attachAll r.group (distinctDefinitions (items.filterMap Item.node?))).runIn a s' with
    ⟨⟨o, a'⟩, s''⟩
  cases o <;> rfl

/-- **What a round does.** The evaluation of its target fails, or all definitions selected can carry
the group, or there is a first one that cannot. -/
theorem runIn_group_cases (ctx : Context) (r : Round) (a : Attachments) (s : Session) :
    (∃ e s', (r.evaluation ctx).runIn s = (.error e, s') ∧
      (group ctx r.tree r.group).runIn a s = ((.error e, a), s')) ∨
    (∃ s', s'.Remembers s ∧ r.Settled ctx s' ∧ (group ctx r.tree r.group).runIn a s
      = ((.ok (r.definitions ctx s').length, a.placeAll (r.visitsOf (r.definitions ctx s'))), s')) ∨
    ∃ s' before d after e, s'.Remembers s ∧ r.definitions ctx s' = before ++ d :: after ∧
      (∀ d ∈ before, r.group.obstacle? d = none) ∧ r.group.obstacle? d = some e ∧
      (group ctx r.tree r.group).runIn a s
        = ((.error e, a.placeAll (r.visitsOf before)), s') := by
  rcases hrun : (r.evaluation ctx).runIn s with ⟨o, s'⟩
  cases o with
  | error e => exact .inl ⟨e, s', rfl, runIn_group_of_error hrun a⟩
  | ok items =>
    have hremembers := Round.remembers_of_evaluation hrun
    rw [runIn_group_of_ok hrun, ← Round.definitions_of_evaluation hrun (.refl s')]
    rcases suited_or_unsuited r.group (r.definitions ctx s') with
      h | ⟨before, d, after, e, heq, h, hd⟩
    · refine .inr (.inl ⟨s', hremembers, ⟨⟨items, fun t ht => ?_⟩, h⟩, ?_⟩)
      · exact Round.runIn_evaluation_again hrun ht
      · rw [runIn_attachAll_suited h]
        rfl
    · refine .inr (.inr ⟨s', before, d, after, e, hremembers, heq, h, hd, ?_⟩)
      rw [heq, runIn_attachAll_unsuited h hd]
      rfl

/-- A round that is settled goes the same way again. -/
theorem runIn_group_settled (h : r.Settled ctx s) (ht : t.Remembers s) (a : Attachments) :
    ∃ t', t'.kept = t.kept ∧ (group ctx r.tree r.group).runIn a t =
      ((.ok (r.definitions ctx s).length, a.placeAll (r.visitsOf (r.definitions ctx s))), t') := by
  obtain ⟨items, hitems⟩ := h.again
  obtain ⟨hok, hkept⟩ := hitems t ht
  have hdefinitions : r.definitions ctx s = distinctDefinitions (items.filterMap Item.node?) := by
    unfold Round.definitions
    rw [(hitems s (.refl s)).1]
  rcases hrun : (r.evaluation ctx).runIn t with ⟨o, t'⟩
  rw [hrun] at hok hkept
  cases hok
  refine ⟨t', hkept, ?_⟩
  rw [runIn_group_of_ok hrun, ← hdefinitions, runIn_attachAll_suited h.suited]
  rfl

/-! ## All rounds -/

/-- The groups attached to definitions, in order. -/
def visits (ctx : Context) (t : Session) (rs : List Round) : List (ConstraintGroup × Definition) :=
  rs.flatMap fun r => r.visitsOf (r.definitions ctx t)

theorem visits_cons (ctx : Context) (t : Session) (r : Round) (rs : List Round) :
    visits ctx t (r :: rs) = r.visitsOf (r.definitions ctx t) ++ visits ctx t rs :=
  List.flatMap_cons

theorem exists_mem_visits {rs : List Round} {id : DefinitionId} {c : Constraint} :
    (∃ v ∈ visits ctx t rs, v.2.id = id ∧ v.1.Has c) ↔
      ∃ r ∈ rs, r.group.Has c ∧ ∃ d ∈ r.definitions ctx t, d.id = id := by
  simp only [visits, List.mem_flatMap]
  constructor
  · rintro ⟨v, ⟨r, hr, hv⟩, hid, hc⟩
    exact ⟨r, hr, Round.exists_mem_visitsOf.mp ⟨v, hv, hid, hc⟩⟩
  · rintro ⟨r, hr, h⟩
    obtain ⟨v, hv, hid, hc⟩ := Round.exists_mem_visitsOf.mpr h
    exact ⟨v, ⟨r, hr, hv⟩, hid, hc⟩

variable {rs : List Round} {a a' : Attachments}

/-- **A composition that succeeds attaches groups at all its visits**, and counts them. -/
theorem runIn_all_ok {n : Nat} (h : (all ctx rs).runIn a s = ((.ok n, a'), s')) :
    s'.Remembers s ∧ (∀ r ∈ rs, r.Settled ctx s') ∧ a' = a.placeAll (visits ctx s' rs) ∧
      n = (visits ctx s' rs).length := by
  induction rs generalizing a s n with
  | nil =>
    cases h
    exact ⟨.refl _, fun _ hr => absurd hr List.not_mem_nil, rfl, rfl⟩
  | cons r rest ih =>
    rw [all] at h
    obtain ⟨k, a₁, s₁, hfirst, h⟩ := exists_of_runIn_bind h
    obtain ⟨l, a₂, s₂, hrest, h⟩ := exists_of_runIn_bind h
    cases h
    obtain ⟨hremembers, hsettled, rfl, rfl⟩ := ih hrest
    rcases runIn_group_cases ctx r a s with
      ⟨e, u, -, hgroup⟩ | ⟨u, hu, hr, hgroup⟩ | ⟨u, _, _, _, e, -, -, -, -, hgroup⟩
    · rw [hfirst] at hgroup
      cases hgroup
    · rw [hfirst] at hgroup
      cases hgroup
      refine ⟨hremembers.trans hu, List.forall_mem_cons.mpr ⟨hr.mono hremembers, hsettled⟩, ?_, ?_⟩
      · rw [visits_cons, hr.definitions_eq hremembers, Attachments.placeAll_append]
      · rw [visits_cons, hr.definitions_eq hremembers, List.length_append, Round.visitsOf,
          List.length_map]
    · rw [hfirst] at hgroup
      cases hgroup

/-- Why a round fails after it has attached its group to some definitions: the target cannot be
evaluated, and there are none; or the next definition selected cannot carry the group. -/
def Round.FailsAfter (ctx : Context) (s' : Session) (r : Round) (before : List Definition)
    (e : Error) : Prop :=
  (before = [] ∧ ∃ s, (r.evaluation ctx).runIn s = (.error e, s')) ∨
    (∀ d ∈ before, r.group.obstacle? d = none) ∧
      ∃ d after, r.definitions ctx s' = before ++ d :: after ∧ r.group.obstacle? d = some e

/-- A run that fails does so in its first part, or in its second one. -/
theorem cases_of_runIn_bind {α β : Type} {m : Composing α} {k : α → Composing β} {e : Error}
    (h : runIn (m >>= k) a s = ((.error e, a'), s')) :
    runIn m a s = ((.error e, a'), s') ∨
      ∃ x a₁ s₁, runIn m a s = ((.ok x, a₁), s₁) ∧ runIn (k x) a₁ s₁ = ((.error e, a'), s') := by
  rw [runIn_bind] at h
  rcases hm : runIn m a s with ⟨⟨o, a₁⟩, s₁⟩
  rw [hm] at h
  cases o with
  | ok x => exact .inr ⟨x, a₁, s₁, rfl, h⟩
  | error e' =>
    cases h
    exact .inl rfl

/-- **A composition that fails attaches groups at the visits before the failure.** -/
theorem runIn_all_error {e : Error} (h : (all ctx rs).runIn a s = ((.error e, a'), s')) :
    s'.Remembers s ∧ ∃ done r rest before, rs = done ++ r :: rest ∧
      (∀ q ∈ done, q.Settled ctx s') ∧ r.FailsAfter ctx s' before e ∧
      a' = a.placeAll (visits ctx s' done ++ r.visitsOf before) := by
  induction rs generalizing a s with
  | nil => cases h
  | cons r rest ih =>
    rw [all] at h
    rcases runIn_group_cases ctx r a s with ⟨e', u, heval, hgroup⟩ | ⟨u, hu, hr, hgroup⟩ |
      ⟨u, before, d, after, e', hu, heq, hsuited, hd, hgroup⟩
    · rw [runIn_bind, hgroup] at h
      cases h
      exact ⟨Round.remembers_of_evaluation heval, [], r, rest, [], rfl,
        fun _ hq => absurd hq List.not_mem_nil, .inl ⟨rfl, s, heval⟩, rfl⟩
    · rw [runIn_bind, hgroup] at h
      rcases cases_of_runIn_bind h with hrest | ⟨_, _, _, -, h⟩
      · obtain ⟨hremembers, done, q, later, before, rfl, hdone, hfails, rfl⟩ := ih hrest
        refine ⟨hremembers.trans hu, r :: done, q, later, before, rfl,
          List.forall_mem_cons.mpr ⟨hr.mono hremembers, hdone⟩, hfails, ?_⟩
        rw [visits_cons, hr.definitions_eq hremembers, List.append_assoc,
          Attachments.placeAll_append a]
      · cases h
    · rw [runIn_bind, hgroup] at h
      cases h
      exact ⟨hu, [], r, rest, before, rfl, fun _ hq => absurd hq List.not_mem_nil,
        .inr ⟨hsuited, d, after, heq, hd⟩, rfl⟩

/-- Rounds that are settled go the same way again. -/
theorem runIn_all_settled (h : ∀ r ∈ rs, r.Settled ctx s) (ht : t.Remembers s)
    (a : Attachments) : ∃ t', t'.kept = t.kept ∧ (all ctx rs).runIn a t
      = ((.ok (visits ctx s rs).length, a.placeAll (visits ctx s rs)), t') := by
  induction rs generalizing a t with
  | nil => exact ⟨t, rfl, rfl⟩
  | cons r rest ih =>
    obtain ⟨hr, hrest⟩ := List.forall_mem_cons.mp h
    obtain ⟨t₁, hkept, hgroup⟩ := runIn_group_settled hr ht a
    obtain ⟨t₂, hkept', hall⟩ := ih hrest (ht.of_kept_eq hkept)
      (a.placeAll (r.visitsOf (r.definitions ctx s)))
    refine ⟨t₂, hkept'.trans hkept, ?_⟩
    rw [all, runIn_bind, hgroup]
    simp only
    rw [runIn_bind, hall, visits_cons, Attachments.placeAll_append, List.length_append,
      Round.visitsOf, List.length_map]
    rfl

end

end Composing

end TreePath
