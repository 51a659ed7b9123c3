/-
TreePath.Proofs.Expr.Agreement — evaluations agree as long as calls do.

What an expression gives in two contexts, in two sessions and at two places differs only by what the
calls of functions give. `Context.Matches` says that the calls in two contexts, made from alike
places, give the same; `Expr.eval_related` follows the evaluator over the tree of an expression and
concludes that whole expressions do. Calls may only be known to match on items that are known to
occur, so this goes hand in hand with what evaluations give: a `Realm` is a class of items that
nothing but calls could leave, and calls that match on a realm do not leave it.

One case is a context that may keep results beside the same context without the cache
(`Context.Steady`, `Expr.eval_agrees`).
-/
import TreePath.Eval
import TreePath.Proofs.Atomic.Numeric
import TreePath.Proofs.Function.Outcome
import TreePath.Proofs.Tree.Place

namespace TreePath

open Eval

/-! ## Literals -/

mutual

/-- The values that stand in an expression. -/
def Expr.literals : Expr → List AtomicValue
  | .contextItem | .root | .parent | .step _ _ | .var _ => []
  | .literal v => [v]
  | .path base next _ => base.literals ++ next.literals
  | .filter base predicates => base.literals ++ literalsOfAll predicates
  | .sequence parts | .concat parts => literalsOfAll parts
  | .call _ args => literalsOfAll args
  | .range left right | .and left right | .or left right | .valueComparison _ left right
  | .generalComparison _ left right | .arithmetic _ left right | .union left right =>
    left.literals ++ right.literals
  | .negate operand => operand.literals
  | .cond test yes no => test.literals ++ yes.literals ++ no.literals
  | .quantified _ bindings satisfies => literalsOfBindings bindings ++ satisfies.literals

def Expr.literalsOfAll : List Expr → List AtomicValue
  | [] => []
  | e :: rest => e.literals ++ literalsOfAll rest

def Expr.literalsOfBindings : List (Name × Expr) → List AtomicValue
  | [] => []
  | (_, e) :: rest => e.literals ++ literalsOfBindings rest

end

/-! ## Realms -/

/-- The same context without the cache. -/
def Context.uncached (ctx : Context) : Context := { ctx with caching := false }

/-- All items of the sequence are of the class. -/
abbrev Sequence.AllItems (P : Item → Prop) (s : Sequence) : Prop := ∀ i ∈ s, P i

open Sequence (AllItems)

/-- A class of items that evaluations do not leave by themselves. -/
structure Realm (env : Environment) (P : Item → Prop) : Prop where
  moves : Node.Kept fun n => P (.node n)
  globals : ∀ e ∈ env.globals, AllItems P e.2
  /-- Values are only known to occur if they are zoned date-times. -/
  plain : ∀ v : AtomicValue, v.type ≠ .dateTimeWithTimezone → P (.atomic v)

/-- Calls that are made with items of a realm agree with those without the cache, and give items of
the realm. -/
structure Context.Steady (ctx : Context) (P : Item → Prop) (InOrder : Session → Prop) : Prop where
  realm : Realm ctx.env P
  calls : ∀ {name : Name} {n : Nat} {f : Function}, resolve ctx name n = .ok f →
    ∀ {args : List Sequence} {focus : Option Focus}, (∀ s ∈ args, AllItems P s) →
      (∀ g ∈ focus, P g.item) →
      Agrees InOrder (AllItems P) (f.call ctx args focus) (f.call ctx.uncached args focus)

/-- Calls in the two contexts, made from alike places with items of a realm, are related and give
items of the realm. -/
structure Context.Matches (ctx ctx' : Context) (P : Item → Prop) (Kin : Session → Session → Prop)
    (Like : Option Focus → Option Focus → Prop) : Prop where
  env_eq : ctx'.env = ctx.env
  registry_eq : ctx'.registry = ctx.registry
  realm : Realm ctx.env P
  like_refl : ∀ focus, Like focus focus
  /-- Alike places show one context item. -/
  item_eq : ∀ {focus focus' : Option Focus}, Like focus focus' →
    focus.map (·.item) = focus'.map (·.item)
  calls : ∀ {name : Name} {n : Nat} {f : Function}, resolve ctx name n = .ok f →
    ∀ {args : List Sequence} {focus focus' : Option Focus}, Like focus focus' →
      (∀ s ∈ args, AllItems P s) → (∀ g ∈ focus, P g.item) →
      Related Kin (AllItems P) (f.call ctx args focus) (f.call ctx' args focus')

variable {P : Item → Prop} {env : Environment}

theorem Context.Steady.matches {ctx : Context} {InOrder : Session → Prop}
    (h : ctx.Steady P InOrder) : ctx.Matches ctx.uncached P (fun s _ => InOrder s) Eq where
  env_eq := rfl
  registry_eq := rfl
  realm := h.realm
  like_refl _ := rfl
  item_eq hlike := congrArg _ hlike
  calls := by
    rintro name n f hf args focus _ rfl hargs hfocus
    exact h.calls hf hargs hfocus

theorem Context.Matches.resolve_eq {ctx ctx' : Context} {Kin : Session → Session → Prop}
    {Like : Option Focus → Option Focus → Prop} (h : ctx.Matches ctx' P Kin Like) (name : Name)
    (n : Nat) : resolve ctx' name n = resolve ctx name n := by
  rw [resolve, resolve, h.env_eq, h.registry_eq]

namespace Realm

theorem nil : AllItems P [] := fun _ h => absurd h List.not_mem_nil

theorem singleton {i : Item} (h : P i) : AllItems P [i] := by
  intro j hj
  rw [List.mem_singleton.mp hj]
  exact h

theorem ofBool (h : Realm env P) (b : Bool) : AllItems P (Sequence.ofBool b) :=
  singleton (h.plain (.boolean b) (by simp [AtomicValue.type]))

theorem ofString (h : Realm env P) (s : String) : AllItems P (Sequence.ofString s) :=
  singleton (h.plain (.string s) (by simp [AtomicValue.type]))

theorem number (h : Realm env P) {v : AtomicValue} (hv : v.isNumeric = true) : P (.atomic v) := by
  refine h.plain v fun htype => ?_
  rw [AtomicValue.isNumeric, htype] at hv
  exact absurd hv (by decide)

theorem nodes {ns : List Node} (h : ∀ n ∈ ns, P (.node n)) : AllItems P (ns.map .node) := by
  intro i hi
  obtain ⟨n, hn, rfl⟩ := List.mem_map.mp hi
  exact h n hn

end Realm

/-! ## Scopes -/

/-- The range variables and the context item are of the class. -/
structure Scope.Known (P : Item → Prop) (s : Scope) : Prop where
  ranges : ∀ r ∈ s.ranges, AllItems P r.2
  focus : ∀ f ∈ s.focus, P f.item

theorem Scope.Known.onItem {s : Scope} (h : s.Known P) {i : Item} (hi : P i)
    (position size : Nat) : (s.onItem i position size).Known P :=
  ⟨h.ranges, fun f hf => by cases hf; exact hi⟩

theorem Scope.Known.bind {s : Scope} (h : s.Known P) (name : Name) {i : Item}
    (hi : P i) : (s.bind name i).Known P := by
  refine ⟨fun r hr => ?_, h.focus⟩
  rcases List.mem_cons.mp hr with rfl | hr
  · exact Realm.singleton hi
  · exact h.ranges r hr

/-- The same range variables, and alike places. -/
structure Scope.Alike (Like : Option Focus → Option Focus → Prop) (s s' : Scope) : Prop where
  ranges : s'.ranges = s.ranges
  focus : Like s.focus s'.focus

namespace Scope.Alike

variable {ctx ctx' : Context} {Kin : Session → Session → Prop}
  {Like : Option Focus → Option Focus → Prop} {s s' : Scope}

theorem refl (hctx : ctx.Matches ctx' P Kin Like) (s : Scope) : s.Alike Like s :=
  ⟨rfl, hctx.like_refl s.focus⟩

theorem onItem_eq (h : s.Alike Like s') (i : Item) (position size : Nat) :
    s'.onItem i position size = s.onItem i position size := by
  rw [onItem, onItem, h.ranges]

theorem onItem (hctx : ctx.Matches ctx' P Kin Like) (h : s.Alike Like s') (i : Item)
    (position size : Nat) : (s.onItem i position size).Alike Like (s'.onItem i position size) := by
  rw [h.onItem_eq]
  exact .refl hctx _

theorem bind (h : s.Alike Like s') (name : Name) (i : Item) :
    (s.bind name i).Alike Like (s'.bind name i) :=
  ⟨congrArg (List.cons (name, [i])) h.ranges, h.focus⟩

theorem contextItem_eq (hctx : ctx.Matches ctx' P Kin Like) (h : s.Alike Like s') :
    Eval.contextItem s' = Eval.contextItem s := by
  have hitem := hctx.item_eq h.focus
  rw [Eval.contextItem, Eval.contextItem]
  cases hf : s.focus <;> cases hf' : s'.focus <;> rw [hf, hf'] at hitem <;> simp_all

theorem contextNode_eq (hctx : ctx.Matches ctx' P Kin Like) (h : s.Alike Like s') :
    contextNode s' = contextNode s := by
  rw [contextNode, contextNode, h.contextItem_eq hctx]

theorem documentNode_eq (hctx : ctx.Matches ctx' P Kin Like) (h : s.Alike Like s') :
    documentNode s' = documentNode s := by
  rw [documentNode, documentNode, h.contextNode_eq hctx]

theorem lookupVariable_eq (hctx : ctx.Matches ctx' P Kin Like) (h : s.Alike Like s') (name : Name) :
    lookupVariable ctx' s' name = lookupVariable ctx s name := by
  rw [lookupVariable, lookupVariable, h.ranges, hctx.env_eq]

theorem stepScopes_eq (h : s.Alike Like s') (descendant : Bool) (i : Item) (position size : Nat) :
    stepScopes s' descendant i position size = stepScopes s descendant i position size := by
  cases i <;> simp only [stepScopes, h.onItem_eq]

end Scope.Alike

namespace Eval

/-! ## Parts that do not involve the session -/

theorem known_contextItem {s : Scope} (hs : s.Known P) {i : Item}
    (h : contextItem s = .ok i) : P i := by
  rw [contextItem] at h
  split at h
  · rename_i f hf
    cases h
    exact hs.focus f hf
  · cases h

theorem known_contextNode {s : Scope} (hs : s.Known P) {n : Node}
    (h : contextNode s = .ok n) : P (.node n) := by
  rw [contextNode] at h
  cases hc : contextItem s with
  | error e => rw [hc] at h; cases h
  | ok i =>
    rw [hc] at h
    cases i with
    | node m => cases h; exact known_contextItem hs hc
    | atomic v => cases h

theorem known_documentNode (hP : Realm env P) {s : Scope} (hs : s.Known P) {n : Node}
    (h : documentNode s = .ok n) : P (.node n) := by
  rw [documentNode] at h
  cases hc : contextNode s with
  | error e => rw [hc] at h; cases h
  | ok m =>
    rw [hc] at h
    simp only [bind, Except.bind] at h
    split at h
    · cases h
      exact hP.moves.top (known_contextNode hs hc)
    · cases h

theorem known_of_mem_selected (hP : Realm env P) {axis : Axis} {test : NameTest} {n m : Node}
    (hn : P (.node n)) (h : m ∈ selected axis test n) : P (.node m) := by
  cases axis with
  | model => exact hP.moves.children hn (List.mem_of_mem_filter h)
  | flag => exact hP.moves.flags hn (List.mem_of_mem_filter h)

theorem allItems_nodeSet {nodes : List Node} (h : ∀ n ∈ nodes, P (.node n)) :
    AllItems P (nodeSet nodes) :=
  Realm.nodes fun n hn => h n (Node.mem_of_mem_sorted hn)

theorem mem_of_unionNodes {s : Sequence} {nodes : List Node} (h : unionNodes s = .ok nodes) :
    ∀ n ∈ nodes, .node n ∈ s := by
  induction s generalizing nodes with
  | nil =>
    cases h
    exact fun _ hn => absurd hn List.not_mem_nil
  | cons i rest ih =>
    rw [unionNodes, List.mapM_cons] at h
    cases i with
    | atomic v => cases h
    | node m =>
      cases hrest : unionNodes rest with
      | error e =>
        rw [unionNodes] at hrest
        rw [hrest] at h
        cases h
      | ok found =>
        have hih := ih hrest
        rw [unionNodes] at hrest
        rw [hrest] at h
        cases h
        intro n hn
        rcases List.mem_cons.mp hn with rfl | hn
        · exact List.mem_cons_self
        · exact List.mem_cons_of_mem _ (hih n hn)

theorem allItems_pathResult {s r : Sequence} (hs : AllItems P s) (h : pathResult s = .ok r) :
    AllItems P r := by
  rw [pathResult] at h
  split at h
  · cases h
    refine allItems_nodeSet fun n hn => ?_
    obtain ⟨i, hi, heq⟩ := List.mem_filterMap.mp hn
    cases i with
    | node m => cases heq; exact hs _ hi
    | atomic v => cases heq
  · split at h
    · cases h
      exact hs
    · cases h

theorem known_of_mem_stepScopes (hP : Realm env P) {s : Scope} (hs : s.Known P)
    {descendant : Bool} {i : Item} (hi : P i) {position size : Nat} {scopes : List Scope}
    (h : stepScopes s descendant i position size = .ok scopes) :
    ∀ scope ∈ scopes, scope.Known P := by
  cases i with
  | atomic v => cases h
  | node n =>
    simp only [stepScopes] at h
    split at h
    · cases h
      intro scope hscope
      obtain ⟨⟨m, j⟩, hm, rfl⟩ := List.mem_map.mp hscope
      exact hs.onItem (hP.moves.descendantsOrSelf hi (List.fst_mem_of_mem_zipIdx hm)) _ _
    · cases h
      intro scope hscope
      rw [List.mem_singleton.mp hscope]
      exact hs.onItem hi _ _

theorem allItems_lookupVariable {ctx : Context} (hP : Realm ctx.env P) {s : Scope}
    (hs : s.Known P) {name : Name} {r : Sequence} (h : lookupVariable ctx s name = .ok r) :
    AllItems P r := by
  rw [lookupVariable] at h
  split at h
  · rename_i value hvalue
    cases h
    rcases Option.or_eq_some_iff.mp hvalue with hrange | ⟨-, hglobal⟩
    · obtain ⟨l₁, l₂, heq, -⟩ := List.lookup_eq_some_iff.mp hrange
      exact hs.ranges (name, r) (by rw [heq]; simp)
    · obtain ⟨l₁, l₂, heq, -⟩ := List.lookup_eq_some_iff.mp hglobal
      exact hP.globals (name, r) (by rw [heq]; simp)
  · cases h

theorem allItems_integers (hP : Realm env P) (first last : Int64) :
    AllItems P (integers first last) := by
  intro i hi
  obtain ⟨k, _, rfl⟩ := List.mem_map.mp hi
  exact hP.plain (.integer _) (by simp [AtomicValue.type])

/-! ## Repeated parts -/

variable {α β : Type} {Kin : Session → Session → Prop}

theorem Related.collect {P : β → Prop} {f f' : α → Eval (List β)} :
    ∀ {l : List α}, (∀ a ∈ l, Related Kin (fun r => ∀ b ∈ r, P b) (f a) (f' a)) →
      Related Kin (fun r => ∀ b ∈ r, P b) (collect f l) (collect f' l)
  | [], _ => .pure fun _ hb => absurd hb List.not_mem_nil
  | a :: l, h => by
      rw [Eval.collect, Eval.collect]
      refine .bind (h a List.mem_cons_self) fun first hfirst => ?_
      refine .bind (Related.collect fun b hb => h b (List.mem_cons_of_mem a hb)) ?_
      intro others hothers
      refine .pure fun b hb => ?_
      rcases List.mem_append.mp hb with hb | hb
      · exact hfirst b hb
      · exact hothers b hb

theorem Related.search {q : Quantifier} {f f' : Item → Eval Bool} :
    ∀ {s : Sequence}, (∀ i ∈ s, Related Kin (fun _ => True) (f i) (f' i)) →
      Related Kin (fun _ => True) (search q f s) (search q f' s)
  | [], _ => .pure trivial
  | i :: s, h => by
      rw [Eval.search, Eval.search]
      refine .bind (h i List.mem_cons_self) fun b _ => ?_
      split
      · exact .pure trivial
      · exact Related.search fun j hj => h j (List.mem_cons_of_mem i hj)

end Eval

/-! ## Expressions -/

open Eval (Related Agrees)

namespace Expr

variable {ctx ctx' : Context} {Kin : Session → Session → Prop}
  {Like : Option Focus → Option Focus → Prop}

mutual

/-- **Where calls match, expressions do: one gives in both contexts the same, made of items of the
realm.** -/
theorem eval_related (hctx : ctx.Matches ctx' P Kin Like) : ∀ (e : Expr) {s s' : Scope},
    s.Alike Like s' → s.Known P → (∀ v ∈ e.literals, P (.atomic v)) →
      Related Kin (AllItems P) (e.eval ctx s) (e.eval ctx' s')
  | .contextItem, s, s', hlike, hs, _ => by
      rw [eval, eval, hlike.contextItem_eq hctx]
      exact .bind (.ofResult fun i h => known_contextItem hs h) fun i hi =>
        .pure (Realm.singleton hi)
  | .root, s, s', hlike, hs, _ => by
      rw [eval, eval, hlike.documentNode_eq hctx]
      exact .bind (.ofResult fun n h => known_documentNode hctx.realm hs h) fun n hn =>
        .pure (Realm.singleton hn)
  | .parent, s, s', hlike, hs, _ => by
      rw [eval, eval, hlike.contextNode_eq hctx]
      refine .bind (.ofResult fun n h => known_contextNode hs h) fun n hn => .pure ?_
      intro i hi
      obtain ⟨m, hm, rfl⟩ := Option.map_eq_some_iff.mp (Option.mem_toList.mp hi)
      exact hctx.realm.moves.parent? hn hm
  | .step axis test, s, s', hlike, hs, _ => by
      rw [eval, eval, hlike.contextNode_eq hctx]
      exact .bind (.ofResult fun n h => known_contextNode hs h) fun n hn =>
        .pure (Realm.nodes fun m hm => known_of_mem_selected hctx.realm hn hm)
  | .path base next descendant, s, s', hlike, hs, hlit => by
      obtain ⟨hleft, hright⟩ := List.forall_mem_append.mp hlit
      rw [eval, eval]
      refine .bind (eval_related hctx base hlike hs hleft) ?_
      intro items hitems
      simp only [hlike.stepScopes_eq]
      refine .bind (.collect fun p hp => ?_) fun found hfound =>
        .ofResult fun r hr => allItems_pathResult hfound hr
      have hi := hitems p.1 (List.fst_mem_of_mem_zipIdx hp)
      refine .bind (.ofResult fun scopes h => known_of_mem_stepScopes hctx.realm hs hi h) ?_
      intro scopes hscopes
      exact .collect fun scope hscope => eval_related hctx next (.refl hctx scope)
        (hscopes scope hscope) hright
  | .filter base predicates, s, s', hlike, hs, hlit => by
      obtain ⟨hleft, hright⟩ := List.forall_mem_append.mp hlit
      rw [eval, eval]
      refine .bind (eval_related hctx base hlike hs hleft) ?_
      intro items hitems
      exact filterAll_related hctx predicates hlike hs hright items hitems
  | .literal v, s, s', hlike, _, hlit => by
      rw [eval, eval]
      exact .pure (Realm.singleton (hlit v List.mem_cons_self))
  | .sequence parts, s, s', hlike, hs, hlit => by
      rw [eval, eval]
      refine .bind (evalAll_related hctx parts hlike hs hlit) fun rs hrs => .pure ?_
      intro i hi
      obtain ⟨r, hr, hmem⟩ := List.mem_flatten.mp hi
      exact hrs r hr i hmem
  | .range first last, s, s', hlike, hs, hlit => by
      obtain ⟨hleft, hright⟩ := List.forall_mem_append.mp hlit
      rw [eval, eval]
      refine .bind (eval_related hctx first hlike hs hleft) ?_
      intro a _
      refine .bind .outcome fun a _ => ?_
      refine .bind (eval_related hctx last hlike hs hright) ?_
      intro b _
      refine .bind .outcome fun b _ => ?_
      cases a <;> cases b
      all_goals first
        | exact .pure (allItems_integers hctx.realm _ _)
        | exact .pure Realm.nil
  | .var name, s, s', hlike, hs, _ => by
      rw [eval, eval, hlike.lookupVariable_eq hctx]
      exact .ofResult fun r h => allItems_lookupVariable hctx.realm hs h
  | .call name args, s, s', hlike, hs, hlit => by
      rw [eval, eval, hctx.resolve_eq]
      refine .bind (.outcome (r := resolve ctx name args.length)) fun f hf => ?_
      refine .bind (evalAll_related hctx args hlike hs hlit) fun rs hrs => ?_
      exact hctx.calls hf hlike.focus hrs hs.focus
  | .and left right, s, s', hlike, hs, hlit => by
      obtain ⟨hleft, hright⟩ := List.forall_mem_append.mp hlit
      rw [eval, eval]
      refine .bind (eval_related hctx left hlike hs hleft) ?_
      intro a _
      refine .bind .outcome fun b _ => ?_
      split
      · refine .bind (eval_related hctx right hlike hs hright) fun c _ => ?_
        exact .bind .outcome fun d _ => .pure (hctx.realm.ofBool d)
      · exact .pure (hctx.realm.ofBool false)
  | .or left right, s, s', hlike, hs, hlit => by
      obtain ⟨hleft, hright⟩ := List.forall_mem_append.mp hlit
      rw [eval, eval]
      refine .bind (eval_related hctx left hlike hs hleft) ?_
      intro a _
      refine .bind .outcome fun b _ => ?_
      split
      · exact .pure (hctx.realm.ofBool true)
      · refine .bind (eval_related hctx right hlike hs hright) fun c _ => ?_
        exact .bind .outcome fun d _ => .pure (hctx.realm.ofBool d)
  | .valueComparison op left right, s, s', hlike, hs, hlit => by
      obtain ⟨hleft, hright⟩ := List.forall_mem_append.mp hlit
      rw [eval, eval]
      refine .bind (eval_related hctx left hlike hs hleft) ?_
      intro a _
      refine .bind .outcome fun a _ => ?_
      refine .bind (eval_related hctx right hlike hs hright) ?_
      intro b _
      refine .bind .outcome fun b _ => ?_
      cases a with
      | none => exact .pure Realm.nil
      | some a =>
        cases b with
        | none => exact .pure Realm.nil
        | some b => exact .bind .outcome fun c _ => .pure (hctx.realm.ofBool c)
  | .generalComparison op left right, s, s', hlike, hs, hlit => by
      obtain ⟨hleft, hright⟩ := List.forall_mem_append.mp hlit
      rw [eval, eval]
      refine .bind (eval_related hctx left hlike hs hleft) ?_
      intro a _
      refine .bind .outcome fun a _ => ?_
      refine .bind (eval_related hctx right hlike hs hright) ?_
      intro b _
      refine .bind .outcome fun b _ => ?_
      exact .bind .outcome fun c _ => .pure (hctx.realm.ofBool c)
  | .arithmetic op left right, s, s', hlike, hs, hlit => by
      obtain ⟨hleft, hright⟩ := List.forall_mem_append.mp hlit
      rw [eval, eval]
      refine .bind (eval_related hctx left hlike hs hleft) ?_
      intro a _
      refine .bind .outcome fun a _ => ?_
      refine .bind (eval_related hctx right hlike hs hright) ?_
      intro b _
      refine .bind .outcome fun b _ => ?_
      cases a with
      | none => exact .pure Realm.nil
      | some a =>
        cases b with
        | none => exact .pure Realm.nil
        | some b =>
          exact .bind .outcome fun v hv => .pure (Realm.singleton
            (hctx.realm.number (AtomicValue.isNumber_arithmetic hv).isNumeric))
  | .negate operand, s, s', hlike, hs, hlit => by
      rw [eval, eval]
      refine .bind (eval_related hctx operand hlike hs hlit) fun r _ => ?_
      refine .bind .outcome fun v _ => ?_
      cases v with
      | none => exact .pure Realm.nil
      | some v =>
        exact .bind .outcome fun w hw => .pure (Realm.singleton
          (hctx.realm.number (AtomicValue.isNumber_negate hw).isNumeric))
  | .concat parts, s, s', hlike, hs, hlit => by
      rw [eval, eval]
      exact .bind (texts_related hctx parts hlike hs hlit) fun ts _ =>
        .pure (hctx.realm.ofString _)
  | .union left right, s, s', hlike, hs, hlit => by
      obtain ⟨hleft, hright⟩ := List.forall_mem_append.mp hlit
      rw [eval, eval]
      refine .bind (eval_related hctx left hlike hs hleft) ?_
      intro a ha
      refine .bind .outcome fun a hnodes => ?_
      refine .bind (eval_related hctx right hlike hs hright) ?_
      intro b hb
      refine .bind .outcome fun b hnodes' => .pure (allItems_nodeSet fun n hn => ?_)
      rcases List.mem_append.mp hn with hn | hn
      · exact ha _ (mem_of_unionNodes hnodes n hn)
      · exact hb _ (mem_of_unionNodes hnodes' n hn)
  | .cond test yes no, s, s', hlike, hs, hlit => by
      obtain ⟨hleft, hright⟩ := List.forall_mem_append.mp hlit
      obtain ⟨htest, hyes⟩ := List.forall_mem_append.mp hleft
      rw [eval, eval]
      refine .bind (eval_related hctx test hlike hs htest) fun r _ => ?_
      refine .bind .outcome fun b _ => ?_
      split
      · exact eval_related hctx yes hlike hs hyes
      · exact eval_related hctx no hlike hs hright
  | .quantified q bindings satisfies, s, s', hlike, hs, hlit => by
      obtain ⟨hleft, hright⟩ := List.forall_mem_append.mp hlit
      rw [eval, eval]
      refine .bind (quantify_related hctx q (fun hlike hs => ?_) bindings hlike hs hleft)
        fun b _ => .pure (hctx.realm.ofBool b)
      exact .bind (eval_related hctx satisfies hlike hs hright) fun r _ =>
        .mono .outcome fun _ _ => trivial

theorem evalAll_related (hctx : ctx.Matches ctx' P Kin Like) :
    ∀ (es : List Expr) {s s' : Scope}, s.Alike Like s' → s.Known P →
      (∀ v ∈ literalsOfAll es, P (.atomic v)) →
      Related Kin (fun rs => ∀ r ∈ rs, AllItems P r) (evalAll ctx s es) (evalAll ctx' s' es)
  | [], s, s', hlike, _, _ => by
      rw [evalAll, evalAll]
      exact .pure fun _ h => absurd h List.not_mem_nil
  | e :: rest, s, s', hlike, hs, hlit => by
      obtain ⟨hleft, hright⟩ := List.forall_mem_append.mp hlit
      rw [evalAll, evalAll]
      refine .bind (eval_related hctx e hlike hs hleft) ?_
      intro first hfirst
      refine .bind (evalAll_related hctx rest hlike hs hright) ?_
      intro others hothers
      refine .pure fun r hr => ?_
      rcases List.mem_cons.mp hr with rfl | hr
      · exact hfirst
      · exact hothers r hr

theorem filterAll_related (hctx : ctx.Matches ctx' P Kin Like) :
    ∀ (ps : List Expr) {s s' : Scope}, s.Alike Like s' → s.Known P →
      (∀ v ∈ literalsOfAll ps, P (.atomic v)) →
      ∀ items, AllItems P items →
        Related Kin (AllItems P) (filterAll ctx s ps items) (filterAll ctx' s' ps items)
  | [], _, _, _, _, _, items, hitems => by
      rw [filterAll, filterAll]
      exact .pure hitems
  | p :: rest, s, s', hlike, hs, hlit, items, hitems => by
      obtain ⟨hleft, hright⟩ := List.forall_mem_append.mp hlit
      rw [filterAll, filterAll]
      simp only
      refine .bind (.collect fun e he => ?_) fun kept hkept =>
        filterAll_related hctx rest hlike hs hright kept hkept
      have hi := hitems e.1 (List.fst_mem_of_mem_zipIdx he)
      refine .bind (eval_related hctx p (hlike.onItem hctx _ _ _) (hs.onItem hi _ _) hleft)
        fun r _ => ?_
      refine .bind .outcome fun b _ => .pure ?_
      split
      · exact Realm.singleton hi
      · exact Realm.nil

theorem texts_related (hctx : ctx.Matches ctx' P Kin Like) :
    ∀ (es : List Expr) {s s' : Scope}, s.Alike Like s' → s.Known P →
      (∀ v ∈ literalsOfAll es, P (.atomic v)) →
      Related Kin (fun _ => True) (texts ctx s es) (texts ctx' s' es)
  | [], s, s', hlike, _, _ => by
      rw [texts, texts]
      exact .pure trivial
  | e :: rest, s, s', hlike, hs, hlit => by
      obtain ⟨hleft, hright⟩ := List.forall_mem_append.mp hlit
      rw [texts, texts]
      refine .bind (eval_related hctx e hlike hs hleft) ?_
      intro r _
      refine .bind .outcome fun first _ => ?_
      exact .bind (texts_related hctx rest hlike hs hright) fun _ _ => .pure trivial

theorem quantify_related (hctx : ctx.Matches ctx' P Kin Like) (q : Quantifier)
    {satisfies satisfies' : Scope → Eval Bool}
    (hsat : ∀ {s s' : Scope}, s.Alike Like s' → s.Known P →
      Related Kin (fun _ => True) (satisfies s) (satisfies' s')) :
    ∀ (bindings : List (Name × Expr)) {s s' : Scope}, s.Alike Like s' → s.Known P →
      (∀ v ∈ literalsOfBindings bindings, P (.atomic v)) →
      Related Kin (fun _ => True) (quantify ctx q satisfies s bindings)
        (quantify ctx' q satisfies' s' bindings)
  | [], s, s', hlike, hs, _ => by
      rw [quantify, quantify]
      exact hsat hlike hs
  | (name, domain) :: rest, s, s', hlike, hs, hlit => by
      obtain ⟨hleft, hright⟩ := List.forall_mem_append.mp hlit
      rw [quantify, quantify]
      refine .bind (eval_related hctx domain hlike hs hleft) ?_
      intro items hitems
      exact .search fun i hi => quantify_related hctx q hsat rest (hlike.bind name i)
        (hs.bind name (hitems i hi)) hright

end

end Expr

/-- **Where calls agree, an expression gives one result with and without the cache, made of items of
the realm.** -/
theorem Expr.eval_agrees {ctx : Context} {InOrder : Session → Prop} (hctx : ctx.Steady P InOrder)
    (e : Expr) (s : Scope) (hs : s.Known P) (hlit : ∀ v ∈ e.literals, P (.atomic v)) :
    Agrees InOrder (AllItems P) (e.eval ctx s) (e.eval ctx.uncached s) :=
  e.eval_related hctx.matches (.refl hctx.matches s) hs hlit

/-- An expression evaluated at an item of the realm. -/
theorem Expression.evalAt_agrees {ctx : Context} {InOrder : Session → Prop}
    (hctx : ctx.Steady P InOrder) {e : Expression} (hlit : ∀ v ∈ e.expr.literals, P (.atomic v))
    {i : Item} (hi : P i) :
    Agrees InOrder (AllItems P) (e.evalAt ctx i) (e.evalAt ctx.uncached i) :=
  Expr.eval_agrees hctx e.expr _
    ⟨fun _ h => absurd h List.not_mem_nil, fun f hf => by cases hf; exact hi⟩ hlit

end TreePath
