/-
TreePath.Proofs.Constraint.Agreement — validation agrees as long as calls do.

A validation is made of evaluations: of targets, tests, key fields and messages. In a context whose
calls agree (`Context.Steady`) all of them do, so a validation gives what it gives without the
cache, whatever the session holds (`Attachments.validate_agrees`). The items that are observed stay
in the realm, and what is seen at an item is of the kind that the rule of the constraint asks for
(`Constraint.Sees`).
-/
import TreePath.Constraint.Validation
import TreePath.Proofs.Expr.Agreement

namespace TreePath

open Eval
open Sequence (AllItems)

/-! ## Expressions of constraints -/

def Template.expressions (t : Template) : List Expression :=
  t.segments.filterMap fun
    | .expression e => some e
    | .text _ => none

/-- The expressions of a message, if there is one. -/
def messageExpressions (message : Option Template) : List Expression :=
  (message.map (·.expressions)).getD []

namespace Rule

def keys : Rule → List KeyField
  | indexHasKey _ keys _ | index _ keys | unique keys => keys
  | _ => []

def expressions : Rule → List Expression
  | expect test message => test :: messageExpressions message
  | indexHasKey _ keys message => keys.map (·.target) ++ messageExpressions message
  | index _ keys | unique keys => keys.map (·.target)
  | allowedValues _ _ | pattern _ _ | cardinality _ _ => []

end Rule

/-- All expressions that checking the constraint may evaluate. -/
def Constraint.expressions (c : Constraint) : List Expression := c.target :: c.rule.expressions

/-- The values that stand in the expressions of the constraint are of the class. -/
def Constraint.Known (P : Item → Prop) (c : Constraint) : Prop :=
  ∀ e ∈ c.expressions, ∀ v ∈ e.expr.literals, P (.atomic v)

variable {P : Item → Prop} {InOrder : Session → Prop} {ctx : Context}

/-! ## Evaluations -/

/-- The two evaluations agree, and nothing is said about what they give. -/
abbrev Eval.Same {α : Type} (InOrder : Session → Prop) (m m' : Eval α) : Prop :=
  Agrees InOrder (fun _ => True) m m'

theorem Expression.holdsAt_agrees (hctx : ctx.Steady P InOrder) {e : Expression}
    (he : ∀ v ∈ e.expr.literals, P (.atomic v)) {i : Item} (hi : P i) :
    Same InOrder (e.holdsAt ctx i) (e.holdsAt ctx.uncached i) := by
  rw [holdsAt, holdsAt]
  exact .bind (evalAt_agrees hctx he hi) fun _ _ => .ofResult fun _ _ => trivial

theorem Key.ofFields_agrees (hctx : ctx.Steady P InOrder) {keys : List KeyField}
    (hkeys : ∀ e ∈ keys.map (·.target), ∀ v ∈ e.expr.literals, P (.atomic v)) {i : Item}
    (hi : P i) : Same InOrder (ofFields keys ctx i) (ofFields keys ctx.uncached i) := by
  refine .mono (Related.mapM (R := fun _ => True) fun f hf => ?_) fun _ _ => trivial
  have hlit := hkeys f.target (List.mem_map.mpr ⟨f, hf, rfl⟩)
  rw [KeyField.value, KeyField.value]
  refine .bind (Expression.evalAt_agrees hctx hlit hi) fun s _ => ?_
  exact .bind .outcome fun _ _ => .pure trivial

theorem Template.render_agrees (hctx : ctx.Steady P InOrder) {t : Template}
    (ht : ∀ e ∈ t.expressions, ∀ v ∈ e.expr.literals, P (.atomic v)) {i : Item} (hi : P i) :
    Same InOrder (t.render ctx i) (t.render ctx.uncached i) := by
  rw [render, render]
  refine .bind (Related.mapM (R := fun _ => True) fun s hs => ?_) fun _ _ => .pure trivial
  cases s with
  | text s => exact .pure trivial
  | expression e =>
    have hmem : e ∈ t.expressions := List.mem_filterMap.mpr ⟨.expression e, hs, rfl⟩
    rw [Segment.render, Segment.render]
    exact .bind (Expression.evalAt_agrees hctx (ht e hmem) hi) fun _ _ => .pure trivial

/-- Whether a constraint of the kind holds is decided at the node, without any keys. -/
def ConstraintKind.isImmediate : ConstraintKind → Bool
  | allowedValues | pattern | expect | cardinality => true
  | indexHasKey | index | unique => false

namespace Constraint

variable {c : Constraint}

/-- What checking the constraint at a node can see: only an index constraint fills an index, only a
uniqueness constraint fills the table of the node, and only an index-has-key constraint refers to an
index. -/
inductive Sees (c : Constraint) (node : Node) : Sight → Prop where
  | violation (message : String) : c.kind.isImmediate = true → Sees c node (.violation message)
  | index {name : String} {keys : List KeyField} (key : Key) : c.rule = .index name keys →
      Sees c node (.entry (.index name) key)
  | unique {keys : List KeyField} (key : Key) : c.rule = .unique keys →
      Sees c node (.entry (.unique c.identity node.tree node.address) key)
  | reference {index : String} {keys : List KeyField} {message : Option Template} (key : Key) :
      c.rule = .indexHasKey index keys message → Sees c node (.reference index key)

/-- A check of an item in any session sees only that. -/
theorem sees_of_see {node : Node} {i : Item} {s s' : Session} {sight : Option Sight}
    (h : (c.see ctx node i).runIn s = (.ok sight, s')) : ∀ x ∈ sight, c.Sees node x := by
  have htext : ∀ violation?, c.kind.isImmediate = true →
      (seeText violation? i).runIn s = (.ok sight, s') → ∀ x ∈ sight, c.Sees node x := by
    intro violation? hkind h
    rw [seeText, runIn_bind_ofResult_eq_ok] at h
    obtain ⟨v, -, h⟩ := h
    cases v with
    | none => cases h; exact fun x hx => by cases hx
    | some v =>
      cases h
      intro x hx
      obtain ⟨message, -, rfl⟩ := Option.map_eq_some_iff.mp hx
      exact .violation message hkind
  rw [see] at h
  cases hr : c.rule with
  | allowedValues values allowOthers => rw [hr] at h; exact htext _ (by rw [kind, hr]; rfl) h
  | pattern pattern datatype => rw [hr] at h; exact htext _ (by rw [kind, hr]; rfl) h
  | expect test message =>
    have hkind : c.kind.isImmediate = true := by rw [kind, hr]; rfl
    rw [hr] at h
    obtain ⟨b, s₁, -, h⟩ := runIn_bind_eq_ok.mp h
    split at h
    · cases h; exact fun x hx => by cases hx
    · cases message with
      | none => cases h; exact fun x hx => by cases hx; exact .violation _ hkind
      | some t =>
        obtain ⟨message, s₂, -, h⟩ := runIn_bind_eq_ok.mp h
        cases h
        exact fun x hx => by cases hx; exact .violation message hkind
  | indexHasKey index keys message =>
    rw [hr] at h
    obtain ⟨key, s₁, -, h⟩ := runIn_bind_eq_ok.mp h
    cases h
    exact fun x hx => by cases hx; exact .reference key hr
  | index name keys =>
    rw [hr] at h
    obtain ⟨key, s₁, -, h⟩ := runIn_bind_eq_ok.mp h
    cases h
    exact fun x hx => by cases hx; exact .index key hr
  | unique keys =>
    rw [hr] at h
    obtain ⟨key, s₁, -, h⟩ := runIn_bind_eq_ok.mp h
    cases h
    exact fun x hx => by cases hx; exact .unique key hr
  | cardinality least most => rw [hr] at h; cases h; exact fun x hx => by cases hx

theorem see_agrees (hctx : ctx.Steady P InOrder) (hc : c.Known P) (node : Node) {i : Item}
    (hi : P i) :
    Agrees InOrder (fun sight => ∀ x ∈ sight, c.Sees node x) (c.see ctx node i)
      (c.see ctx.uncached node i) := by
  have hrule : ∀ e ∈ c.rule.expressions, ∀ v ∈ e.expr.literals, P (.atomic v) :=
    fun e he => hc e (List.mem_cons_of_mem _ he)
  have htext : ∀ violation?, Same InOrder (seeText violation? i) (seeText violation? i) := by
    intro violation?
    rw [seeText]
    exact .bind .outcome fun v _ => by cases v <;> exact .pure trivial
  suffices hsame : Same InOrder (c.see ctx node i) (c.see ctx.uncached node i) from
    hsame.of_ok fun s s' sight h => sees_of_see h
  rw [see, see]
  cases hr : c.rule with
  | allowedValues values allowOthers => exact htext _
  | pattern pattern datatype => exact htext _
  | expect test message =>
    rw [hr, Rule.expressions] at hrule
    refine .bind (Expression.holdsAt_agrees hctx (hrule test List.mem_cons_self) hi) fun b _ => ?_
    split
    · exact .pure trivial
    · cases message with
      | none => exact .pure trivial
      | some t =>
        refine .bind (Template.render_agrees hctx (fun e he => hrule e ?_) hi) fun _ _ =>
          .pure trivial
        exact List.mem_cons_of_mem _ he
  | indexHasKey index keys message =>
    rw [hr, Rule.expressions] at hrule
    exact .bind (Key.ofFields_agrees hctx (fun e he => hrule e (List.mem_append_left _ he)) hi)
      fun _ _ => .pure trivial
  | index name keys =>
    rw [hr, Rule.expressions] at hrule
    exact .bind (Key.ofFields_agrees hctx hrule hi) fun _ _ => .pure trivial
  | unique keys =>
    rw [hr, Rule.expressions] at hrule
    exact .bind (Key.ofFields_agrees hctx hrule hi) fun _ _ => .pure trivial
  | cardinality least most => exact .pure trivial

/-! ## Checks -/

/-- The observations are made by the constraint at the node, and are about items of the class. -/
def Observes (P : Item → Prop) (c : Constraint) (node : Node) (outcome : Outcome) : Prop :=
  ∀ o ∈ outcome.observations, o.constraint = c ∧ P o.item ∧ c.Sees node o.sight

theorem observeItems_agrees (hctx : ctx.Steady P InOrder) (hc : c.Known P) (node : Node)
    {items : List Item} (hitems : AllItems P items) :
    Session.Agrees InOrder (c.Observes P node) (c.observeItems ctx node items)
      (c.observeItems ctx.uncached node items) := by
  induction items with
  | nil => exact .pure fun _ h => absurd h List.not_mem_nil
  | cons i rest ih =>
    rw [observeItems, observeItems]
    refine .bind (.ofEval (see_agrees hctx hc node (hitems i List.mem_cons_self))) fun r hr => ?_
    cases r with
    | error e => exact .pure fun _ h => absurd h List.not_mem_nil
    | ok sight =>
      refine .bind (ih fun j hj => hitems j (List.mem_cons_of_mem i hj)) fun outcome ho => ?_
      refine .pure fun o hmem => ?_
      rcases List.mem_append.mp hmem with hmem | hmem
      · obtain ⟨x, hx, rfl⟩ := Option.map_eq_some_iff.mp (Option.mem_toList.mp hmem)
        exact ⟨rfl, hitems i List.mem_cons_self, hr sight rfl x hx⟩
      · exact ho o hmem

/-- The check of the items goes on from one to the next unless it fails. -/
theorem run_observeItems_cons (c : Constraint) (ctx : Context) (node : Node) (i : Item)
    (rest : List Item) (s : Session) :
    (c.observeItems ctx node (i :: rest)).run s =
      match (c.see ctx node i).runIn s with
      | (.error e, s') => ({ failure := some e }, s')
      | (.ok sight, s') =>
        let r := (c.observeItems ctx node rest).run s'
        ({ r.1 with
            observations := (sight.map fun x => ⟨c, i, x⟩).toList ++ r.1.observations }, r.2) := by
  rw [observeItems, Session.run_bind]
  rcases hsee : (c.see ctx node i).runIn s with ⟨r, s'⟩
  rw [show (c.see ctx node i).run.run s = (r, s') from hsee]
  cases r <;> rfl

theorem sees_of_observeItems {node : Node} {items : List Item} {s : Session} {o : Observation}
    (ho : o ∈ ((c.observeItems ctx node items).run s).1.observations) :
    o.constraint = c ∧ c.Sees node o.sight := by
  induction items generalizing s with
  | nil => exact absurd ho List.not_mem_nil
  | cons i rest ih =>
    rw [run_observeItems_cons] at ho
    rcases hsee : (c.see ctx node i).runIn s with ⟨r, s'⟩
    rw [hsee] at ho
    cases r with
    | error e => exact absurd ho List.not_mem_nil
    | ok sight =>
      rcases List.mem_append.mp ho with ho | ho
      · obtain ⟨x, hx, rfl⟩ := Option.map_eq_some_iff.mp (Option.mem_toList.mp ho)
        exact ⟨rfl, sees_of_see hsee x hx⟩
      · exact ih ho

/-- Only a cardinality constraint says anything about the number of items. -/
theorem kind_of_countViolation? {n : Nat} {message : String}
    (h : c.countViolation? n = some message) : c.kind = .cardinality := by
  rw [countViolation?.eq_def] at h
  split at h
  · rename_i hr
    rw [kind, hr]
    rfl
  · cases h

/-- A check evaluates the target, and if that succeeds, it counts the items and looks at them. -/
theorem run_observe (c : Constraint) (ctx : Context) (node : Node) (s : Session) :
    (c.observe ctx node).run s =
      match (c.target.evalAt ctx (.node node)).runIn s with
      | (.error e, s') => ({ failure := some e }, s')
      | (.ok items, s') =>
        match c.countViolation? items.length with
        | some message => ({ observations := [⟨c, .node node, .violation message⟩] }, s')
        | none => (c.observeItems ctx node items).run s' := by
  rw [observe, Session.run_bind]
  rcases hitems : (c.target.evalAt ctx (.node node)).runIn s with ⟨r, s'⟩
  rw [show (c.target.evalAt ctx (.node node)).run.run s = (r, s') from hitems]
  cases r with
  | error e => rfl
  | ok items =>
    simp only
    cases c.countViolation? (List.length items) <;> rfl

/-- A check in any session sees what its constraint can see at the node. -/
theorem sees_of_observe {node : Node} {s : Session} {o : Observation}
    (ho : o ∈ ((c.observe ctx node).run s).1.observations) :
    o.constraint = c ∧ c.Sees node o.sight := by
  rw [run_observe] at ho
  rcases hitems : (c.target.evalAt ctx (.node node)).runIn s with ⟨r, s'⟩
  rw [hitems] at ho
  cases r with
  | error e => exact absurd ho List.not_mem_nil
  | ok items =>
    simp only at ho
    split at ho
    · rename_i hcount
      rw [List.mem_singleton.mp ho]
      exact ⟨rfl, .violation _ (by rw [kind_of_countViolation? hcount]; rfl)⟩
    · exact sees_of_observeItems ho

theorem observe_agrees (hctx : ctx.Steady P InOrder) (hc : c.Known P) {node : Node}
    (hnode : P (.node node)) :
    Session.Agrees InOrder (c.Observes P node) (c.observe ctx node)
      (c.observe ctx.uncached node) := by
  have htarget := Expression.evalAt_agrees hctx (hc c.target List.mem_cons_self) hnode
  rw [observe, observe]
  refine .bind (.ofEval htarget) fun r hr => ?_
  cases r with
  | error e => exact .pure fun _ h => absurd h List.not_mem_nil
  | ok items =>
    simp only
    split
    · rename_i hcount
      refine .pure fun o ho => ?_
      rw [List.mem_singleton.mp ho]
      exact ⟨rfl, hnode, .violation _ (by rw [kind_of_countViolation? hcount]; rfl)⟩
    · exact observeItems_agrees hctx hc node (hr items rfl)

end Constraint

/-! ## References -/

/-- The message of a rule is made of expressions of the rule. -/
theorem Rule.mem_expressions_of_message? {r : Rule} {t : Template} (h : r.message? = some t)
    {e : Expression} (he : e ∈ t.expressions) : e ∈ r.expressions := by
  cases r with
  | expect test message =>
    have hm : message = some t := h
    rw [hm, expressions]
    exact List.mem_cons_of_mem _ he
  | indexHasKey index keys message =>
    have hm : message = some t := h
    rw [hm, expressions]
    exact List.mem_append_right _ he
  | _ => cases h

namespace Validation

theorem missingMessage_agrees (hctx : ctx.Steady P InOrder) {o : Observation}
    (hc : o.constraint.Known P) (hi : P o.item) (index : String) (key : Key) :
    Same InOrder (missingMessage ctx o index key) (missingMessage ctx.uncached o index key) := by
  rw [missingMessage, missingMessage]
  cases hm : o.constraint.rule.message? with
  | none => exact .pure trivial
  | some t =>
    refine Template.render_agrees hctx (fun e he => hc e ?_) hi
    exact List.mem_cons_of_mem _ (Rule.mem_expressions_of_message? hm he)

theorem resolve_agrees (hctx : ctx.Steady P InOrder) (abortOnError : Bool) (keys : SeenKeys)
    {os : List Observation} (hos : ∀ o ∈ os, o.constraint.Known P ∧ P o.item) :
    Session.Agrees InOrder (fun _ => True) (resolve ctx abortOnError keys os)
      (resolve ctx.uncached abortOnError keys os) := by
  induction os with
  | nil => exact .pure trivial
  | cons o rest ih =>
    have hrest := ih fun p hp => hos p (List.mem_cons_of_mem o hp)
    obtain ⟨hc, hi⟩ := hos o List.mem_cons_self
    rw [resolve, resolve]
    cases o.sight with
    | violation message => exact hrest
    | entry table key => exact hrest
    | reference index key =>
      simp only
      split
      · exact hrest
      · refine .bind (.ofEval (missingMessage_agrees hctx hc hi index key)) fun r _ => ?_
        cases r with
        | ok message => exact .bind hrest fun _ _ => .pure trivial
        | error e =>
          simp only
          split
          · exact .pure trivial
          · exact .bind hrest fun _ _ => .pure trivial

/-! ## Validation -/

theorem observeAll_agrees (hctx : ctx.Steady P InOrder) (abortOnError : Bool)
    {checks : List (Node × Constraint)} (h : ∀ p ∈ checks, P (.node p.1) ∧ p.2.Known P) :
    Session.Agrees InOrder (fun trace => ∀ o ∈ trace.observations, o.constraint.Known P ∧ P o.item)
      (observeAll ctx abortOnError checks) (observeAll ctx.uncached abortOnError checks) := by
  induction checks with
  | nil => exact .pure fun _ ho => absurd ho List.not_mem_nil
  | cons p rest ih =>
    obtain ⟨n, c⟩ := p
    obtain ⟨hn, hc⟩ := h (n, c) List.mem_cons_self
    have hmade : ∀ outcome : Outcome, c.Observes P n outcome →
        ∀ o ∈ outcome.observations, o.constraint.Known P ∧ P o.item := by
      intro outcome hobserves o ho
      obtain ⟨heq, hi, -⟩ := hobserves o ho
      rw [heq]
      exact ⟨hc, hi⟩
    rw [observeAll, observeAll]
    refine .bind (Constraint.observe_agrees hctx hc hn) fun outcome hobserves => ?_
    split
    · exact .pure (hmade outcome hobserves)
    · refine .bind (ih fun q hq => h q (List.mem_cons_of_mem _ hq)) fun trace htrace => ?_
      refine .pure fun o ho => ?_
      rcases List.mem_append.mp ho with ho | ho
      · exact hmade outcome hobserves o ho
      · exact htrace o ho

/-- A check is made at a node of the document, by a constraint that its definition carries. -/
theorem mem_checks {a : Attachments} {options : ValidationOptions} {document : Node}
    {p : Node × Constraint} :
    p ∈ checks a options document ↔ p.1 ∈ nodes document ∧
      p.2 ∈ a.inOrder p.1.definition.id ∧ options.leastLevel ≤ p.2.level := by
  obtain ⟨n, c⟩ := p
  simp only [checks, List.mem_flatMap, List.mem_map, List.mem_filter, decide_eq_true_eq,
    Prod.mk.injEq]
  constructor
  · rintro ⟨m, hm, d, ⟨hd, hlevel⟩, rfl, rfl⟩
    exact ⟨hm, hd, hlevel⟩
  · rintro ⟨hn, hc, hlevel⟩
    exact ⟨n, hn, c, ⟨hc, hlevel⟩, rfl, rfl⟩

end Validation

namespace Attachments

/-- The values that stand in the expressions of the constraints are of the class. -/
def Known (P : Item → Prop) (a : Attachments) : Prop := ∀ e ∈ a.entries, e.2.Known P

theorem exists_of_mem_inOrder {a : Attachments} {d : DefinitionId} {c : Constraint}
    (h : c ∈ a.inOrder d) : ∃ e ∈ a.entries, e.2 = c := by
  obtain ⟨kind, -, hkind⟩ := List.mem_flatMap.mp h
  obtain ⟨e, he, heq⟩ := List.mem_map.mp (List.mem_filter.mp hkind).1
  exact ⟨e, (List.mem_filter.mp he).1, heq⟩

/-- What checks start with stays in the class. -/
theorem known_of_mem_checks (hctx : ctx.Steady P InOrder) {a : Attachments} (ha : a.Known P)
    (options : ValidationOptions) {document : Node} (hdocument : P (.node document)) :
    ∀ p ∈ Validation.checks a options document, P (.node p.1) ∧ p.2.Known P := by
  intro p hp
  obtain ⟨hn, hc, -⟩ := Validation.mem_checks.mp hp
  obtain ⟨e, he, heq⟩ := exists_of_mem_inOrder hc
  refine ⟨?_, heq ▸ ha e he⟩
  obtain ⟨m, hm, hmem⟩ := List.mem_flatMap.mp (List.mem_filter.mp hn).1
  have hPm := hctx.realm.moves.descendantsOrSelf hdocument hm
  rcases List.mem_cons.mp hmem with heq | hmem
  · rw [heq]
    exact hPm
  · exact hctx.realm.moves.flags hPm hmem

/-- **Where calls agree, a validation gives one report whatever the session holds.** -/
theorem validate_agrees (hctx : ctx.Steady P InOrder) {a : Attachments} (ha : a.Known P)
    (options : ValidationOptions) {document : Node} (hdocument : P (.node document)) :
    Same InOrder (a.validate options ctx document) (a.validate options ctx.uncached document) := by
  rw [validate, validate]
  have hobserve := Validation.observeAll_agrees hctx options.abortOnError
    (known_of_mem_checks hctx ha options hdocument)
  refine .bind (Session.Agrees.lift hobserve) fun trace htrace => ?_
  split
  · exact .throw _
  · simp only
    have hresolve := Validation.resolve_agrees hctx options.abortOnError
      (Validation.account [] trace.observations).2 htrace
    refine .bind (Session.Agrees.lift hresolve) fun resolved _ => ?_
    split
    · exact .throw _
    · exact .pure trivial

end Attachments

end TreePath
