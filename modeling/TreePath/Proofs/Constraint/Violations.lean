/-
TreePath.Proofs.Constraint.Violations — what is found without looking at keys.

Allowed values, patterns, tests and cardinalities are decided at one node. What a constraint of
these kinds finds there is said here without observations (`Constraint.violations`): a value that is
not permitted, a text without the right form, a test that is false, a number of items that is out of
bounds. A validation without failures finds just that, at every node and for every constraint of its
definition (`Attachments.validate_violations`); keys and references only add findings of other
kinds.
-/
import TreePath.Proofs.Constraint.Coverage

namespace TreePath

open Eval

/-! ## What rules forbid -/

namespace Rule

/-- The rule does not admit a value with the text: others than those listed are not allowed, or the
text has not the form of the pattern or of the datatype. -/
def Forbids (text : String) : Rule → Prop
  | allowedValues values allowOthers => allowOthers = false ∧ ∀ v ∈ values, v.1 ≠ text
  | pattern p? t? => (∃ p ∈ p?, p.accepts text = false) ∨ ∃ t ∈ t?, (t.read text).isOk = false
  | _ => False

instance (text : String) : (r : Rule) → Decidable (r.Forbids text)
  | allowedValues _ _ => inferInstanceAs (Decidable (_ ∧ _))
  | pattern _ _ => inferInstanceAs (Decidable (_ ∨ _))
  | expect _ _ | indexHasKey _ _ _ | index _ _ | unique _ | cardinality _ _ =>
    inferInstanceAs (Decidable False)

/-- What is said of a value that the rule does not admit. -/
def complaint (text : String) : Rule → String
  | allowedValues values _ =>
    "value '" ++ text ++ "' is not one of: " ++ ", ".intercalate (listedValues values)
  | pattern p? t? =>
    match p?.filter fun p => !p.accepts text with
    | some p => "value '" ++ text ++ "' does not match the pattern '" ++ p.source ++ "'"
    | none => "value '" ++ text ++ "' is not a valid " ++ (t?.map (·.qualifiedName)).getD ""
  | _ => ""

/-- The number of items is out of the bounds of the rule. -/
def ForbidsCount (n : Nat) : Rule → Prop
  | cardinality least most => (∃ l ∈ least, n < l) ∨ ∃ m ∈ most, m < n
  | _ => False

instance (n : Nat) : (r : Rule) → Decidable (r.ForbidsCount n)
  | cardinality _ _ => inferInstanceAs (Decidable (_ ∨ _))
  | expect _ _ | indexHasKey _ _ _ | index _ _ | unique _ | allowedValues _ _ | pattern _ _ =>
    inferInstanceAs (Decidable False)

/-- What is said of a number that is out of bounds. -/
def countComplaint (target : Expression) (n : Nat) : Rule → String
  | cardinality least most =>
    toString n ++ " occurrence(s) of '" ++ target.source ++ "', expected "
      ++ toString (least.getD 0) ++ ".." ++ (most.map toString).getD "*"
  | _ => ""

end Rule

/-! ## What constraints find -/

namespace Constraint

/-- The finding that the constraint is violated at an item. -/
def finding (c : Constraint) (item : Item) (message : String) : Finding :=
  ⟨c.id, c.kind, c.level, item.display, message⟩

/-- What the constraint has to say against an item, if anything. Where values count, an item without
a value is passed over. -/
def complaintAt (c : Constraint) (ctx : Context) (item : Item) : Eval (Option String) :=
  match c.rule with
  | .allowedValues _ _ | .pattern _ _ => do
    match ← Eval.ofResult item.atomize with
    | some v => return if c.rule.Forbids v.text then some (c.rule.complaint v.text) else none
    | none => return none
  | .expect test message => do
    if ← test.holdsAt ctx item then return none
    else match message with
      | some template => return some (← template.render ctx item)
      | none => return some ("expect test '" ++ test.source ++ "' is false")
  | _ => return none

/-- The finding of an item, if the constraint has something to say against it. -/
def violationAt (c : Constraint) (ctx : Context) (item : Item) : Eval (Option Finding) := do
  return (← c.complaintAt ctx item).map (c.finding item)

/-- The findings of the constraint at a node: one for every item that its target selects and it has
something to say against, or one for the node if there is the wrong number of them. -/
def violations (c : Constraint) (ctx : Context) (n : Node) : Eval (List Finding) := do
  let items ← c.target.evalAt ctx (.node n)
  if c.kind = .cardinality then
    return if c.rule.ForbidsCount items.length then
      [c.finding (.node n) (c.rule.countComplaint c.target items.length)] else []
  else
    return (← items.mapM (c.violationAt ctx)).filterMap fun f? => f?

end Constraint

/-! ## Checks -/

theorem Rule.permitsValue_eq_false_iff (values : List (String × String)) (allowOthers : Bool)
    (text : String) : permitsValue values allowOthers text = false
      ↔ (allowedValues values allowOthers).Forbids text := by
  simp [permitsValue, Forbids]

theorem Rule.formViolation?_none (t? : Option Datatype) (text : String) :
    formViolation? none t? text = if (pattern none t?).Forbids text then
      some ((pattern none t?).complaint text) else none := by
  cases t? with
  | none => simp [formViolation?, Forbids]
  | some t =>
    cases hread : t.read text <;>
      simp [formViolation?, Forbids, complaint, hread, Except.isOk, Except.toBool]

/-- The pattern is looked at first, and the datatype only if it has nothing against the text. -/
theorem Rule.formViolation?_eq (p? : Option ValuePattern) (t? : Option Datatype) (text : String) :
    formViolation? p? t? text = if (pattern p? t?).Forbids text then
      some ((pattern p? t?).complaint text) else none := by
  cases p? with
  | none => exact formViolation?_none t? text
  | some p =>
    cases haccepts : p.accepts text with
    | false => simp [formViolation?, Forbids, complaint, Option.filter_some, haccepts]
    | true =>
      have hsame : formViolation? (some p) t? text = formViolation? none t? text := by
        simp [formViolation?, haccepts]
      rw [hsame, formViolation?_none]
      simp [Forbids, complaint, Option.filter_some, haccepts]

/-- The violation that an observation is, as a finding. -/
def Observation.violation? (o : Observation) : Option Finding :=
  match o.sight with
  | .violation message => some (o.finding message)
  | _ => none

variable {ctx : Context}

namespace Constraint

variable {c : Constraint} {n : Node} {σ σ' : Session}

theorem countViolation?_eq (c : Constraint) (count : Nat) :
    c.countViolation? count = if c.rule.ForbidsCount count then
      some (c.rule.countComplaint c.target count) else none := by
  rw [countViolation?.eq_def]
  cases hr : c.rule with
  | cardinality least most =>
    have hpermits : permitsCount least most count = true
        ↔ ¬ (Rule.cardinality least most).ForbidsCount count := by
      simp [permitsCount, Rule.ForbidsCount, Option.all_eq_true]
    simp only [hpermits, ite_not]
    rfl
  | _ => rfl

/-- A check of an item sees a violation where the constraint has something to say. -/
theorem see_of_isImmediate (h : c.kind.isImmediate = true) (ctx : Context) (n : Node)
    (item : Item) :
    c.see ctx n item = do return (← c.complaintAt ctx item).map .violation := by
  rw [kind] at h
  rw [see, complaintAt]
  cases hr : c.rule with
  | allowedValues values allowOthers =>
    simp only [seeText, bind_assoc]
    refine congrArg _ (funext fun v => ?_)
    cases v with
    | none => rfl
    | some v =>
      simp only [pure_bind, ← Rule.permitsValue_eq_false_iff]
      cases permitsValue values allowOthers v.text <;> rfl
  | pattern p? t? =>
    simp only [seeText, bind_assoc, Rule.formViolation?_eq]
    refine congrArg _ (funext fun v => ?_)
    cases v with
    | none => rfl
    | some v => rfl
  | expect test message =>
    simp only [bind_assoc]
    refine congrArg _ (funext fun holds => ?_)
    cases holds with
    | true => rfl
    | false =>
      cases message with
      | none => rfl
      | some template => simp
  | cardinality least most => rfl
  | _ => rw [hr] at h; cases h

theorem violation?_of_map (c : Constraint) (item : Item) (message? : Option String) :
    (((message?.map Sight.violation).map fun s => (⟨c, item, s⟩ : Observation)).toList).filterMap
      Observation.violation? = (message?.map (c.finding item)).toList := by
  cases message? <;> rfl

/-- The items of a check without failure that are observed are those with a finding. -/
theorem violations_of_observeItems (h : c.kind.isImmediate = true) {items : List Item}
    {outcome : Outcome} (hrun : (c.observeItems ctx n items).run σ = (outcome, σ'))
    (hok : outcome.failure = none) :
    ∃ found, (items.mapM (c.violationAt ctx)).runIn σ = (.ok found, σ') ∧
      outcome.observations.filterMap Observation.violation? = found.filterMap fun f? => f? := by
  induction items generalizing σ outcome with
  | nil =>
    cases hrun
    exact ⟨[], rfl, rfl⟩
  | cons item rest ih =>
    rw [run_observeItems_cons, see_of_isImmediate h, runIn_bind] at hrun
    rcases hcomplaint : (c.complaintAt ctx item).runIn σ with ⟨r, σ₁⟩
    rw [hcomplaint] at hrun
    cases r with
    | error e =>
      cases hrun
      cases hok
    | ok message? =>
      rcases hrest : (c.observeItems ctx n rest).run σ₁ with ⟨outcome', σ₂⟩
      simp only [runIn_pure, hrest] at hrun
      cases hrun
      obtain ⟨found, hfound, hobserved⟩ := ih hrest hok
      refine ⟨message?.map (c.finding item) :: found, ?_, ?_⟩
      · rw [List.mapM_cons]
        exact runIn_bind_eq_ok.mpr ⟨_, σ₁, runIn_bind_eq_ok.mpr ⟨message?, σ₁, hcomplaint, rfl⟩,
          runIn_bind_eq_ok.mpr ⟨found, σ', hfound, rfl⟩⟩
      · rw [List.filterMap_append, violation?_of_map, hobserved]
        cases message? <;> rfl

/-- A cardinality constraint does not look at the items. -/
theorem run_observeItems_of_cardinality (h : c.kind = .cardinality) (items : List Item) :
    (c.observeItems ctx n items).run σ = ({}, σ) := by
  have hsee : ∀ item, (c.see ctx n item).runIn σ = (.ok none, σ) := by
    intro item
    rw [kind] at h
    rw [see]
    cases hr : c.rule with
    | cardinality least most => rfl
    | _ => rw [hr] at h; cases h
  induction items with
  | nil => rfl
  | cons item rest ih =>
    rw [run_observeItems_cons, hsee]
    simp only [ih]
    rfl

/-- A check without failure observes what the constraint finds. -/
theorem violations_of_observe (h : c.kind.isImmediate = true) {outcome : Outcome}
    (hrun : (c.observe ctx n).run σ = (outcome, σ')) (hok : outcome.failure = none) :
    ((c.violations ctx n).runIn σ).1
      = .ok (outcome.observations.filterMap Observation.violation?) := by
  rw [run_observe] at hrun
  rcases hitems : (c.target.evalAt ctx (.node n)).runIn σ with ⟨r, σ₁⟩
  rw [hitems] at hrun
  rw [violations, runIn_bind, hitems]
  cases r with
  | error e =>
    cases hrun
    cases hok
  | ok items =>
    simp only at hrun ⊢
    by_cases hcardinality : c.kind = .cardinality
    · rw [if_pos hcardinality]
      rw [countViolation?_eq] at hrun
      by_cases hcount : c.rule.ForbidsCount items.length
      · rw [if_pos hcount] at hrun ⊢
        cases hrun
        rfl
      · rw [if_neg hcount] at hrun ⊢
        simp only [run_observeItems_of_cardinality hcardinality] at hrun
        cases hrun
        rfl
    · have hnone : c.countViolation? items.length = none := by
        cases hcount : c.countViolation? items.length with
        | none => rfl
        | some message => exact absurd (kind_of_countViolation? hcount) hcardinality
      rw [hnone] at hrun
      obtain ⟨found, hfound, hobserved⟩ := violations_of_observeItems h hrun hok
      rw [if_neg hcardinality, runIn_bind_ok hfound, hobserved]
      rfl

/-- Checks of other kinds observe no violations. -/
theorem violations_eq_nil (h : c.kind.isImmediate = false) {outcome : Outcome}
    (hrun : (c.observe ctx n).run σ = (outcome, σ')) :
    outcome.observations.filterMap Observation.violation? = [] := by
  refine List.filterMap_eq_nil_iff.mpr fun o ho => ?_
  obtain ⟨-, hsees⟩ := sees_of_observe (s := σ) (by rw [hrun]; exact ho)
  rw [Observation.violation?.eq_def]
  cases hsight : o.sight with
  | violation message =>
    rw [hsight] at hsees
    cases hsees with
    | violation _ himmediate => rw [h] at himmediate; cases himmediate
  | entry table key => rfl
  | reference index key => rfl

end Constraint

namespace Validation

/-! ## The walk -/

/-- **A walk without failures observes what the constraints find.** -/
theorem violations_of_observeAll {abortOnError : Bool} {checks : List (Node × Constraint)}
    {σ σ' : Session} {os : List Observation}
    (hrun : (observeAll ctx abortOnError checks).run σ = (⟨os, []⟩, σ')) :
    ∃ found, List.Forall₂ (fun p fs => ((p.1.2.violations ctx p.1.1).runIn p.2).1 = .ok fs)
        ((withSessions ctx checks σ).filter fun p => p.1.2.kind.isImmediate) found ∧
      os.filterMap Observation.violation? = found.flatten := by
  induction checks generalizing σ os with
  | nil =>
    cases hrun
    exact ⟨[], .nil, rfl⟩
  | cons p rest ih =>
    obtain ⟨n, c⟩ := p
    obtain ⟨here, σ₁, later, hobserve, hrest, rfl⟩ := observeAll_cons_eq_ok hrun
    obtain ⟨found, hfound, hlater⟩ := ih hrest
    have hsession : ((c.observe ctx n).run σ).2 = σ₁ := by rw [hobserve]
    rw [withSessions, hsession, List.filterMap_append, hlater]
    cases himmediate : c.kind.isImmediate with
    | true =>
      rw [List.filter_cons_of_pos (by simp [himmediate])]
      exact ⟨_ :: found, .cons (Constraint.violations_of_observe himmediate hobserve rfl) hfound,
        rfl⟩
    | false =>
      rw [List.filter_cons_of_neg (by simp [himmediate]),
        Constraint.violations_eq_nil himmediate hobserve]
      exact ⟨found, hfound, rfl⟩

/-- Before the look-up, only violations are of the kinds that are decided at one node. -/
theorem account_filter_isImmediate {seen : SeenKeys} {os : List Observation}
    (hsees : ∀ o ∈ os, ∃ n, o.constraint.Sees n o.sight) :
    (account seen os).1.filter (fun f => f.kind.isImmediate)
      = os.filterMap Observation.violation? := by
  induction os generalizing seen with
  | nil => rfl
  | cons o rest ih =>
    obtain ⟨⟨n, hn⟩, hrest⟩ := List.forall_mem_cons.mp hsees
    rw [account_cons, List.filter_append, ih hrest, List.filterMap_cons, reported?.eq_def,
      Observation.violation?.eq_def]
    cases hsight : o.sight with
    | violation message =>
      rw [hsight] at hn
      cases hn with
      | violation _ himmediate =>
        have hkind : (o.finding message).kind.isImmediate = true := himmediate
        simp [hkind]
    | reference index key => rfl
    | entry table key =>
      rw [hsight] at hn
      have hkind : ∀ message, (o.finding message).kind.isImmediate = false := by
        intro message
        show o.constraint.rule.kind.isImmediate = false
        cases hn with
        | index key hr => rw [hr]; rfl
        | unique key hr => rw [hr]; rfl
      cases hfound : seen.lookup (table, key) with
      | none => simp [hfound]
      | some first => simp [hfound, hkind]

end Validation

/-! ## Validation -/

namespace Attachments

open Validation

/-- **Validation meets its meaning.** The checks of a document are all pairs of a node other than
the document node, flags included, and a constraint of its definition, each of them once. Of the
kinds that are decided at one node, a validation that skips nothing and in which nothing fails finds
what these constraints find there, each in the session in which the walk comes to it, and nothing
else. -/
theorem validate_violations {F : Forest} (hF : F.Built) {a : Attachments} (ha : a.entries.Nodup)
    {document : Node} (hdocument : document.Within F) {abortOnError : Bool} {σ : Session}
    {r : Report} (hr : ((a.validate ⟨abortOnError, .debug⟩ ctx document).runIn σ).1 = .ok r)
    (hok : r.errors = []) :
    (a.allChecks document).Nodup ∧
    (∀ n c, (n, c) ∈ a.allChecks document
      ↔ document.Reaches n ∧ n.kind ≠ .document ∧ (n.definition.id, c) ∈ a.entries) ∧
    ∃ found, List.Forall₂ (fun p fs => ((p.1.2.violations ctx p.1.1).runIn p.2).1 = .ok fs)
        ((withSessions ctx (a.allChecks document) σ).filter fun p => p.1.2.kind.isImmediate)
        found ∧
      r.findings.filter (fun f => f.kind.isImmediate) = found.flatten := by
  refine ⟨nodup_allChecks hF hdocument ha, fun n c => mem_allChecks hF hdocument, ?_⟩
  obtain ⟨os, σ₁, found, hwalk, hresolve, hfindings⟩ := exists_of_validate_eq_ok hr hok
  rw [checks_debug] at hwalk
  obtain ⟨violations, hviolations, hos⟩ := violations_of_observeAll hwalk
  have hsees := sees_of_observeAll hwalk
  have hafter : found.filter (fun f => f.kind.isImmediate) = [] :=
    List.filter_eq_nil_iff.mpr fun f hf => by
      rw [kind_of_mem_resolve hsees (s := σ₁) (by rw [hresolve]; exact hf)]
      decide
  refine ⟨violations, hviolations, ?_⟩
  rw [hfindings, List.filter_append, account_filter_isImmediate hsees, hafter, List.append_nil, hos]

end Attachments

/-! A room in which an identifier is not listed and a shelf is empty. -/

namespace Node.Sample

def inspected : Attachments :=
  ⟨[(3, ⟨0, none, .warning, itemsHere, none, none, none, [], .cardinality (some 1) none⟩),
    (3, ⟨1, some "filled", .error, .contextItem, none, none, none, [], .expect itemsHere none⟩),
    (0, ⟨2, none, .error, .contextItem, none, none, none, [],
      .allowedValues [("r", "room"), ("a", "first"), ("b", "second")] false⟩)]⟩

def inspection : List Finding :=
  [⟨some "filled", .expect, .error, "/room[1]/shelf[2]", "expect test 'item' is false"⟩,
    ⟨none, .cardinality, .warning, "/room[1]/shelf[2]",
      "0 occurrence(s) of 'item', expected 1..*"⟩,
    ⟨none, .allowedValues, .error, "/room[1]/shelf[2]/@id", "value 's' is not one of: r, a, b"⟩]

end Node.Sample

open Node.Sample Validation in
/-- Of the two shelves only the empty one is reported, and of the four identifiers only one. -/
theorem validate_violations_of_room :
    (inspected.allChecks roomNode).Nodup ∧
    (∀ n c, (n, c) ∈ inspected.allChecks roomNode ↔
      roomNode.Reaches n ∧ n.kind ≠ .document ∧ (n.definition.id, c) ∈ inspected.entries) ∧
    ∃ found, List.Forall₂ (fun p fs => ((p.1.2.violations keptResults p.1.1).runIn p.2).1 = .ok fs)
        ((withSessions keptResults (inspected.allChecks roomNode) {}).filter
          fun p => p.1.2.kind.isImmediate) found ∧
      inspection = found.flatten := by
  have hr : ((inspected.validate ⟨true, .debug⟩ keptResults roomNode).runIn {}).1
      = .ok ⟨inspection, []⟩ := by
    cbv
  have hdistinct : (inspected.entries.map fun e => e.2.identity).Nodup := by decide
  exact Attachments.validate_violations built_rooms hdistinct.of_map within_rooms hr rfl

/-! ## Violations on their own -/

section

variable {P : Item → Prop} {InOrder : Session → Prop}

theorem Constraint.complaintAt_agrees (hctx : ctx.Steady P InOrder) {c : Constraint}
    (hc : c.Known P) {i : Item} (hi : P i) :
    Same InOrder (c.complaintAt ctx i) (c.complaintAt ctx.uncached i) := by
  have hrule : ∀ e ∈ c.rule.expressions, ∀ v ∈ e.expr.literals, P (.atomic v) :=
    fun e he => hc e (List.mem_cons_of_mem _ he)
  rw [complaintAt, complaintAt]
  cases hr : c.rule with
  | allowedValues values allowOthers =>
    exact .bind .outcome fun v _ => by cases v <;> exact .pure trivial
  | pattern p? t? =>
    exact .bind .outcome fun v _ => by cases v <;> exact .pure trivial
  | expect test message =>
    rw [hr, Rule.expressions] at hrule
    refine .bind (Expression.holdsAt_agrees hctx (hrule test List.mem_cons_self) hi) fun b _ => ?_
    split
    · exact .pure trivial
    · cases message with
      | none => exact .pure trivial
      | some t =>
        refine .bind (Template.render_agrees hctx (fun e he => hrule e ?_) hi) fun _ _ =>
          .pure trivial
        exact List.mem_cons_of_mem _ he
  | _ => exact .pure trivial

theorem Constraint.violations_agrees (hctx : ctx.Steady P InOrder) {c : Constraint}
    (hc : c.Known P) {n : Node} (hn : P (.node n)) :
    Same InOrder (c.violations ctx n) (c.violations ctx.uncached n) := by
  have htarget := Expression.evalAt_agrees hctx (hc c.target List.mem_cons_self) hn
  refine .bind htarget fun items hi => ?_
  split
  · exact .pure trivial
  · refine .bind (Related.mapM (R := fun _ => True) fun item hitem => ?_) fun _ _ => .pure trivial
    exact .bind (complaintAt_agrees hctx hc (hi item hitem)) fun _ _ => .pure trivial

/-- A walk leaves the session in order. -/
theorem Validation.inOrder_of_mem_withSessions (hctx : ctx.Steady P InOrder)
    {checks : List (Node × Constraint)} (h : ∀ p ∈ checks, P (.node p.1) ∧ p.2.Known P)
    {σ : Session} (hσ : InOrder σ) {p : (Node × Constraint) × Session}
    (hp : p ∈ withSessions ctx checks σ) : p.1 ∈ checks ∧ InOrder p.2 := by
  induction checks generalizing σ with
  | nil => exact absurd hp List.not_mem_nil
  | cons q rest ih =>
    obtain ⟨n, c⟩ := q
    obtain ⟨hn, hc⟩ := h (n, c) List.mem_cons_self
    rcases List.mem_cons.mp hp with rfl | hp
    · exact ⟨List.mem_cons_self, hσ⟩
    · obtain ⟨-, hσ₁, -⟩ := Constraint.observe_agrees hctx hc hn σ {} hσ
      have hlater := ih (fun q hq => h q (List.mem_cons_of_mem _ hq)) hσ₁ hp
      exact ⟨List.mem_cons_of_mem _ hlater.1, hlater.2⟩

end

/-- **Where evaluations do not depend on what the session holds, every check has findings of its
own**: those of the constraint at the node, evaluated without the cache. -/
theorem Attachments.Repeatable.violations_eq {a : Attachments} {document : Node} {σ : Session}
    (h : a.Repeatable ctx document σ) {p : (Node × Constraint) × Session}
    (hp : p ∈ Validation.withSessions ctx (a.allChecks document) σ) :
    ((p.1.2.violations ctx p.1.1).runIn p.2).1
      = ((p.1.2.violations ctx.uncached p.1.1).runIn {}).1 := by
  obtain ⟨P, InOrder, hctx, hknown, hdocument, hσ⟩ := h.exists_steady
  have hchecks := Attachments.known_of_mem_checks hctx hknown ⟨true, .debug⟩ hdocument
  rw [Attachments.checks_debug] at hchecks
  obtain ⟨hmem, hsession⟩ := Validation.inOrder_of_mem_withSessions hctx hchecks hσ hp
  obtain ⟨hn, hc⟩ := hchecks p.1 hmem
  exact (Constraint.violations_agrees hctx hc hn p.2 {} hsession).1

end TreePath
