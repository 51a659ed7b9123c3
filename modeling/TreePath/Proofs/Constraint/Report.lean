/-
TreePath.Proofs.Constraint.Report — what a validation reports, in terms of what is observed.

A validation has three parts: it makes the checks, accounts for the keys and resolves the
references. Where evaluations do not depend on what the session holds (`Attachments.Repeatable`),
the outcome of a check is a matter of the node and the constraint alone, and so is the text of a
reference that leads nowhere. A validation in which nothing fails is then a function of the
observations (`Attachments.validate_eq_ok_iff`): the findings are those of `account`, followed by
one for each reference to a key that no index has.
-/
import TreePath.Proofs.Constraint.Agreement
import TreePath.Proofs.Session.Agreement

namespace TreePath

open Eval

/-! ## Repeatable validations -/

/-- What the session holds makes no difference to validations of the document: nothing is kept, or
the functions are the built-in ones and no instant occurs in two zones. -/
def Attachments.Repeatable (a : Attachments) (ctx : Context) (document : Node) (s : Session) :
    Prop :=
  ctx.caching = false ∨
    ctx.registry = Library.registry ∧ ∃ S : Supply, S.Serves ctx.env ∧ UniqueZones S.zoned ∧
      document.Within S.forest ∧ a.Known S.HasItem ∧ InOrder S ctx.env s

/-- Evaluations of a repeatable validation do not depend on the session. -/
theorem Attachments.Repeatable.exists_steady {a : Attachments} {ctx : Context} {document : Node}
    {s : Session} (h : a.Repeatable ctx document s) :
    ∃ P InOrder, ctx.Steady P InOrder ∧ a.Known P ∧ P (.node document) ∧ InOrder s := by
  have huncached : ∀ ctx : Context, ctx.caching = false →
      ∃ P InOrder, ctx.Steady P InOrder ∧ a.Known P ∧ P (.node document) ∧ InOrder s :=
    fun _ hctx => ⟨fun _ => True, fun _ => True, Context.steady_of_uncached hctx,
      fun _ _ _ _ _ _ => trivial, trivial, trivial⟩
  rcases h with h | ⟨hregistry, S, hS, hU, hdocument, hknown, hs⟩
  · exact huncached ctx h
  · obtain ⟨env, registry, caching⟩ := ctx
    cases caching with
    | false => exact huncached _ rfl
    | true =>
      rw [show registry = Library.registry from hregistry]
      exact ⟨S.HasItem, _, Supply.steady hS hU, hknown, hdocument, hs⟩

/-- A repeatable validation gives what it gives without the cache. -/
theorem Attachments.Repeatable.validate_eq {a : Attachments} {ctx : Context} {document : Node}
    {s : Session} (h : a.Repeatable ctx document s) (options : ValidationOptions) :
    ((a.validate options ctx document).runIn s).1
      = ((a.validate options ctx.uncached document).runIn {}).1 := by
  obtain ⟨P, InOrder, hctx, hknown, hdocument, hs⟩ := h.exists_steady
  exact (validate_agrees hctx hknown options hdocument s {} hs).1

/-- It leaves a session in which the next one is repeatable again. -/
theorem Attachments.Repeatable.after_validate {a : Attachments} {ctx : Context} {document : Node}
    {s : Session} (h : a.Repeatable ctx document s) (options : ValidationOptions) :
    a.Repeatable ctx document ((a.validate options ctx document).runIn s).2 := by
  rcases h with h | ⟨hregistry, S, hS, hU, hdocument, hknown, hs⟩
  · exact .inl h
  · obtain ⟨env, registry, caching⟩ := ctx
    cases caching with
    | false => exact .inl rfl
    | true =>
      have hagrees := validate_agrees (Supply.steady hS hU) hknown options hdocument
      refine .inr ⟨hregistry, S, hS, hU, hdocument, hknown, ?_⟩
      rw [show registry = Library.registry from hregistry]
      exact (hagrees s {} hs).2.1

namespace Validation

variable {ctx : Context}

/-! ## Checks -/

/-- What comes of a check in a session that holds nothing. -/
def outcome (ctx : Context) (p : Node × Constraint) : Outcome :=
  ((p.2.observe ctx p.1).run {}).1

/-- The observations of checks that do not fail, in the order of the checks. -/
def observed (ctx : Context) (checks : List (Node × Constraint)) : List Observation :=
  checks.flatMap fun p => (outcome ctx p).observations

/-- No check fails. -/
def AllSucceed (ctx : Context) (checks : List (Node × Constraint)) : Prop :=
  ∀ p ∈ checks, (outcome ctx p).failure = none

theorem observe_agrees (hctx : ctx.caching = false) (n : Node) (c : Constraint) :
    Session.Agrees (fun _ => True) (c.Observes (fun _ => True) n) (c.observe ctx n)
      (c.observe ctx.uncached n) :=
  Constraint.observe_agrees (Context.steady_of_uncached hctx) (fun _ _ _ _ => trivial) trivial

theorem run_observe (hctx : ctx.caching = false) (n : Node) (c : Constraint) (s : Session) :
    ((c.observe ctx n).run s).1 = outcome ctx (n, c) := by
  have hagrees := observe_agrees hctx n c
  exact ((hagrees s {} trivial).1).trans ((hagrees {} {} trivial).1).symm

/-- Whoever made an observation, it was one of the checks. -/
theorem exists_of_mem_observed {checks : List (Node × Constraint)} {o : Observation}
    (ho : o ∈ observed ctx checks) :
    ∃ n, (n, o.constraint) ∈ checks ∧ o.constraint.Sees n o.sight := by
  obtain ⟨⟨n, c⟩, hp, hmem⟩ := List.mem_flatMap.mp ho
  obtain ⟨heq, hsees⟩ := Constraint.sees_of_observe hmem
  rw [heq]
  exact ⟨n, hp, hsees⟩

theorem observeAll_eq (hctx : ctx.caching = false) {checks : List (Node × Constraint)}
    (h : AllSucceed ctx checks) (abortOnError : Bool) (s : Session) :
    ((observeAll ctx abortOnError checks).run s).1 = ⟨observed ctx checks, []⟩ := by
  induction checks generalizing s with
  | nil => rfl
  | cons p rest ih =>
    obtain ⟨n, c⟩ := p
    have hnone : (outcome ctx (n, c)).failure = none := h (n, c) List.mem_cons_self
    have hrest := ih fun q hq => h q (List.mem_cons_of_mem _ hq)
    rw [observeAll, Session.run_bind, run_observe hctx, hnone]
    simp only [Option.isSome_none, Bool.false_and, Bool.false_eq_true, if_false]
    rw [Session.run_bind, hrest]
    rfl

/-- The checks, each with the session in which a walk makes it. -/
def withSessions (ctx : Context) : List (Node × Constraint) → Session →
    List ((Node × Constraint) × Session)
  | [], _ => []
  | (n, c) :: rest, s => ((n, c), s) :: withSessions ctx rest ((c.observe ctx n).run s).2

/-- A walk goes on after a check, unless that fails and the first failure ends the walk. -/
theorem run_observeAll_cons (n : Node) (c : Constraint) (rest : List (Node × Constraint))
    (abortOnError : Bool) (s : Session) :
    (observeAll ctx abortOnError ((n, c) :: rest)).run s =
      let here := (c.observe ctx n).run s
      if here.1.failure.isSome && abortOnError then
        (⟨here.1.observations, here.1.failure.toList⟩, here.2)
      else
        let later := (observeAll ctx abortOnError rest).run here.2
        (⟨here.1.observations ++ later.1.observations,
          here.1.failure.toList ++ later.1.errors⟩, later.2) := by
  rw [observeAll, Session.run_bind]
  simp only
  split
  · rfl
  · rfl

/-- A walk without failures makes the first check without a failure, and then the others. -/
theorem observeAll_cons_eq_ok {n : Node} {c : Constraint} {rest : List (Node × Constraint)}
    {abortOnError : Bool} {s s' : Session} {os : List Observation}
    (h : (observeAll ctx abortOnError ((n, c) :: rest)).run s = (⟨os, []⟩, s')) :
    ∃ here s₁ later, (c.observe ctx n).run s = (⟨here, none⟩, s₁) ∧
      (observeAll ctx abortOnError rest).run s₁ = (⟨later, []⟩, s') ∧ os = here ++ later := by
  rw [run_observeAll_cons] at h
  rcases hobserve : (c.observe ctx n).run s with ⟨⟨here, failure⟩, s₁⟩
  rcases hrest : (observeAll ctx abortOnError rest).run s₁ with ⟨⟨later, errors⟩, s₂⟩
  simp only [hobserve, hrest] at h
  split at h
  · rename_i hfailed
    cases failure with
    | none => cases hfailed
    | some e => cases h
  · obtain ⟨htrace, rfl⟩ := Prod.mk.inj h
    obtain ⟨rfl, herrors⟩ := Trace.mk.inj htrace
    obtain ⟨hnone, rfl⟩ := List.append_eq_nil_iff.mp herrors
    obtain rfl : failure = none := Option.toList_eq_nil_iff.mp hnone
    exact ⟨here, s₁, later, rfl, hrest, rfl⟩

/-- Whatever fails, a walk observes what constraints see at nodes. -/
theorem exists_sees_of_mem_observeAll {checks : List (Node × Constraint)} {abortOnError : Bool}
    {s : Session} {o : Observation}
    (ho : o ∈ ((observeAll ctx abortOnError checks).run s).1.observations) :
    ∃ n, o.constraint.Sees n o.sight := by
  induction checks generalizing s with
  | nil => exact absurd ho List.not_mem_nil
  | cons p rest ih =>
    obtain ⟨n, c⟩ := p
    have hhere : o ∈ ((c.observe ctx n).run s).1.observations →
        ∃ n, o.constraint.Sees n o.sight := by
      intro h
      obtain ⟨rfl, hsees⟩ := Constraint.sees_of_observe h
      exact ⟨n, hsees⟩
    rw [run_observeAll_cons] at ho
    simp only at ho
    split at ho
    · exact hhere ho
    · rcases List.mem_append.mp ho with ho | ho
      · exact hhere ho
      · exact ih ho

/-- A trace without failures is one in which all checks were made and succeeded. -/
theorem allSucceed_of_observeAll (hctx : ctx.caching = false)
    {checks : List (Node × Constraint)} {abortOnError : Bool} {s s' : Session}
    {os : List Observation} (h : (observeAll ctx abortOnError checks).run s = (⟨os, []⟩, s')) :
    AllSucceed ctx checks := by
  induction checks generalizing s os with
  | nil => exact fun p hp => absurd hp List.not_mem_nil
  | cons p rest ih =>
    obtain ⟨n, c⟩ := p
    obtain ⟨here, s₁, later, hobserve, hrest, -⟩ := observeAll_cons_eq_ok h
    have hnone : (outcome ctx (n, c)).failure = none := by
      rw [← run_observe hctx n c s, hobserve]
    intro q hq
    rcases List.mem_cons.mp hq with rfl | hq
    · exact hnone
    · exact ih hrest q hq

/-! ## References -/

/-- The key that an observation looks up, if no index has it. -/
def missing? (keys : SeenKeys) (o : Observation) : Option (String × Key) :=
  match o.sight with
  | .reference index key =>
    if (keys.lookup (.index index, key)).isSome then none else some (index, key)
  | _ => none

/-- What a missing key leads to: a finding, or the failure of the message. -/
def missingFinding (ctx : Context) (o : Observation) (k : String × Key) : Except Error Finding :=
  ((missingMessage ctx o k.1 k.2).runIn {}).1.map o.finding

theorem missing?_eq_some {keys : SeenKeys} {o : Observation} {k : String × Key}
    (h : missing? keys o = some k) :
    o.sight = .reference k.1 k.2 ∧ keys.lookup (.index k.1, k.2) = none := by
  rw [missing?.eq_def] at h
  split at h
  · rename_i index key hsight
    split at h
    · cases h
    · rename_i hnone
      cases h
      exact ⟨hsight, Option.not_isSome_iff_eq_none.mp hnone⟩
  · cases h

/-- A key is missing for an observation that looks it up, unless it has been seen. -/
theorem isSome_missing? (keys : SeenKeys) (o : Observation) :
    (missing? keys o).isSome = true
      ↔ ∃ name key, o.sight = .reference name key ∧ keys.lookup (.index name, key) = none := by
  constructor
  · intro h
    obtain ⟨k, hk⟩ := Option.isSome_iff_exists.mp h
    obtain ⟨hsight, hnone⟩ := missing?_eq_some hk
    exact ⟨k.1, k.2, hsight, hnone⟩
  · rintro ⟨name, key, hsight, hnone⟩
    rw [missing?.eq_def, hsight]
    simp [hnone]

theorem exists_of_missingFinding {o : Observation} {k : String × Key} {f : Finding}
    (h : missingFinding ctx o k = .ok f) : ∃ message, f = o.finding message := by
  rw [missingFinding] at h
  cases hmessage : ((missingMessage ctx o k.1 k.2).runIn {}).1 with
  | ok message =>
    rw [hmessage] at h
    cases h
    exact ⟨message, rfl⟩
  | error e =>
    rw [hmessage] at h
    cases h

/-- What comes of all missing keys in order. -/
def references (ctx : Context) (keys : SeenKeys) (os : List Observation) :
    List (Except Error Finding) :=
  os.filterMap fun o => (missing? keys o).map (missingFinding ctx o)

theorem run_missingMessage (hctx : ctx.caching = false) (o : Observation) (index : String)
    (key : Key) (s : Session) :
    ((missingMessage ctx o index key).run.run s).1
      = ((missingMessage ctx o index key).runIn {}).1 := by
  have hagrees := missingMessage_agrees (Context.steady_of_uncached hctx) (o := o)
    (fun _ _ _ _ => trivial) trivial index key
  exact ((hagrees s {} trivial).1).trans ((hagrees {} {} trivial).1).symm

theorem resolve_cons_of_none {keys : SeenKeys} {o : Observation} (h : missing? keys o = none)
    (abortOnError : Bool) (rest : List Observation) :
    resolve ctx abortOnError keys (o :: rest) = resolve ctx abortOnError keys rest := by
  rw [missing?.eq_def] at h
  rw [resolve]
  cases hsight : o.sight with
  | violation message => rfl
  | entry table key => rfl
  | reference index key =>
    rw [hsight] at h
    simp only at h ⊢
    split at h
    · rename_i hfound
      rw [if_pos hfound]
    · cases h

/-- A missing key leads to a finding, if there is a message for it. -/
theorem run_resolve_cons {keys : SeenKeys} {o : Observation} {k : String × Key}
    (h : missing? keys o = some k) (abortOnError : Bool) (rest : List Observation) (s : Session) :
    (resolve ctx abortOnError keys (o :: rest)).run s =
      match (missingMessage ctx o k.1 k.2).runIn s with
      | (.ok message, s') =>
        let r := (resolve ctx abortOnError keys rest).run s'
        (⟨o.finding message :: r.1.findings, r.1.errors⟩, r.2)
      | (.error e, s') =>
        if abortOnError then (⟨[], [e]⟩, s')
        else
          let r := (resolve ctx abortOnError keys rest).run s'
          (⟨r.1.findings, e :: r.1.errors⟩, r.2) := by
  obtain ⟨hsight, hnone⟩ := missing?_eq_some h
  rw [resolve, hsight]
  simp only
  rw [if_neg (by rw [hnone]; simp), Session.run_bind]
  rcases hmessage : (missingMessage ctx o k.1 k.2).runIn s with ⟨r, s'⟩
  rw [show (missingMessage ctx o k.1 k.2).run.run s = (r, s') from hmessage]
  cases r with
  | ok message => rfl
  | error e => cases abortOnError <;> rfl

/-- Whatever fails, what the look-up finds is about keys that are missing. -/
theorem exists_missing_of_mem_resolve {keys : SeenKeys} {os : List Observation}
    {abortOnError : Bool} {s : Session} {f : Finding}
    (hf : f ∈ ((resolve ctx abortOnError keys os).run s).1.findings) :
    ∃ o ∈ os, ∃ k message, missing? keys o = some k ∧ f = o.finding message := by
  induction os generalizing s with
  | nil => exact absurd hf List.not_mem_nil
  | cons o rest ih =>
    have hrest : ∀ s, f ∈ ((resolve ctx abortOnError keys rest).run s).1.findings →
        ∃ o' ∈ o :: rest, ∃ k message, missing? keys o' = some k ∧ f = o'.finding message := by
      intro s hs
      obtain ⟨o', ho', hk⟩ := ih hs
      exact ⟨o', List.mem_cons_of_mem o ho', hk⟩
    cases hmissing : missing? keys o with
    | none => exact hrest s (resolve_cons_of_none hmissing abortOnError rest ▸ hf)
    | some k =>
      rw [run_resolve_cons hmissing] at hf
      rcases hmessage : (missingMessage ctx o k.1 k.2).runIn s with ⟨r, s'⟩
      rw [hmessage] at hf
      cases r with
      | ok message =>
        rcases List.mem_cons.mp hf with rfl | hf
        · exact ⟨o, List.mem_cons_self, k, message, hmissing, rfl⟩
        · exact hrest s' hf
      | error e =>
        cases abortOnError with
        | true => exact absurd hf List.not_mem_nil
        | false => exact hrest s' hf

theorem resolve_cons_of_some (hctx : ctx.caching = false) {keys : SeenKeys} {o : Observation}
    {k : String × Key} (h : missing? keys o = some k) (abortOnError : Bool)
    (rest : List Observation) (s : Session) :
    ∃ s', ((resolve ctx abortOnError keys (o :: rest)).run s).1 =
      match missingFinding ctx o k with
      | .ok f =>
        let r := ((resolve ctx abortOnError keys rest).run s').1
        ⟨f :: r.findings, r.errors⟩
      | .error e =>
        if abortOnError then ⟨[], [e]⟩
        else
          let r := ((resolve ctx abortOnError keys rest).run s').1
          ⟨r.findings, e :: r.errors⟩ := by
  refine ⟨((missingMessage ctx o k.1 k.2).runIn s).2, ?_⟩
  rw [run_resolve_cons h, missingFinding, ← run_missingMessage hctx o k.1 k.2 s]
  rcases hmessage : (missingMessage ctx o k.1 k.2).runIn s with ⟨r, s'⟩
  rw [show (missingMessage ctx o k.1 k.2).run.run s = (r, s') from hmessage]
  cases r with
  | ok message => rfl
  | error e => cases abortOnError <;> rfl

/-- The references are resolved without a failure exactly if every missing key has its finding. -/
theorem resolve_eq_iff (hctx : ctx.caching = false) (keys : SeenKeys) (os : List Observation)
    (abortOnError : Bool) (findings : List Finding) (s : Session) :
    ((resolve ctx abortOnError keys os).run s).1 = ⟨findings, []⟩
      ↔ references ctx keys os = findings.map .ok := by
  induction os generalizing findings s with
  | nil =>
    have hnil : ((resolve ctx abortOnError keys []).run s).1 = ⟨[], []⟩ := rfl
    rw [hnil]
    cases findings <;> simp [references]
  | cons o rest ih =>
    cases hmissing : missing? keys o with
    | none =>
      have hcons : references ctx keys (o :: rest) = references ctx keys rest := by
        simp [references, hmissing]
      rw [resolve_cons_of_none hmissing, ih, hcons]
    | some k =>
      obtain ⟨s', hrun⟩ := resolve_cons_of_some hctx hmissing abortOnError rest s
      have hcons : references ctx keys (o :: rest)
          = missingFinding ctx o k :: references ctx keys rest := by
        simp [references, hmissing]
      rw [hrun, hcons]
      cases missingFinding ctx o k with
      | error e => cases findings <;> cases abortOnError <;> simp
      | ok f =>
        cases findings with
        | nil => simp
        | cons g gs =>
          rw [List.map_cons, List.cons_eq_cons, ← ih gs s']
          generalize ((resolve ctx abortOnError keys rest).run s').1 = r
          obtain ⟨found, errors⟩ := r
          simp [and_assoc]

/-- Whatever fails, the findings among references are about missing keys. -/
theorem exists_of_mem_resolve (hctx : ctx.caching = false) {keys : SeenKeys}
    {os : List Observation} {abortOnError : Bool} {s : Session} {f : Finding}
    (hf : f ∈ ((resolve ctx abortOnError keys os).run s).1.findings) :
    ∃ o ∈ os, ∃ k, missing? keys o = some k ∧ missingFinding ctx o k = .ok f := by
  induction os generalizing s with
  | nil => exact absurd hf List.not_mem_nil
  | cons o rest ih =>
    have hrest : ∀ s, f ∈ ((resolve ctx abortOnError keys rest).run s).1.findings →
        ∃ o' ∈ o :: rest, ∃ k, missing? keys o' = some k ∧ missingFinding ctx o' k = .ok f := by
      intro s hs
      obtain ⟨o', ho', hk⟩ := ih hs
      exact ⟨o', List.mem_cons_of_mem o ho', hk⟩
    cases hmissing : missing? keys o with
    | none => exact hrest s (resolve_cons_of_none hmissing abortOnError rest ▸ hf)
    | some k =>
      obtain ⟨s', hrun⟩ := resolve_cons_of_some hctx hmissing abortOnError rest s
      rw [hrun] at hf
      cases hfinding : missingFinding ctx o k with
      | ok g =>
        rw [hfinding] at hf
        rcases List.mem_cons.mp hf with rfl | hf
        · exact ⟨o, List.mem_cons_self, k, hmissing, hfinding⟩
        · exact hrest s' hf
      | error e =>
        rw [hfinding] at hf
        cases abortOnError with
        | true => exact absurd hf List.not_mem_nil
        | false => exact hrest s' hf

end Validation

/-! ## Reports -/

namespace Attachments

open Validation

variable {ctx : Context} {a : Attachments} {options : ValidationOptions} {document : Node}

/-- A validation makes the checks, and then accounts for the keys and resolves the references. The
first failure of either ends it, if asked to. -/
theorem run_validate (s : Session) :
    (a.validate options ctx document).runIn s =
      let trace := (observeAll ctx options.abortOnError (checks a options document)).run s
      match options.abortOnError, trace.1.errors with
      | true, e :: _ => (.error e, trace.2)
      | _, _ =>
        let accounted := account [] trace.1.observations
        let resolved :=
          (resolve ctx options.abortOnError accounted.2 trace.1.observations).run trace.2
        match options.abortOnError, resolved.1.errors with
        | true, e :: _ => (.error e, resolved.2)
        | _, _ =>
          (.ok ⟨accounted.1 ++ resolved.1.findings, trace.1.errors ++ resolved.1.errors⟩,
            resolved.2) := by
  obtain ⟨abortOnError, leastLevel⟩ := options
  rw [validate, runIn_bind_ok (runIn_lift _ s)]
  rcases (observeAll ctx abortOnError (checks a ⟨abortOnError, leastLevel⟩ document)).run s
    with ⟨⟨os, errors⟩, s₁⟩
  cases abortOnError with
  | false => rfl
  | true =>
    cases errors with
    | cons e rest => rfl
    | nil =>
      simp only
      rw [runIn_bind_ok (runIn_lift _ s₁)]
      rcases (Validation.resolve ctx true (account [] os).2 os).run s₁ with ⟨⟨found, errors⟩, s₂⟩
      cases errors <;> rfl

/-- Whatever fails, a report has what comes of the observations, and then what comes of the
references. -/
theorem report_of_validate {r : Report} {s : Session}
    (hr : ((a.validate options ctx document).runIn s).1 = .ok r) :
    let trace := (observeAll ctx options.abortOnError (checks a options document)).run s
    let accounted := account [] trace.1.observations
    let resolved := (resolve ctx options.abortOnError accounted.2 trace.1.observations).run trace.2
    r = ⟨accounted.1 ++ resolved.1.findings, trace.1.errors ++ resolved.1.errors⟩ := by
  rw [run_validate] at hr
  simp only at hr ⊢
  split at hr
  · cases hr
  · split at hr
    · cases hr
    · cases hr
      rfl

/-- What is reported when all checks succeed. -/
theorem validate_of_allSucceed (hctx : ctx.caching = false)
    (h : AllSucceed ctx (checks a options document)) (s : Session) :
    ∃ s', ((a.validate options ctx document).runIn s).1 =
      let accounted := account [] (observed ctx (checks a options document))
      let resolved := ((resolve ctx options.abortOnError accounted.2
        (observed ctx (checks a options document))).run s').1
      match options.abortOnError, resolved.errors with
      | true, e :: _ => .error e
      | _, _ => .ok ⟨accounted.1 ++ resolved.findings, resolved.errors⟩ := by
  refine ⟨((observeAll ctx options.abortOnError (checks a options document)).run s).2, ?_⟩
  rw [run_validate]
  simp only [observeAll_eq hctx h, List.nil_append]
  obtain ⟨abortOnError, leastLevel⟩ := options
  cases abortOnError with
  | false => rfl
  | true =>
    simp only
    split
    · rfl
    · rfl

/-- When all checks succeed, only the failure of a reference can end the validation. -/
theorem validate_cases (hctx : ctx.caching = false)
    (h : AllSucceed ctx (checks a options document)) (s : Session) :
    (∃ e, options.abortOnError = true ∧ ((a.validate options ctx document).runIn s).1 = .error e) ∨
      ∃ r s', ((a.validate options ctx document).runIn s).1 = .ok r ∧
        r.findings = (account [] (observed ctx (checks a options document))).1
          ++ ((resolve ctx options.abortOnError
            (account [] (observed ctx (checks a options document))).2
            (observed ctx (checks a options document))).run s').1.findings := by
  obtain ⟨s', hrun⟩ := validate_of_allSucceed hctx h s
  rw [hrun]
  cases habort : options.abortOnError with
  | false => exact .inr ⟨_, s', rfl, rfl⟩
  | true =>
    simp only
    split
    · exact .inl ⟨_, trivial, rfl⟩
    · exact .inr ⟨_, s', rfl, rfl⟩

/-- A validation without failures observes without failures and resolves without failures. -/
theorem exists_of_validate_eq_ok {r : Report} {s : Session}
    (hr : ((a.validate options ctx document).runIn s).1 = .ok r) (hok : r.errors = []) :
    ∃ os s₁ found,
      (observeAll ctx options.abortOnError (checks a options document)).run s = (⟨os, []⟩, s₁) ∧
      ((resolve ctx options.abortOnError (account [] os).2 os).run s₁).1 = ⟨found, []⟩ ∧
      r.findings = (account [] os).1 ++ found := by
  have hreport := report_of_validate hr
  rcases hrun : (observeAll ctx options.abortOnError (checks a options document)).run s
    with ⟨⟨os, errors⟩, s₁⟩
  rcases hresolved : (resolve ctx options.abortOnError (account [] os).2 os).run s₁
    with ⟨⟨found, errors'⟩, s₂⟩
  simp only [hrun, hresolved] at hreport
  subst hreport
  obtain ⟨rfl, rfl⟩ := List.append_eq_nil_iff.mp hok
  exact ⟨os, s₁, found, rfl, by rw [hresolved], rfl⟩

/-- A validation without failures has made all checks, and they succeeded. -/
theorem allSucceed_of_validate (hctx : ctx.caching = false) {r : Report} {s : Session}
    (hr : ((a.validate options ctx document).runIn s).1 = .ok r) (hok : r.errors = []) :
    AllSucceed ctx (checks a options document) := by
  obtain ⟨os, s₁, found, hrun, -⟩ := exists_of_validate_eq_ok hr hok
  exact allSucceed_of_observeAll hctx hrun

/-- **A validation without failures.** It gives a report exactly if all checks succeed and every
missing key has its finding; the findings are those among the observations, and then these. -/
theorem validate_eq_ok_iff (hctx : ctx.caching = false) (findings : List Finding) (s : Session) :
    ((a.validate options ctx document).runIn s).1 = .ok ⟨findings, []⟩ ↔
      AllSucceed ctx (checks a options document) ∧ ∃ found,
        references ctx (account [] (observed ctx (checks a options document))).2
          (observed ctx (checks a options document)) = found.map .ok ∧
        findings = (account [] (observed ctx (checks a options document))).1 ++ found := by
  constructor
  · intro hr
    have hall := allSucceed_of_validate hctx hr rfl
    obtain ⟨s', hrun⟩ := validate_of_allSucceed hctx hall s
    rw [hrun] at hr
    simp only at hr
    split at hr
    · cases hr
    · injection hr with hr
      injection hr with hfindings herrors
      generalize hresolved : ((Validation.resolve ctx options.abortOnError _ _).run s').1 = resolved
        at hfindings herrors
      obtain ⟨found, errors⟩ := resolved
      simp only at hfindings herrors
      subst herrors
      exact ⟨hall, found, (resolve_eq_iff hctx _ _ options.abortOnError found s').mp hresolved,
        hfindings.symm⟩
  · rintro ⟨hall, found, hfound, rfl⟩
    obtain ⟨s', hrun⟩ := validate_of_allSucceed hctx hall s
    rw [hrun]
    simp only
    rw [(resolve_eq_iff hctx _ _ options.abortOnError found s').mpr hfound]
    generalize options.abortOnError = abortOnError
    cases abortOnError <;> rfl

end Attachments

end TreePath
