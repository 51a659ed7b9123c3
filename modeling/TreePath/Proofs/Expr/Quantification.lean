/-
TreePath.Proofs.Expr.Quantification — the laws of quantified expressions.

Both quantifiers are one search that stops at its decisive outcome. Where the one finds true the
other one, looking at the opposite, finds false, after the same items and with the same failures on
the way; so some items satisfy an expression exactly if not every item fails to
(`Expr.quantified_laws`). Evaluations are compared by `Eval.Paired`: both give results, which are
related, or both fail with one code and one message. The function that a failure has passed through
is left out of account, since the negation is a call and leaves its mark.

A quantified expression over several bindings is one over the first of them that holds one over the
others, which is no more than the recursion of the evaluator (`Expr.quantify_append`).
-/
import TreePath.Proofs.Expr.Composition
import TreePath.Proofs.Library.Calls

namespace TreePath

open Eval

/-! ## Evaluations in pairs -/

/-- Both give results, and those are as `R` says, or both fail with one code and one message. -/
inductive Outcome.Paired {α β : Type} (R : α → β → Prop) :
    Except Error α → Except Error β → Prop
  | results {a : α} {b : β} (h : R a b) : Paired R (.ok a) (.ok b)
  | failures {e e' : Error} (hcode : e.code = e'.code) (hmessage : e.message = e'.message) :
    Paired R (.error e) (.error e')

namespace Eval

variable {α β γ δ : Type} {R : α → β → Prop} {Q : γ → δ → Prop}

/-- The evaluations are paired in any two sessions. -/
def Paired (R : α → β → Prop) (m : Eval α) (m' : Eval β) : Prop :=
  ∀ σ σ', Outcome.Paired R (m.runIn σ).1 (m'.runIn σ').1

namespace Paired

theorem pure {a : α} {b : β} (h : R a b) : Paired R (pure a) (pure b) := fun _ _ => .results h

theorem bind {m : Eval α} {m' : Eval β} {k : α → Eval γ} {k' : β → Eval δ} (h : Paired R m m')
    (hk : ∀ a b, R a b → Paired Q (k a) (k' b)) : Paired Q (m >>= k) (m' >>= k') := by
  intro σ σ'
  have hrun := h σ σ'
  rw [runIn_bind, runIn_bind]
  revert hrun
  rcases m.runIn σ with ⟨r, σ₁⟩
  rcases m'.runIn σ' with ⟨r', σ₁'⟩
  intro (hrun : Outcome.Paired R r r')
  cases hrun with
  | results hab => exact hk _ _ hab σ₁ σ₁'
  | failures hcode hmessage => exact .failures hcode hmessage

theorem trans {m : Eval α} {m' : Eval β} {m'' : Eval γ} {S : β → γ → Prop} (h : Paired R m m')
    (h' : Paired S m' m'') : Paired (fun a c => ∃ b, R a b ∧ S b c) m m'' := by
  intro σ σ''
  have hrun := h σ {}
  have hrun' := h' {} σ''
  revert hrun hrun'
  generalize (m.runIn σ).1 = r, (m'.runIn {}).1 = r', (m''.runIn σ'').1 = r''
  intro hrun hrun'
  cases hrun with
  | results hab =>
    cases hrun' with
    | results hbc => exact .results ⟨_, hab, hbc⟩
  | failures hcode hmessage =>
    cases hrun' with
    | failures hcode' hmessage' =>
      exact .failures (hcode.trans hcode') (hmessage.trans hmessage')

/-- What does not depend on the session is paired with itself. -/
theorem of_independent {m : Eval α} (h : Independent m) : Paired (· = ·) m m := by
  intro σ σ'
  rw [(h σ σ' trivial).1]
  cases (m.runIn σ').1 with
  | ok a => exact .results rfl
  | error e => exact .failures rfl rfl

end Paired

/-- One is true and the other false, or both fail alike. -/
abbrev Contrary (m m' : Eval Bool) : Prop := Paired (fun b b' => b' = !b) m m'

/-- **Two searches for contrary outcomes go hand in hand**: item by item, up to the one at which
both stop. -/
theorem contrary_search {f f' : Item → Eval Bool} (h : ∀ i, Contrary (f i) (f' i)) :
    ∀ items : Sequence, Contrary (search .some f items) (search .every f' items)
  | [] => .pure rfl
  | i :: rest => by
      rw [search, search]
      refine .bind (h i) ?_
      rintro b _ rfl
      cases b with
      | true => exact .pure rfl
      | false => exact contrary_search h rest

end Eval

/-! ## Truth values of expressions -/

/-- Whether an expression holds. -/
def Expr.holds (ctx : Context) (s : Scope) (e : Expr) : Eval Bool := do
  ofResult (← e.eval ctx s).truth

theorem Sequence.truth_ofBool (b : Bool) : (Sequence.ofBool b).truth = .ok b := rfl

namespace Expr

variable {ctx : Context} {env : Environment} {s : Scope}

theorem eval_quantified (q : Quantifier) (bindings : List (Name × Expr)) (e : Expr) :
    (Expr.quantified q bindings e).eval ctx s =
      quantify ctx q (fun s => e.holds ctx s) s bindings >>= fun b => pure (Sequence.ofBool b) := by
  rw [eval]
  rfl

theorem holds_quantified (q : Quantifier) (bindings : List (Name × Expr)) (e : Expr) :
    holds ctx s (.quantified q bindings e) =
      quantify ctx q (fun s => e.holds ctx s) s bindings := by
  rw [holds, eval_quantified, bind_assoc]
  simp only [pure_bind, Sequence.truth_ofBool]
  exact bind_pure _

/-- Bindings one after another are quantified over one inside the other. -/
theorem quantify_append (q : Quantifier) (satisfies : Scope → Eval Bool)
    (bindings rest : List (Name × Expr)) (s : Scope) :
    quantify ctx q satisfies s (bindings ++ rest) =
      quantify ctx q (fun s => quantify ctx q satisfies s rest) s bindings := by
  induction bindings generalizing s with
  | nil => rw [List.nil_append, quantify]
  | cons binding bindings ih =>
    obtain ⟨x, domain⟩ := binding
    rw [List.cons_append, quantify, quantify]
    exact bind_congr fun items => congrArg (search q · items) (funext fun i => ih (s.bind x i))

/-! ## Negation -/

/-- Without the cache an expression gives the same in every session. -/
theorem independent_eval (hctx : ctx.caching = false) (e : Expr) (s : Scope) :
    Independent (e.eval ctx s) := by
  have hknown : s.Known fun _ => True := ⟨fun _ _ _ _ => trivial, fun _ _ => trivial⟩
  have huncached : ctx.uncached = ctx := by
    obtain ⟨env, registry, caching⟩ := ctx
    obtain rfl : caching = false := hctx
    rfl
  have hagrees := e.eval_agrees (Context.steady_of_uncached hctx) s hknown fun _ _ => trivial
  rw [huncached] at hagrees
  exact hagrees.mono fun _ _ => trivial

end Expr

/-- A call of the name is one of the built-in function: it says so, or it leaves the namespace to
the environment, which has that of the built-in functions. -/
def Environment.Means (env : Environment) (name : Name) (localName : String) : Prop :=
  name.space.or env.functionSpace = some functionNamespace ∧ name.localName = localName

namespace Library

variable {env : Environment}

theorem resolve_of_means {name : Name} {localName : String} (h : env.Means name localName)
    (n : Nat) : resolve (uncached env) name n = resolve (uncached env) (.function localName) n := by
  obtain ⟨space, localName'⟩ := name
  obtain ⟨hspace, rfl⟩ := h
  cases space with
  | none =>
    have hspace : env.functionSpace = some functionNamespace := hspace
    simp only [resolve, Name.function, hspace, Option.isNone_none, Option.isNone_some, if_true,
      Bool.false_eq_true, if_false]
  | some space =>
    obtain rfl : space = functionNamespace := Option.some.inj hspace
    rw [Name.function]

/-- The function that negates what its argument counts as. -/
def notEntry : Entry := pureEntry "not" [items] booleanType .one negation

theorem notEntry_admits (q : Sequence) : (notEntry.toFunction 2).Admits [q] where
  count := rfl
  typed
    | 0, _, rfl => ⟨_, rfl, List.all_eq_true.mpr fun _ _ => rfl⟩

/-- The negation of what a sequence counts as; it fails if the sequence counts as nothing. -/
theorem answers_not (site : CallSite) (q : Sequence) :
    Answers "not" site [q] (q.truth.map fun b => Sequence.ofBool !b) := by
  have hhandler : notEntry.handler site [q] = q.truth.map fun b => Sequence.ofBool !b := by
    have hnegation : negation site [q] = q.truth >>= fun b => pure (Sequence.ofBool !b) := rfl
    rw [show notEntry.handler site [q] = negation site [q] from rfl, hnegation]
    cases q.truth <;> rfl
  cases hq : q.truth with
  | ok b =>
    rw [hq] at hhandler
    exact Gives.of_entry (e := notEntry) rfl (notEntry_admits q) hhandler rfl
  | error e =>
    rw [hq] at hhandler
    exact .of_failure (e := notEntry) rfl (notEntry_admits q) hhandler

end Library

namespace Expr

open Library

variable {env : Environment} {name : Name}

/-- **A negation gives the opposite of what its operand holds.** -/
theorem paired_not (hname : env.Means name "not") (e : Expr) (s : Scope) :
    Eval.Paired (fun b r => r = Sequence.ofBool !b) (e.holds (uncached env) s)
      ((Expr.call name [e]).eval (uncached env) s) := by
  have hcalls (q : Sequence) := (answers_not ⟨env, s.focus⟩ q).runIn_call
  obtain ⟨f, hf, -⟩ := hcalls []
  have hresolve : resolve (uncached env) name 1 = .ok f := (resolve_of_means hname 1).trans hf
  have hcall : (Expr.call name [e]).eval (uncached env) s =
      e.eval (uncached env) s >>= fun q => f.call (uncached env) [q] s.focus := by
    rw [eval, List.length_singleton, hresolve]
    simp only [Eval.ofResult, evalAll, pure_bind, bind_assoc]
  rw [hcall, holds]
  refine .bind (.of_independent (independent_eval rfl e s)) ?_
  rintro q _ rfl σ σ'
  obtain ⟨g, hg, hrun⟩ := hcalls q
  obtain rfl : f = g := Except.ok.inj (hf.symm.trans hg)
  rw [runIn_ofResult, hrun]
  cases q.truth with
  | ok b => exact .results rfl
  | error e => exact .failures rfl rfl

theorem contrary_not (hname : env.Means name "not") (e : Expr) (s : Scope) :
    Contrary (e.holds (uncached env) s) ((Expr.call name [e]).holds (uncached env) s) := by
  have hself : e.holds (uncached env) s = e.holds (uncached env) s >>= pure := (bind_pure _).symm
  rw [hself]
  refine .bind (paired_not hname e s) ?_
  rintro b _ rfl
  exact .pure rfl

/-- Looking for an item that satisfies the expression is contrary to looking for one that does not
satisfy its opposite. -/
theorem contrary_quantify {satisfies satisfies' : Scope → Eval Bool}
    (h : ∀ s, Contrary (satisfies s) (satisfies' s)) (bindings : List (Name × Expr)) (s : Scope) :
    Contrary (quantify (uncached env) .some satisfies s bindings)
      (quantify (uncached env) .every satisfies' s bindings) := by
  induction bindings generalizing s with
  | nil =>
    rw [quantify, quantify]
    exact h s
  | cons binding rest ih =>
    obtain ⟨x, domain⟩ := binding
    rw [quantify, quantify]
    refine .bind (.of_independent (independent_eval rfl domain s)) ?_
    rintro items _ rfl
    exact contrary_search (fun i => ih (s.bind x i)) items

/-- **The laws of quantified expressions.** Some items satisfy an expression exactly if not all of
them satisfy its negation: both sides give one truth value, or fail with one code and one message.
And a quantified expression over several bindings gives what it gives with the later bindings
quantified inside, failures included. -/
theorem quantified_laws (hname : env.Means name "not") (s : Scope)
    (bindings rest : List (Name × Expr)) (e : Expr) :
    Eval.Paired (fun r r' => ∃ b, r = Sequence.ofBool b ∧ r' = Sequence.ofBool b)
      ((Expr.quantified .some bindings e).eval (uncached env) s)
      ((Expr.call name [.quantified .every bindings (.call name [e])]).eval (uncached env) s) ∧
    ∀ q, (Expr.quantified q (bindings ++ rest) e).eval (uncached env) s =
      (Expr.quantified q bindings (.quantified q rest e)).eval (uncached env) s := by
  refine ⟨?_, fun q => ?_⟩
  · have hevery := paired_not hname (.quantified .every bindings (.call name [e])) s
    rw [holds_quantified] at hevery
    have hsome := (contrary_quantify (fun s => contrary_not hname e s) bindings s).trans hevery
    rw [eval_quantified, ← bind_pure (Expr.eval _ s (.call name _))]
    refine .bind hsome ?_
    rintro b r ⟨_, rfl, rfl⟩
    exact .pure ⟨b, rfl, by rw [Bool.not_not]⟩
  · rw [eval_quantified, eval_quantified, quantify_append]
    simp only [holds_quantified]

/-- The negation is called without a namespace, and the second domain refers to the first
binding. -/
theorem quantified_laws_of_two_bindings :
    let env := anywhere.env
    let x : Name := .plain "x"
    let y : Name := .plain "y"
    let bindings : List (Name × Expr) :=
      [(x, .sequence [.literal (.integer 0), .literal (.integer 1)])]
    let rest : List (Name × Expr) := [(y, .var x)]
    env.Means (.plain "not") "not" ∧
    Eval.Paired (fun r r' => ∃ b, r = Sequence.ofBool b ∧ r' = Sequence.ofBool b)
      ((Expr.quantified .some bindings (.var x)).eval (uncached env) {})
      ((Expr.call (.plain "not") [.quantified .every bindings
        (.call (.plain "not") [.var x])]).eval (uncached env) {}) ∧
    ∀ q, (Expr.quantified q (bindings ++ rest) (.var x)).eval (uncached env) {} =
      (Expr.quantified q bindings (.quantified q rest (.var x))).eval (uncached env) {} := by
  intro env x y bindings rest
  have hname : env.Means (.plain "not") "not" := ⟨rfl, rfl⟩
  exact ⟨hname, quantified_laws hname {} bindings rest (.var x)⟩

end Expr

end TreePath
