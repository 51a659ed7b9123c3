/-
TreePath.Proofs.Session.Repetition — doing again what has been done gives the same again.

An evaluation does nothing to the session but make calls, so what all calls have, and what chaining
preserves, all evaluations have (`Expr.eval_closed`). One such property is that an evaluation that
has succeeded can be repeated (`Eval.Repeats`): in every session that still finds what was found and
kept, it gives the same and keeps nothing new. Calls have it whatever their handlers do, because a
kept result is not replaced as long as it is found (`Function.call_repeats`); the only result that
can take the place of another one is that of a call around the call that kept it.
-/
import TreePath.Eval
import TreePath.Proofs.Session.Keys

namespace TreePath

/-! ## Building blocks -/

/-- A property that chaining preserves and that outcomes which do not involve the session have. -/
structure Eval.Closed (P : ∀ {α : Type}, Eval α → Prop) : Prop where
  ofResult : ∀ {α : Type} (r : Except Error α), P (ofResult r)
  bind : ∀ {α β : Type} {m : Eval α} {k : α → Eval β}, P m → (∀ a, P (k a)) → P (m >>= k)

namespace Eval.Closed

variable {P : ∀ {α : Type}, Eval α → Prop} {α β : Type}

theorem pure (hP : Closed P) (a : α) : P (Pure.pure a : Eval α) := hP.ofResult (.ok a)

theorem throw (hP : Closed P) (e : Error) : P (throw e : Eval α) := hP.ofResult (.error e)

/-- An outcome that does not involve the session, and what is made of it. -/
theorem outcome (hP : Closed P) (r : Except Error α) {k : α → Eval β} (hk : ∀ a, P (k a)) :
    P (Eval.ofResult r >>= k) :=
  hP.bind (hP.ofResult r) hk

theorem collect (hP : Closed P) {f : α → Eval (List β)} (h : ∀ a, P (f a)) :
    ∀ l : List α, P (Eval.collect f l)
  | [] => hP.pure []
  | a :: l => by
      rw [Eval.collect]
      exact hP.bind (h a) fun first => hP.bind (hP.collect h l) fun others => hP.pure _

theorem search (hP : Closed P) {q : Quantifier} {f : Item → Eval Bool} (h : ∀ i, P (f i)) :
    ∀ s : Sequence, P (Eval.search q f s)
  | [] => hP.pure _
  | i :: s => by
      rw [Eval.search]
      refine hP.bind (h i) fun b => ?_
      split
      · exact hP.pure _
      · exact hP.search h s

end Eval.Closed

/-! ## Expressions -/

namespace Expr

variable {P : ∀ {α : Type}, Eval α → Prop} {ctx : Context}

mutual

/-- **What is true of calls and is preserved by chaining is true of every evaluation.** -/
theorem eval_closed (hP : Eval.Closed P)
    (hcalls : ∀ (f : Function) args focus, P (f.call ctx args focus)) :
    ∀ (e : Expr) (s : Scope), P (e.eval ctx s)
  | .contextItem, s => by
      rw [eval]
      exact hP.outcome _ fun i => hP.pure _
  | .root, s => by
      rw [eval]
      exact hP.outcome _ fun n => hP.pure _
  | .parent, s => by
      rw [eval]
      exact hP.outcome _ fun n => hP.pure _
  | .step axis test, s => by
      rw [eval]
      exact hP.outcome _ fun n => hP.pure _
  | .path base next descendant, s => by
      rw [eval]
      refine hP.bind (eval_closed hP hcalls base s) fun items => ?_
      refine hP.bind (hP.collect (fun p => ?_) _) fun found => hP.ofResult _
      refine hP.outcome _ fun scopes => ?_
      exact hP.collect (fun scope => eval_closed hP hcalls next scope) _
  | .filter base predicates, s => by
      rw [eval]
      refine hP.bind (eval_closed hP hcalls base s) fun items => ?_
      exact filterAll_closed hP hcalls predicates s items
  | .literal v, s => by
      rw [eval]
      exact hP.pure _
  | .sequence parts, s => by
      rw [eval]
      exact hP.bind (evalAll_closed hP hcalls parts s) fun rs => hP.pure _
  | .range first last, s => by
      rw [eval]
      refine hP.bind (eval_closed hP hcalls first s) fun a => hP.outcome _ fun a => ?_
      refine hP.bind (eval_closed hP hcalls last s) fun b => hP.outcome _ fun b => ?_
      split <;> exact hP.pure _
  | .var name, s => by
      rw [eval]
      exact hP.ofResult _
  | .call name args, s => by
      rw [eval]
      refine hP.outcome _ fun f => ?_
      exact hP.bind (evalAll_closed hP hcalls args s) fun rs => hcalls f rs s.focus
  | .and left right, s => by
      rw [eval]
      refine hP.bind (eval_closed hP hcalls left s) fun a => hP.outcome _ fun b => ?_
      split
      · exact hP.bind (eval_closed hP hcalls right s) fun c => hP.outcome _ fun d => hP.pure _
      · exact hP.pure _
  | .or left right, s => by
      rw [eval]
      refine hP.bind (eval_closed hP hcalls left s) fun a => hP.outcome _ fun b => ?_
      split
      · exact hP.pure _
      · exact hP.bind (eval_closed hP hcalls right s) fun c => hP.outcome _ fun d => hP.pure _
  | .valueComparison op left right, s => by
      rw [eval]
      refine hP.bind (eval_closed hP hcalls left s) fun a => hP.outcome _ fun a => ?_
      refine hP.bind (eval_closed hP hcalls right s) fun b => hP.outcome _ fun b => ?_
      split
      · exact hP.outcome _ fun c => hP.pure _
      · exact hP.pure _
  | .generalComparison op left right, s => by
      rw [eval]
      refine hP.bind (eval_closed hP hcalls left s) fun a => hP.outcome _ fun a => ?_
      refine hP.bind (eval_closed hP hcalls right s) fun b => hP.outcome _ fun b => ?_
      exact hP.outcome _ fun c => hP.pure _
  | .arithmetic op left right, s => by
      rw [eval]
      refine hP.bind (eval_closed hP hcalls left s) fun a => hP.outcome _ fun a => ?_
      refine hP.bind (eval_closed hP hcalls right s) fun b => hP.outcome _ fun b => ?_
      split
      · exact hP.outcome _ fun c => hP.pure _
      · exact hP.pure _
  | .negate operand, s => by
      rw [eval]
      refine hP.bind (eval_closed hP hcalls operand s) fun r => hP.outcome _ fun v => ?_
      split
      · exact hP.outcome _ fun w => hP.pure _
      · exact hP.pure _
  | .concat parts, s => by
      rw [eval]
      exact hP.bind (texts_closed hP hcalls parts s) fun ts => hP.pure _
  | .union left right, s => by
      rw [eval]
      refine hP.bind (eval_closed hP hcalls left s) fun a => hP.outcome _ fun a => ?_
      refine hP.bind (eval_closed hP hcalls right s) fun b => hP.outcome _ fun b => ?_
      exact hP.pure _
  | .cond test yes no, s => by
      rw [eval]
      refine hP.bind (eval_closed hP hcalls test s) fun r => hP.outcome _ fun b => ?_
      split
      · exact eval_closed hP hcalls yes s
      · exact eval_closed hP hcalls no s
  | .quantified q bindings satisfies, s => by
      rw [eval]
      refine hP.bind (quantify_closed hP hcalls q (fun s => ?_) bindings s) fun b => hP.pure _
      exact hP.bind (eval_closed hP hcalls satisfies s) fun r => hP.ofResult _

theorem evalAll_closed (hP : Eval.Closed P)
    (hcalls : ∀ (f : Function) args focus, P (f.call ctx args focus)) :
    ∀ (es : List Expr) (s : Scope), P (evalAll ctx s es)
  | [], s => by
      rw [evalAll]
      exact hP.pure _
  | e :: rest, s => by
      rw [evalAll]
      refine hP.bind (eval_closed hP hcalls e s) fun first => ?_
      exact hP.bind (evalAll_closed hP hcalls rest s) fun others => hP.pure _

theorem filterAll_closed (hP : Eval.Closed P)
    (hcalls : ∀ (f : Function) args focus, P (f.call ctx args focus)) :
    ∀ (ps : List Expr) (s : Scope) (items : Sequence), P (filterAll ctx s ps items)
  | [], s, items => by
      rw [filterAll]
      exact hP.pure _
  | p :: rest, s, items => by
      rw [filterAll]
      refine hP.bind (hP.collect (fun e => ?_) _) fun kept =>
        filterAll_closed hP hcalls rest s kept
      exact hP.bind (eval_closed hP hcalls p _) fun r => hP.outcome _ fun b => hP.pure _

theorem texts_closed (hP : Eval.Closed P)
    (hcalls : ∀ (f : Function) args focus, P (f.call ctx args focus)) :
    ∀ (es : List Expr) (s : Scope), P (texts ctx s es)
  | [], s => by
      rw [texts]
      exact hP.pure _
  | e :: rest, s => by
      rw [texts]
      refine hP.bind (eval_closed hP hcalls e s) fun r => hP.outcome _ fun first => ?_
      exact hP.bind (texts_closed hP hcalls rest s) fun others => hP.pure _

theorem quantify_closed (hP : Eval.Closed P)
    (hcalls : ∀ (f : Function) args focus, P (f.call ctx args focus)) (q : Quantifier)
    {satisfies : Scope → Eval Bool} (hsat : ∀ s, P (satisfies s)) :
    ∀ (bindings : List (Name × Expr)) (s : Scope), P (quantify ctx q satisfies s bindings)
  | [], s => by
      rw [quantify]
      exact hsat s
  | (name, domain) :: rest, s => by
      rw [quantify]
      refine hP.bind (eval_closed hP hcalls domain s) fun items => ?_
      exact hP.search (fun i => quantify_closed hP hcalls q hsat rest _) items

end

end Expr

/-! ## Repeating an evaluation -/

namespace Eval

variable {α β : Type} {m : Eval α}

/-- The session afterwards finds what was found before. An evaluation that has succeeded gives the
same in every session that finds what it left, and keeps nothing new there. -/
structure Repeats (m : Eval α) : Prop where
  remembers : ∀ s, (m.runIn s).2.Remembers s
  again : ∀ s a t, (m.runIn s).1 = .ok a → t.Remembers (m.runIn s).2 →
    (m.runIn t).1 = .ok a ∧ (m.runIn t).2.kept = t.kept

theorem Repeats.ofResult (r : Except Error α) : Repeats (ofResult r) where
  remembers s := by
    rw [runIn_ofResult]
    exact .refl s
  again s a t h _ := by
    rw [runIn_ofResult] at h ⊢
    exact ⟨h, rfl⟩

theorem Repeats.bind {k : α → Eval β} (hm : Repeats m) (hk : ∀ a, Repeats (k a)) :
    Repeats (m >>= k) where
  remembers s := by
    have hfirst := hm.remembers s
    rw [runIn_bind]
    rcases hr : m.runIn s with ⟨r, s₁⟩
    rw [hr] at hfirst
    cases r with
    | ok a => exact ((hk a).remembers s₁).trans hfirst
    | error e => exact hfirst
  again s b t h ht := by
    have hfirst := hm.again s
    rw [runIn_bind] at h ht
    rcases hr : m.runIn s with ⟨r, s₁⟩
    rw [hr] at h ht hfirst
    cases r with
    | error e => cases h
    | ok a =>
      obtain ⟨hagain, hkept⟩ := hfirst a t rfl (ht.trans ((hk a).remembers s₁))
      rw [runIn_bind, show m.runIn t = (.ok a, (m.runIn t).2) from Prod.ext hagain rfl]
      obtain ⟨hrest, hkept'⟩ := (hk a).again s₁ b (m.runIn t).2 h (ht.of_kept_eq hkept)
      exact ⟨hrest, hkept'.trans hkept⟩

theorem repeats_closed : Closed Repeats where
  ofResult := .ofResult
  bind := .bind

theorem Repeats.mapError (hm : Repeats m) (f : Error → Error) : Repeats (mapError f m) where
  remembers s := by
    rw [runIn_mapError]
    exact hm.remembers s
  again s a t h ht := by
    rw [runIn_mapError] at h ht
    have hok : (m.runIn s).1 = .ok a := by
      cases hr : (m.runIn s).1 with
      | ok b => rw [hr] at h; exact h
      | error e => rw [hr] at h; cases h
    obtain ⟨hagain, hkept⟩ := hm.again s a t hok ht
    rw [runIn_mapError, hagain]
    exact ⟨rfl, hkept⟩

end Eval

/-! ## Calls -/

namespace Function

open Eval

variable {ctx : Context} {callee : Function → List Sequence → Eval Sequence}

theorem run_repeats (h : ∀ g args, Repeats (callee g args)) (script : Script) :
    Repeats (script.run ctx.registry callee) := by
  induction script with
  | done result =>
    rw [Script.run]
    exact .ofResult result
  | call name args missing next ih =>
    rw [Script.run]
    cases ctx.registry.resolve name args.length with
    | ok g => exact .bind (h g args) ih
    | error e => exact .ofResult missing

theorem invoke_repeats (h : ∀ g args, Repeats (callee g args)) (f : Function)
    (args : List Sequence) (focus : Option Focus) : Repeats (invoke ctx callee f args focus) := by
  unfold invoke
  refine .bind ⟨fun s => .refl s, fun s a t _ _ => ⟨rfl, rfl⟩⟩ fun _ => ?_
  refine .bind (run_repeats h _) fun result => ?_
  split
  · exact .ofResult (.ok result)
  · exact .ofResult (.error _)

theorem runIn_afterConversion_of_key {f : Function} {focus : Option Focus} {args : List Sequence}
    {key : CallKey} (hkey : f.cacheKey? ctx args focus = some key) (s : Session) :
    (afterConversion ctx callee f focus args).runIn s
      = match s.find? key with
        | some r => (.ok r, s)
        | none =>
          match (f.passing (invoke ctx callee f args focus)).runIn s with
          | (.ok r, s₁) => (.ok r, s₁.keep key r)
          | (.error e, s₁) => (.error e, s₁) := by
  rw [afterConversion_eq, runIn_remembering, hkey]
  rfl

/-- Afterwards the result of a call with a key is found. -/
theorem find?_of_afterConversion {f : Function} {focus : Option Focus} {args : List Sequence}
    {key : CallKey} (hkey : f.cacheKey? ctx args focus = some key) {s : Session} {a : Sequence}
    (h : ((afterConversion ctx callee f focus args).runIn s).1 = .ok a) :
    Session.find? ((afterConversion ctx callee f focus args).runIn s).2 key = some a := by
  rw [runIn_afterConversion_of_key hkey] at h ⊢
  cases hfind : s.find? key with
  | some r =>
    rw [hfind] at h
    cases h
    exact hfind
  | none =>
    rw [hfind] at h
    rcases hr : (f.passing (invoke ctx callee f args focus)).runIn s with ⟨r, s₁⟩
    rw [hr] at h
    cases r with
    | ok r =>
      cases h
      exact s₁.find?_keep_self key _
    | error e => cases h

/-- A result that is kept answers a key that found nothing at the beginning of the call. So it hides
nothing that was found before, and it is there when the call is made again. -/
theorem afterConversion_repeats (h : ∀ g args, Repeats (callee g args)) (f : Function)
    (focus : Option Focus) (args : List Sequence) :
    Repeats (afterConversion ctx callee f focus args) := by
  have hbody : Repeats (f.passing (invoke ctx callee f args focus)) :=
    (invoke_repeats h f args focus).mapError _
  cases hkey : f.cacheKey? ctx args focus with
  | none =>
    have heq : ∀ s, (afterConversion ctx callee f focus args).runIn s
        = (f.passing (invoke ctx callee f args focus)).runIn s := by
      intro s
      rw [afterConversion_eq, runIn_remembering, hkey]
      rcases (f.passing (invoke ctx callee f args focus)).runIn s with ⟨r, s₁⟩
      cases r <;> rfl
    refine ⟨fun s => ?_, fun s a t ha ht => ?_⟩
    · rw [heq]
      exact hbody.remembers s
    · rw [heq] at ha ht ⊢
      exact hbody.again s a t ha ht
  | some key =>
    refine ⟨fun s => ?_, fun s a t ha ht => ?_⟩
    · have hfirst := hbody.remembers s
      rw [runIn_afterConversion_of_key hkey]
      cases hfind : s.find? key with
      | some r => exact .refl s
      | none =>
        rcases hr : (f.passing (invoke ctx callee f args focus)).runIn s with ⟨r, s₁⟩
        rw [hr] at hfirst
        cases r with
        | ok r => exact hfirst.keep hfind r
        | error e => exact hfirst
    · rw [runIn_afterConversion_of_key hkey, ht key a (find?_of_afterConversion hkey ha)]
      exact ⟨rfl, rfl⟩

theorem callNested_repeats (ctx : Context) (depth : Nat) (f : Function) (args : List Sequence)
    (focus : Option Focus) : Repeats (callNested ctx depth f args focus) := by
  induction depth generalizing f args focus with
  | zero =>
    rw [callNested, callWith_eq]
    exact .bind ((Repeats.ofResult _).mapError _) fun args =>
      afterConversion_repeats (fun _ _ => .ofResult (.error tooDeep)) f focus args
  | succ depth ih =>
    rw [callNested, callWith_eq]
    exact .bind ((Repeats.ofResult _).mapError _) fun args =>
      afterConversion_repeats (fun g args => ih g args focus) f focus args

/-- **A call can be repeated**, whatever its handler and those that it calls do. -/
theorem call_repeats (ctx : Context) (f : Function) (args : List Sequence)
    (focus : Option Focus) : Eval.Repeats (f.call ctx args focus) :=
  callNested_repeats ctx maxDepth f args focus

end Function

/-- **An evaluation can be repeated.** -/
theorem Expr.eval_repeats (ctx : Context) (e : Expr) (s : Scope) : Eval.Repeats (e.eval ctx s) :=
  e.eval_closed Eval.repeats_closed (Function.call_repeats ctx) s

theorem Expression.evalAt_repeats (ctx : Context) (e : Expression) (i : Item) :
    Eval.Repeats (e.evalAt ctx i) :=
  e.expr.eval_repeats ctx _

end TreePath
