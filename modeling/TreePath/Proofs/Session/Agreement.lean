/-
TreePath.Proofs.Session.Agreement — sessions in which evaluations do not depend on what is kept.

There are two kinds of them. Without the cache nothing is kept, so whatever functions there are, a
call finds nothing of what was done before it (`Context.steady_of_uncached`). With the cache, calls
of the built-in functions find the results that they would give themselves, as long as no instant
occurs in two zones (`Supply.steady`).
-/
import TreePath.Proofs.Expr.Agreement
import TreePath.Proofs.Session.Replay

namespace TreePath

open Eval
open Sequence (AllItems)

/-! ## Without the cache -/

namespace Eval

/-- What an evaluation gives does not depend on the session. -/
abbrev Independent {α : Type} (m : Eval α) : Prop := Agrees (fun _ => True) (fun _ => True) m m

variable {α β : Type}

theorem Independent.ofResult (r : Except Error α) : Independent (ofResult r) :=
  Related.ofResult fun _ _ => trivial

theorem Independent.bind {m : Eval α} {k : α → Eval β} (hm : Independent m)
    (hk : ∀ a, Independent (k a)) : Independent (m >>= k) :=
  Related.bind hm fun a _ => hk a

end Eval

namespace Function

variable {ctx : Context}

theorem independent_run {callee : Function → List Sequence → Eval Sequence}
    (h : ∀ g args, Independent (callee g args)) (script : Script) :
    Independent (script.run ctx.registry callee) := by
  induction script with
  | done result =>
    rw [Script.run]
    exact .ofResult result
  | call name args missing next ih =>
    rw [Script.run]
    cases ctx.registry.resolve name args.length with
    | ok g => exact .bind (h g args) ih
    | error e => exact .ofResult missing

theorem independent_invoke {callee : Function → List Sequence → Eval Sequence}
    (h : ∀ g args, Independent (callee g args)) (f : Function) (args : List Sequence)
    (focus : Option Focus) : Independent (invoke ctx callee f args focus) := by
  rw [invoke]
  refine .bind (fun s s' _ => ⟨rfl, trivial, fun _ _ => trivial⟩) fun _ => ?_
  refine .bind (independent_run h _) fun result => ?_
  split
  · exact .pure trivial
  · exact .throw _

/-- Nothing is found and nothing is kept. -/
theorem independent_callWith (hctx : ctx.caching = false)
    {callee : Function → List Sequence → Eval Sequence} (h : ∀ g args, Independent (callee g args))
    (f : Function) (args : List Sequence) (focus : Option Focus) :
    Independent (callWith ctx callee f args focus) := by
  have hkept : ∀ key, Independent (kept? ctx key) := by
    intro key s s' _
    rw [runIn_kept?_uncached hctx, runIn_kept?_uncached hctx]
    exact ⟨rfl, trivial, fun _ _ => trivial⟩
  have hkeep : ∀ key r, Independent (keep ctx key r) := by
    intro key r s s' _
    rw [runIn_keep_uncached hctx, runIn_keep_uncached hctx]
    exact ⟨rfl, trivial, fun _ _ => trivial⟩
  rw [callWith]
  refine .bind (.mapError (Independent.ofResult (f.convertArguments args))) fun args' => ?_
  refine .bind (hkept _) fun found => ?_
  cases found with
  | some r => exact .pure trivial
  | none =>
    refine .bind (.mapError (independent_invoke h f args' focus)) fun r => ?_
    exact .bind (hkeep _ r) fun _ => .pure trivial

theorem independent_callNested (hctx : ctx.caching = false) (depth : Nat) (f : Function)
    (args : List Sequence) (focus : Option Focus) :
    Independent (callNested ctx depth f args focus) := by
  induction depth generalizing f args focus with
  | zero =>
    rw [callNested]
    exact independent_callWith hctx (fun _ _ => .throw tooDeep) f args focus
  | succ depth ih =>
    rw [callNested]
    exact independent_callWith hctx (fun g args => ih g args focus) f args focus

end Function

/-- **Without the cache every evaluation gives the same in every session.** -/
theorem Context.steady_of_uncached {ctx : Context} (h : ctx.caching = false) :
    ctx.Steady (fun _ => True) (fun _ => True) where
  realm :=
    { moves := ⟨fun _ _ => trivial, fun _ _ => trivial, fun _ _ => trivial⟩
      globals := fun _ _ _ _ => trivial
      plain := fun _ _ => trivial }
  calls := by
    intro name n f _ args focus _ _
    have hsame : ctx.uncached = ctx := by
      obtain ⟨env, registry, caching⟩ := ctx
      simp only at h
      subst h
      rfl
    rw [hsame]
    exact (Function.independent_callNested h Function.maxDepth f args focus).mono
      fun _ _ _ _ => trivial

/-! ## With the cache -/

namespace Supply

variable {S : Supply} {env : Environment}

theorem realm (hS : S.Serves env) : Realm env S.HasItem where
  moves := Node.kept_within S.forest
  globals := hS.globals
  plain v hv := by cases v <;> trivial

theorem uncached_mk (env : Environment) (registry : Registry) (caching : Bool) :
    (⟨env, registry, caching⟩ : Context).uncached = ⟨env, registry, false⟩ := rfl

theorem mem_functions_of_resolve {caching : Bool} {name : Name} {n : Nat} {f : Function}
    (h : resolve ⟨env, Library.registry, caching⟩ name n = .ok f) : f ∈ Library.functions := by
  rw [resolve] at h
  simp only at h
  split at h
  · rename_i g hg
    cases h
    exact (Library.mem_functions_of_resolve hg).1
  · cases h
  · cases h

/-- **With the cache the built-in functions give what they give without it, where no instant occurs
in two zones.** -/
theorem steady (hS : S.Serves env) (hU : UniqueZones S.zoned) :
    (⟨env, Library.registry, true⟩ : Context).Steady S.HasItem (InOrder S env) where
  realm := realm hS
  calls := by
    intro name n f hf args focus hargs hfocus
    rw [uncached_mk]
    exact Function.call_agrees hS hU (mem_functions_of_resolve hf) hargs hfocus

end Supply

end TreePath
