/-
TreePath.Proofs.Library.Calls — what built-in functions give.

None of the built-in functions is refused by the registry, so each one is found by its name and a
number of arguments that it accepts (`resolve_entry`). `Library.Gives` says what the answer of a
built-in function is to arguments that need no conversion, `Library.Answers` says it of failures
too. Where nothing is remembered, that is what a call gives in every session
(`Answers.runIn_call`).
-/
import TreePath.Eval
import TreePath.Proofs.Function.Projection
import TreePath.Proofs.Function.Registration
import TreePath.Proofs.Library.Handlers
import TreePath.Proofs.Session.Replay

namespace TreePath

/-- Adding functions of which none is refused. -/
theorem Registry.registerAll_of_registerEach {fs : List Function} {r r' : Registry}
    (h : fs.foldlM Registry.register r = .ok r') : r.registerAll fs = r' := by
  induction fs generalizing r with
  | nil =>
    cases h
    rfl
  | cons f fs ih =>
    rw [List.foldlM_cons] at h
    cases hf : r.register f with
    | error a => rw [hf] at h; cases h
    | ok r₁ =>
      rw [hf] at h
      rw [registerAll, List.foldl_cons, hf]
      exact ih h

namespace Library

open Eval

/-! ## Finding the functions -/

/-- No two built-in functions of one name accept the same number of arguments. -/
theorem pairwise_apart : functions.Pairwise Function.Apart := by
  have h : functions.Pairwise fun f g => f.name = g.name → Registry.overlap f g = false := by
    decide +kernel
  refine h.imp fun hne hname hclash => ?_
  have hoverlap := hne hname
  rw [Registry.overlap_iff.mpr hclash] at hoverlap
  cases hoverlap

theorem consistent_registry : registry.Consistent := Registry.consistent_empty.registerAll

/-- None of the built-in functions is refused. -/
theorem mem_registry {f : Function} (h : f ∈ functions) : f ∈ registry.functions := by
  have hapart : (functions ++ Registry.empty.functions).Pairwise Function.Apart := by
    rw [Registry.functions, Registry.empty, List.flatMap_nil, List.append_nil]
    exact pairwise_apart
  obtain ⟨r, hr⟩ := Registry.Consistent.exists_registerEach Registry.consistent_empty hapart
  have hperm := (Registry.Consistent.registerEach Registry.consistent_empty hr).2
  rw [registry, Registry.registerAll_of_registerEach hr, hperm.mem_iff]
  exact List.mem_append_left _ h

/-- A built-in function is found by its name and a number of arguments that it accepts. -/
theorem resolve_of_mem {f : Function} {n : Nat} (h : f ∈ functions)
    (hn : f.acceptsArity n = true) : registry.resolve f.name n = .ok f := by
  cases hresolve : registry.resolve f.name n with
  | error e =>
    rw [consistent_registry.resolve_eq_error hresolve (mem_registry h) rfl] at hn
    cases hn
  | ok g =>
    obtain ⟨hg, hname, hgn⟩ := consistent_registry.resolve_eq_ok hresolve
    rw [consistent_registry.eq_of_accepts hg (mem_registry h) hname hgn hn]

variable {e : Entry} {i : FunctionId} {site : CallSite} {args : List Sequence} {r : Sequence}

theorem resolve_entry {n : Nat} (h : entries[i]? = some e)
    (hn : (e.toFunction i).acceptsArity n = true) :
    registry.resolve (.function e.name) n = .ok (e.toFunction i) := by
  have hfunction : functions[i]? = some (e.toFunction i) := by
    rw [functions, List.getElem?_map, List.getElem?_zipIdx, h]
    simp
  exact resolve_of_mem (f := e.toFunction i) (List.mem_of_getElem? hfunction) hn

/-! ## Answers -/

/-- The built-in function of a name takes the arguments as they are, and this is its answer. -/
def Gives (name : String) (site : CallSite) (args : List Sequence) (r : Sequence) : Prop :=
  ∃ f, registry.resolve (.function name) args.length = .ok f ∧ f.Admits args ∧
    f.answer site args = .ok r

/-- What a handler gives is the answer if it is of the declared type. -/
theorem Gives.of_entry (h : entries[i]? = some e) (hargs : (e.toFunction i).Admits args)
    (hhandler : e.handler site args = .ok r) (hr : e.result.accepts r = true) :
    Gives e.name site args r := by
  refine ⟨e.toFunction i, resolve_entry h hargs.count, hargs, ?_⟩
  rw [answer_toFunction, hhandler]
  exact if_pos hr

/-- An answer comes from the handler of an entry of the name. -/
theorem Gives.handled {name : String} (h : Gives name site args r) :
    ∃ e ∈ entries, e.name = name ∧ e.handler site args = .ok r := by
  obtain ⟨f, hf, -, hanswer⟩ := h
  have hname := (consistent_registry.resolve_eq_ok hf).2.1
  obtain ⟨e, he, i, rfl⟩ := exists_entry (mem_functions_of_resolve hf).1
  refine ⟨e, he, congrArg Name.localName hname, ?_⟩
  rw [answer_toFunction] at hanswer
  cases hhandler : e.handler site args with
  | error _ => rw [hhandler] at hanswer; cases hanswer
  | ok s =>
    rw [hhandler] at hanswer
    simp only [Except.bind] at hanswer
    split at hanswer
    · exact hanswer
    · cases hanswer

/-- The built-in function of a name takes the arguments as they are, and this comes of them: its
answer, or a failure. -/
def Answers (name : String) (site : CallSite) (args : List Sequence) (r : Except Error Sequence) :
    Prop :=
  ∃ f, registry.resolve (.function name) args.length = .ok f ∧ f.Admits args ∧
    f.answer site args = r

/-- The failure of a handler is that of the function. -/
theorem Answers.of_failure (h : entries[i]? = some e) (hargs : (e.toFunction i).Admits args)
    {failure : Error} (hhandler : e.handler site args = .error failure) :
    Answers e.name site args (.error failure) := by
  refine ⟨e.toFunction i, resolve_entry h hargs.count, hargs, ?_⟩
  rw [answer_toFunction, hhandler]
  rfl

/-- There is one answer, or one failure. -/
theorem Answers.unique {name : String} {o o' : Except Error Sequence}
    (h : Answers name site args o) (h' : Answers name site args o') : o = o' := by
  obtain ⟨f, hf, -, rfl⟩ := h
  obtain ⟨g, hg, -, rfl⟩ := h'
  rw [hf] at hg
  cases hg
  rfl

/-- **Calls give the answers**, if nothing is remembered; failures show the function that they have
passed through. -/
theorem Answers.runIn_call {name : String} {env : Environment} {focus : Option Focus}
    {o : Except Error Sequence} (h : Answers name ⟨env, focus⟩ args o) :
    ∃ f, resolve ⟨env, registry, false⟩ (.function name) args.length = .ok f ∧
      ∀ σ, ((f.call ⟨env, registry, false⟩ args focus).runIn σ).1 =
        o.mapError (·.inFunction f.signature) := by
  obtain ⟨f, hf, hadmits, hanswer⟩ := h
  refine ⟨f, ?_, fun σ => ?_⟩
  · have hname : (Name.function name).space.isNone = false := rfl
    rw [resolve, hname]
    simp only [Bool.false_eq_true, if_false, hf]
  · obtain ⟨callee, hcall⟩ := Function.call_eq ⟨env, registry, false⟩ f args focus
    have hconvert : (f.passing (ofResult (f.convertArguments args))).runIn σ = (.ok args, σ) := by
      rw [Function.convertArguments_of_admits hadmits]
      rfl
    rw [hcall, Function.callWith_eq, runIn_bind_ok hconvert,
      Function.runIn_afterConversion_uncached (mem_functions_of_resolve hf).1 rfl, hanswer]

/-- A place without a context item from which functions are called. -/
def anywhere : CallSite := ⟨{ now := (⟨.first, .midnight⟩, .utc) }, none⟩

end Library

end TreePath
