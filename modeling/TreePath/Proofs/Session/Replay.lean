/-
TreePath.Proofs.Session.Replay — a kept result is the answer to every call that finds it.

Keys are compared more coarsely than their parts differ: two zoned date-times of one instant are the
same. Where no instant occurs in two zones, the comparison of keys is equality
(`CallKey.eq_of_same`). A session is in order if each kept result is what its function answers to
every call with that key (`InOrder`); a call of a built-in function finds such a result or leaves
one behind, so calls with and without kept results agree (`call_agrees`).
-/
import TreePath.Proofs.Function.Outcome
import TreePath.Proofs.Library.Handlers

namespace TreePath

variable {S : Supply} {env : Environment}

/-! ## Keys -/

theorem AtomicValue.eq_of_same (hU : UniqueZones S.zoned) {v w : AtomicValue} (hv : S.HasValue v)
    (hw : S.HasValue w) (h : v.same w = true) : v = w := by
  rw [same.eq_def] at h
  split at h
  · rename_i t z t' z'
    have hinstant := eq_of_beq h
    have hzone : z = z' := hU t z t' z' hv hw hinstant
    subst hzone
    rw [DateTime.eq_of_instant_eq hinstant]
  · exact eq_of_beq h

theorem Item.eq_of_same (hS : S.Serves env) (hU : UniqueZones S.zoned) {i j : Item}
    (hi : S.HasItem i) (hj : S.HasItem j) (h : i.same j = true) : i = j := by
  cases i with
  | node n =>
    cases j with
    | node m => rw [Node.Within.eq_of_same hS.built hi hj h]
    | atomic w => cases h
  | atomic v =>
    cases j with
    | node m => cases h
    | atomic w => rw [AtomicValue.eq_of_same hU hi hj h]

theorem Sequence.eq_of_same (hS : S.Serves env) (hU : UniqueZones S.zoned) :
    ∀ {s t : Sequence}, S.HasItems s → S.HasItems t → Sequence.same s t = true → s = t
  | [], [], _, _, _ => rfl
  | [], _ :: _, _, _, h => by cases h
  | _ :: _, [], _, _, h => by cases h
  | i :: s, j :: t, hs, ht, h => by
      rw [Sequence.same, Bool.and_eq_true] at h
      rw [Item.eq_of_same hS hU (hs i List.mem_cons_self) (ht j List.mem_cons_self) h.1,
        Sequence.eq_of_same hS hU (fun k hk => hs k (List.mem_cons_of_mem i hk))
          (fun k hk => ht k (List.mem_cons_of_mem j hk)) h.2]

namespace CallKey

/-- The key is made of items that may occur. -/
structure Known (S : Supply) (key : CallKey) : Prop where
  arguments : ∀ s ∈ key.arguments, S.HasItems s
  focus : ∀ i ∈ key.focus, S.HasItem i

theorem eq_of_sameArguments (hS : S.Serves env) (hU : UniqueZones S.zoned) :
    ∀ {a b : List Sequence}, (∀ s ∈ a, S.HasItems s) → (∀ s ∈ b, S.HasItems s) →
      sameArguments a b = true → a = b
  | [], [], _, _, _ => rfl
  | [], _ :: _, _, _, h => by cases h
  | _ :: _, [], _, _, h => by cases h
  | s :: a, t :: b, ha, hb, h => by
      rw [sameArguments, Bool.and_eq_true] at h
      rw [Sequence.eq_of_same hS hU (ha s List.mem_cons_self) (hb t List.mem_cons_self) h.1,
        eq_of_sameArguments hS hU (fun u hu => ha u (List.mem_cons_of_mem s hu))
          (fun u hu => hb u (List.mem_cons_of_mem t hu)) h.2]

/-- **Where no instant occurs in two zones, keys that are the same are equal.** -/
theorem eq_of_same (hS : S.Serves env) (hU : UniqueZones S.zoned) {a b : CallKey} (ha : a.Known S)
    (hb : b.Known S) (h : a.same b = true) : a = b := by
  obtain ⟨f, args, focus⟩ := a
  obtain ⟨f', args', focus'⟩ := b
  simp only [same, Bool.and_eq_true, beq_iff_eq] at h
  obtain ⟨⟨rfl, hargs⟩, hfocus⟩ := h
  have hequal : args = args' := eq_of_sameArguments hS hU ha.arguments hb.arguments hargs
  subst hequal
  cases focus with
  | none =>
    cases focus' with
    | none => rfl
    | some j => cases hfocus
  | some i =>
    cases focus' with
    | none => cases hfocus
    | some j => rw [Item.eq_of_same hS hU (ha.focus i rfl) (hb.focus j rfl) hfocus]

end CallKey

/-! ## Sessions in order -/

/-- Every kept result is what its function answers to each call that has the key. -/
def InOrder (S : Supply) (env : Environment) (s : Session) : Prop :=
  ∀ e ∈ s.kept, e.1.Known S ∧ S.HasItems e.2 ∧
    ∀ f ∈ Library.functions, ∀ args focus, f.acceptsArity args.length = true →
      f.callKey? args focus = some e.1 → f.answer ⟨env, focus⟩ args = .ok e.2

theorem inOrder_empty : InOrder S env {} := fun _ h => absurd h List.not_mem_nil

theorem Session.mem_of_find? {s : Session} {key : CallKey} {r : Sequence}
    (h : s.find? key = some r) : ∃ k, (k, r) ∈ s.kept ∧ k.same key = true := by
  rw [find?] at h
  obtain ⟨⟨k, r'⟩, hfind, rfl⟩ := Option.map_eq_some_iff.mp h
  exact ⟨k, List.mem_of_find?_eq_some hfind,
    List.find?_some (p := fun e : CallKey × Sequence => e.1.same key) hfind⟩

/-- A result is put under its own key, or under one that is the same. -/
theorem Session.mem_of_mem_insertKept {key : CallKey} {r : Sequence} {e : CallKey × Sequence} :
    ∀ {kept : List (CallKey × Sequence)}, e ∈ insertKept key r kept →
      e ∈ kept ∨ e = (key, r) ∨ (e.2 = r ∧ e.1.same key = true ∧ ∃ r', (e.1, r') ∈ kept)
  | [], h => .inr (.inl (List.mem_singleton.mp h))
  | (k, r') :: rest, h => by
      rw [insertKept] at h
      split at h
      · rename_i hsame
        rcases List.mem_cons.mp h with rfl | h
        · exact .inr (.inr ⟨rfl, hsame, r', List.mem_cons_self⟩)
        · exact .inl (List.mem_cons_of_mem _ h)
      · rcases List.mem_cons.mp h with rfl | h
        · exact .inl List.mem_cons_self
        · rcases mem_of_mem_insertKept h with h | h | ⟨hr, hsame, r'', h⟩
          · exact .inl (List.mem_cons_of_mem _ h)
          · exact .inr (.inl h)
          · exact .inr (.inr ⟨hr, hsame, r'', List.mem_cons_of_mem _ h⟩)

theorem InOrder.run {s : Session} (h : InOrder S env s) (f : FunctionId) :
    InOrder S env { s with runs := f :: s.runs } := h

/-! ## One call -/

theorem known_of_callKey? {f : Function} {args : List Sequence} {focus : Option Focus}
    {key : CallKey} (hargs : ∀ s ∈ args, S.HasItems s) (hfocus : ∀ g ∈ focus, S.HasItem g.item)
    (h : f.callKey? args focus = some key) : key.Known S := by
  rw [Function.callKey?] at h
  split at h
  · cases h
    refine ⟨hargs, fun i hi => ?_⟩
    simp only at hi
    split at hi
    · obtain ⟨g, hg, rfl⟩ := Option.map_eq_some_iff.mp hi
      exact hfocus g hg
    · cases hi
  · cases h

/-- Calls of built-in functions with one key have one answer. -/
theorem answer_eq_of_callKey?_eq {f g : Function} (hf : f ∈ Library.functions)
    (hg : g ∈ Library.functions) {args args' : List Sequence} {focus focus' : Option Focus}
    {key : CallKey} (harity : f.acceptsArity args.length = true)
    (hk : f.callKey? args focus = some key) (hk' : g.callKey? args' focus' = some key) :
    g.answer ⟨env, focus'⟩ args' = f.answer ⟨env, focus⟩ args := by
  rw [Function.callKey?] at hk hk'
  split at hk
  · split at hk'
    · cases hk
      simp only [Option.some.injEq, CallKey.mk.injEq] at hk'
      obtain ⟨hid, rfl, hitem⟩ := hk'
      have hgf := Library.eq_of_id_eq hg hf hid
      subst hgf
      refine Library.answer_congr hg harity fun hdep => ?_
      simpa [hdep] using hitem
    · cases hk'
  · cases hk

theorem InOrder.keep (hS : S.Serves env) (hU : UniqueZones S.zoned) {s : Session}
    (h : InOrder S env s) {f : Function} (hf : f ∈ Library.functions) {args : List Sequence}
    {focus : Option Focus} (harity : f.acceptsArity args.length = true) {key : CallKey}
    (hknown : key.Known S) (hkey : f.callKey? args focus = some key) {r : Sequence}
    (hr : S.HasItems r) (hanswer : f.answer ⟨env, focus⟩ args = .ok r) :
    InOrder S env (s.keep key r) := by
  have hnew : ∀ g ∈ Library.functions, ∀ args' focus', g.acceptsArity args'.length = true →
      g.callKey? args' focus' = some key → g.answer ⟨env, focus'⟩ args' = .ok r := by
    intro g hg args' focus' _ hk'
    rw [answer_eq_of_callKey?_eq hf hg harity hkey hk', hanswer]
  intro e he
  rcases Session.mem_of_mem_insertKept he with he | rfl | ⟨hresult, hsame, r', hold⟩
  · exact h e he
  · exact ⟨hknown, hr, hnew⟩
  · have heq := CallKey.eq_of_same hS hU (h _ hold).1 hknown hsame
    refine ⟨(h _ hold).1, by rw [hresult]; exact hr, ?_⟩
    rw [heq, hresult]
    exact hnew

namespace Function

open Eval

theorem runIn_kept?_uncached {ctx : Context} (hctx : ctx.caching = false) (key : Option CallKey)
    (s : Session) : (kept? ctx key).runIn s = (.ok none, s) := by
  cases key with
  | none => rfl
  | some key => simp [kept?, hctx]

theorem runIn_kept?_cached {ctx : Context} (hctx : ctx.caching = true) (key : Option CallKey)
    (s : Session) : (kept? ctx key).runIn s = (.ok (key.bind s.find?), s) := by
  cases key with
  | none => rfl
  | some key =>
    simp only [kept?, hctx, if_true]
    rw [runIn_bind, runIn_get]
    rfl

theorem runIn_keep_uncached {ctx : Context} (hctx : ctx.caching = false) (key : Option CallKey)
    (r : Sequence) (s : Session) : (keep ctx key r).runIn s = (.ok ⟨⟩, s) := by
  cases key with
  | none => rfl
  | some key => simp [keep, hctx]

theorem runIn_keep_cached {ctx : Context} (hctx : ctx.caching = true) (key : Option CallKey)
    (r : Sequence) (s : Session) :
    (keep ctx key r).runIn s = (.ok ⟨⟩, key.elim s fun k => s.keep k r) := by
  cases key with
  | none => rfl
  | some key =>
    simp only [keep, hctx, if_true]
    rfl

/-- The handler of a built-in function runs once and calls nothing. -/
theorem runIn_invoke {f : Function} (hf : f ∈ Library.functions) (ctx : Context)
    (callee : Function → List Sequence → Eval Sequence) (args : List Sequence)
    (focus : Option Focus) (s : Session) :
    (invoke ctx callee f args focus).runIn s
      = (f.answer ⟨ctx.env, focus⟩ args, { s with runs := f.id :: s.runs }) := by
  obtain ⟨e, _, i, rfl⟩ := Library.exists_entry hf
  have hscript : (Script.done (e.handler ⟨ctx.env, focus⟩ args)).run ctx.registry callee
      = ofResult (e.handler ⟨ctx.env, focus⟩ args) := by rw [Script.run]
  have hhandler : (e.toFunction i).handler ⟨ctx.env, focus⟩ args
      = .done (e.handler ⟨ctx.env, focus⟩ args) := rfl
  rw [invoke, runIn_bind_ok (runIn_modify _ s), hhandler, hscript, runIn_bind, runIn_ofResult,
    Library.answer_toFunction]
  cases e.handler ⟨ctx.env, focus⟩ args with
  | error err => rfl
  | ok r =>
    simp only [Except.bind]
    have hresult : (e.toFunction i).result = e.result := rfl
    rw [hresult]
    split <;> rfl

/-- Calls nested however deep are one call with some way to make further ones. -/
theorem call_eq (ctx : Context) (f : Function) (args : List Sequence) (focus : Option Focus) :
    ∃ callee, f.call ctx args focus = callWith ctx callee f args focus :=
  ⟨fun g args => callNested ctx 999 g args focus, by rw [call, maxDepth, callNested]⟩

/-- What a call does once its arguments have been converted. -/
def afterConversion (ctx : Context) (callee : Function → List Sequence → Eval Sequence)
    (f : Function) (focus : Option Focus) (args : List Sequence) : Eval Sequence := do
  match ← kept? ctx (f.callKey? args focus) with
  | some result => return result
  | none =>
    let result ← f.passing (invoke ctx callee f args focus)
    keep ctx (f.callKey? args focus) result
    return result

theorem callWith_eq (ctx : Context) (callee : Function → List Sequence → Eval Sequence)
    (f : Function) (args : List Sequence) (focus : Option Focus) :
    callWith ctx callee f args focus
      = f.passing (ofResult (f.convertArguments args)) >>= afterConversion ctx callee f focus := rfl

/-- Without the cache a call of a built-in function gives its answer, whatever the session is. -/
theorem runIn_afterConversion_uncached {f : Function} (hf : f ∈ Library.functions)
    {ctx : Context} (hctx : ctx.caching = false)
    (callee : Function → List Sequence → Eval Sequence) (args : List Sequence)
    (focus : Option Focus) (s : Session) :
    ((afterConversion ctx callee f focus args).runIn s).1
      = (f.answer ⟨ctx.env, focus⟩ args).mapError (·.inFunction f.signature) := by
  rw [afterConversion, runIn_bind_ok (runIn_kept?_uncached hctx _ s)]
  simp only
  rw [runIn_bind, passing, runIn_mapError, runIn_invoke hf]
  cases f.answer ⟨ctx.env, focus⟩ args with
  | error e => rfl
  | ok r =>
    simp only [Except.mapError]
    rw [runIn_bind_ok (runIn_keep_uncached hctx _ _ _)]
    rfl

/-- A kept result is given and nothing else happens. -/
theorem runIn_afterConversion_found {f : Function} {ctx : Context} (hctx : ctx.caching = true)
    (callee : Function → List Sequence → Eval Sequence) {args : List Sequence}
    {focus : Option Focus} {s : Session} {r : Sequence}
    (hfound : (f.callKey? args focus).bind s.find? = some r) :
    (afterConversion ctx callee f focus args).runIn s = (.ok r, s) := by
  rw [afterConversion, runIn_bind_ok (runIn_kept?_cached hctx _ s), hfound]
  rfl

/-- A new result is kept. -/
theorem runIn_afterConversion_new {f : Function} (hf : f ∈ Library.functions) {ctx : Context}
    (hctx : ctx.caching = true) (callee : Function → List Sequence → Eval Sequence)
    {args : List Sequence} {focus : Option Focus} {s : Session} {r : Sequence}
    (hfound : (f.callKey? args focus).bind s.find? = none)
    (hanswer : f.answer ⟨ctx.env, focus⟩ args = .ok r) :
    (afterConversion ctx callee f focus args).runIn s
      = (.ok r, (f.callKey? args focus).elim { s with runs := f.id :: s.runs }
          fun k => Session.keep { s with runs := f.id :: s.runs } k r) := by
  rw [afterConversion, runIn_bind_ok (runIn_kept?_cached hctx _ s), hfound]
  simp only
  rw [runIn_bind, passing, runIn_mapError, runIn_invoke hf, hanswer]
  simp only [Except.mapError]
  rw [runIn_bind_ok (runIn_keep_cached hctx _ _ _), runIn_pure]

/-- A failure keeps nothing. -/
theorem runIn_afterConversion_error {f : Function} (hf : f ∈ Library.functions) {ctx : Context}
    (hctx : ctx.caching = true) (callee : Function → List Sequence → Eval Sequence)
    {args : List Sequence} {focus : Option Focus} {s : Session} {e : Error}
    (hfound : (f.callKey? args focus).bind s.find? = none)
    (hanswer : f.answer ⟨ctx.env, focus⟩ args = .error e) :
    (afterConversion ctx callee f focus args).runIn s
      = (.error (e.inFunction f.signature), { s with runs := f.id :: s.runs }) := by
  rw [afterConversion, runIn_bind_ok (runIn_kept?_cached hctx _ s), hfound]
  simp only
  rw [runIn_bind, passing, runIn_mapError, runIn_invoke hf, hanswer]
  rfl

/-- **With the cache a call gives the answer as well, be it a kept one or a new one.** -/
theorem afterConversion_agrees (hS : S.Serves env) (hU : UniqueZones S.zoned) {f : Function}
    (hf : f ∈ Library.functions) {args : List Sequence} (hargs : ∀ s ∈ args, S.HasItems s)
    (harity : f.acceptsArity args.length = true) {focus : Option Focus}
    (hfocus : ∀ g ∈ focus, S.HasItem g.item)
    (callee callee' : Function → List Sequence → Eval Sequence) :
    Agrees (InOrder S env) S.HasItems
      (afterConversion ⟨env, Library.registry, true⟩ callee f focus args)
      (afterConversion ⟨env, Library.registry, false⟩ callee' f focus args) := by
  intro s s' hs
  rw [runIn_afterConversion_uncached hf rfl callee']
  cases hfound : (f.callKey? args focus).bind s.find? with
  | some r =>
    obtain ⟨key, hkey, hfind⟩ := Option.bind_eq_some_iff.mp hfound
    obtain ⟨k, hmem, hsame⟩ := Session.mem_of_find? hfind
    obtain ⟨hknown, hr, hanswer⟩ := hs _ hmem
    have heq : k = key :=
      CallKey.eq_of_same hS hU hknown (known_of_callKey? hargs hfocus hkey) hsame
    subst heq
    rw [runIn_afterConversion_found rfl callee hfound, hanswer f hf args focus harity hkey]
    exact ⟨rfl, hs, fun a ha => by cases ha; exact hr⟩
  | none =>
    cases hans : f.answer ⟨env, focus⟩ args with
    | error e =>
      rw [runIn_afterConversion_error hf rfl callee hfound hans]
      exact ⟨rfl, hs.run f.id, fun a ha => by cases ha⟩
    | ok r =>
      have hr : S.HasItems r := Library.hasItems_answer hf hS.withoutGlobals hfocus hargs hans
      rw [runIn_afterConversion_new hf rfl callee hfound hans]
      refine ⟨rfl, ?_, fun a ha => by cases ha; exact hr⟩
      cases hkey : f.callKey? args focus with
      | none => exact hs.run f.id
      | some key =>
        exact (hs.run f.id).keep hS hU hf harity (known_of_callKey? hargs hfocus hkey) hkey hr hans

/-- **Calls of built-in functions agree with and without the cache.** -/
theorem call_agrees (hS : S.Serves env) (hU : UniqueZones S.zoned) {f : Function}
    (hf : f ∈ Library.functions) {args : List Sequence} (hargs : ∀ s ∈ args, S.HasItems s)
    {focus : Option Focus} (hfocus : ∀ g ∈ focus, S.HasItem g.item) :
    Agrees (InOrder S env) S.HasItems (f.call ⟨env, Library.registry, true⟩ args focus)
      (f.call ⟨env, Library.registry, false⟩ args focus) := by
  obtain ⟨callee, hcall⟩ := call_eq ⟨env, Library.registry, true⟩ f args focus
  obtain ⟨callee', hcall'⟩ := call_eq ⟨env, Library.registry, false⟩ f args focus
  rw [hcall, hcall', callWith_eq, callWith_eq]
  refine .bind (.mapError (.ofResult fun a h => Supply.convertArguments_spec hS hargs h)) ?_
  rintro args' ⟨harity, hargs'⟩
  exact afterConversion_agrees hS hU hf hargs' harity hfocus callee callee'

end Function

end TreePath
