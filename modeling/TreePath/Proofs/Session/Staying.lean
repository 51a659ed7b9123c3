/-
TreePath.Proofs.Session.Staying — evaluations do not leave a tree.

A context keeps to a class of items if the calls that are made with such items give such items
(`Context.Keeps`); evaluations then do not leave the class either (`Expr.eval_keeps`). The built-in
functions keep to every tree (`Library.keeps`), with the cache as well as without it. What they find
in the cache may have been kept for calls in other trees. But a result belongs to the trees that all
parts of its key belong to (`Session.Local`), and keys that are the same belong to the same trees
(`CallKey.known_iff_of_same`).
-/
import TreePath.Proofs.Expr.Agreement
import TreePath.Proofs.Session.Agreement

namespace TreePath

open Eval
open Sequence (AllItems)

/-! ## Contexts that keep to a class of items -/

/-- Calls that are made with items of a realm in a valid session give items of the realm, and
the session stays valid. -/
structure Context.Keeps (ctx : Context) (P : Item → Prop) (Valid : Session → Prop) : Prop where
  realm : Realm ctx.env P
  calls : ∀ {name : Name} {n : Nat} {f : Function}, resolve ctx name n = .ok f →
    ∀ {args : List Sequence} {focus : Option Focus}, (∀ s ∈ args, AllItems P s) →
      (∀ g ∈ focus, P g.item) → ∀ s, Valid s →
      Valid ((f.call ctx args focus).runIn s).2 ∧
        ∀ r, ((f.call ctx args focus).runIn s).1 = .ok r → AllItems P r

variable {P : Item → Prop} {Valid : Session → Prop} {ctx : Context}

theorem Context.Keeps.matches (h : ctx.Keeps P Valid) :
    ctx.Matches ctx P (fun s s' => s' = s ∧ Valid s) Eq where
  env_eq := rfl
  registry_eq := rfl
  realm := h.realm
  like_refl _ := rfl
  item_eq hlike := congrArg _ hlike
  calls := by
    rintro name n f hf args focus _ rfl hargs hfocus s s' ⟨rfl, hs⟩
    obtain ⟨hvalid, hitems⟩ := h.calls hf hargs hfocus s' hs
    exact ⟨rfl, ⟨rfl, hvalid⟩, hitems⟩

/-- **Where calls do not leave a class of items, evaluations do not.** -/
theorem Expr.eval_keeps (hctx : ctx.Keeps P Valid) (e : Expr) {s : Scope} (hs : s.Known P)
    (hlit : ∀ v ∈ e.literals, P (.atomic v)) {σ : Session} (hσ : Valid σ) :
    Valid ((e.eval ctx s).runIn σ).2 ∧ ∀ r, ((e.eval ctx s).runIn σ).1 = .ok r → AllItems P r := by
  obtain ⟨-, ⟨-, hvalid⟩, hitems⟩ :=
    e.eval_related hctx.matches (.refl hctx.matches s) hs hlit σ σ ⟨rfl, hσ⟩
  exact ⟨hvalid, hitems⟩

/-! ## One tree -/

namespace Supply

/-- The nodes of one tree of the forest, and all values. -/
def ofTree (F : Forest) (id : TreeId) : Supply := ⟨F.only id, fun _ _ => True⟩

variable {F : Forest} {id i j : TreeId}

theorem hasItem_ofTree_atomic (F : Forest) (id : TreeId) (v : AtomicValue) :
    (ofTree F id).HasItem (.atomic v) := by
  cases v <;> trivial

theorem serves_ofTree (hF : F.Built) {env : Environment}
    (hglobals : ∀ e ∈ env.globals, (ofTree F id).HasItems e.2) : (ofTree F id).Serves env where
  built := hF.only id
  typed _ v _ _ := hasItem_ofTree_atomic F id v
  globals := hglobals
  now := trivial

/-! ## Keys that are the same -/

theorem hasItem_iff_of_same {x y : Item} (hx : (ofTree F i).HasItem x) (hy : (ofTree F j).HasItem y)
    (h : x.same y = true) : (ofTree F id).HasItem x ↔ (ofTree F id).HasItem y := by
  cases x with
  | atomic v =>
    cases y with
    | node m => cases h
    | atomic w => simp only [hasItem_ofTree_atomic]
  | node n =>
    cases y with
    | atomic w => cases h
    | node m =>
      have hx : n.Within (F.only i) := hx
      have hy : m.Within (F.only j) := hy
      obtain ⟨htree, -⟩ := Bool.and_eq_true_iff.mp h
      have hij : i = j := hx.tree_eq.symm.trans ((eq_of_beq htree).trans hy.tree_eq)
      subst hij
      constructor
      · intro hid
        have hid : n.Within (F.only id) := hid
        rw [← hid.tree_eq, hx.tree_eq]
        exact hy
      · intro hid
        have hid : m.Within (F.only id) := hid
        rw [← hid.tree_eq, hy.tree_eq]
        exact hx

theorem hasItems_iff_of_same : ∀ {s t : Sequence}, (ofTree F i).HasItems s →
    (ofTree F j).HasItems t → Sequence.same s t = true →
      ((ofTree F id).HasItems s ↔ (ofTree F id).HasItems t)
  | [], [], _, _, _ => Iff.rfl
  | [], _ :: _, _, _, h => by cases h
  | _ :: _, [], _, _, h => by cases h
  | x :: s, y :: t, hs, ht, h => by
      obtain ⟨hitem, hrest⟩ := Bool.and_eq_true_iff.mp h
      obtain ⟨hx, hs⟩ := List.forall_mem_cons.mp hs
      obtain ⟨hy, ht⟩ := List.forall_mem_cons.mp ht
      exact List.forall_mem_cons.trans ((and_congr (hasItem_iff_of_same hx hy hitem)
        (hasItems_iff_of_same hs ht hrest)).trans List.forall_mem_cons.symm)

end Supply

namespace CallKey

variable {F : Forest} {id i j : TreeId}

theorem hasItems_iff_of_sameArguments : ∀ {a b : List Sequence},
    (∀ s ∈ a, (Supply.ofTree F i).HasItems s) → (∀ s ∈ b, (Supply.ofTree F j).HasItems s) →
      sameArguments a b = true →
        ((∀ s ∈ a, (Supply.ofTree F id).HasItems s) ↔ ∀ s ∈ b, (Supply.ofTree F id).HasItems s)
  | [], [], _, _, _ => by simp
  | [], _ :: _, _, _, h => by cases h
  | _ :: _, [], _, _, h => by cases h
  | s :: a, t :: b, ha, hb, h => by
      obtain ⟨hsequence, hrest⟩ := Bool.and_eq_true_iff.mp h
      obtain ⟨hs, ha⟩ := List.forall_mem_cons.mp ha
      obtain ⟨ht, hb⟩ := List.forall_mem_cons.mp hb
      rw [List.forall_mem_cons, List.forall_mem_cons,
        Supply.hasItems_iff_of_same hs ht hsequence, hasItems_iff_of_sameArguments ha hb hrest]

/-- **Keys that are the same belong to the same trees.** -/
theorem known_iff_of_same {a b : CallKey} (ha : a.Known (Supply.ofTree F i))
    (hb : b.Known (Supply.ofTree F j)) (h : a.same b = true) :
    a.Known (Supply.ofTree F id) ↔ b.Known (Supply.ofTree F id) := by
  obtain ⟨f, args, focus⟩ := a
  obtain ⟨f', args', focus'⟩ := b
  simp only [same, Bool.and_eq_true, beq_iff_eq] at h
  have hargs : (∀ s ∈ args, (Supply.ofTree F id).HasItems s) ↔
      ∀ s ∈ args', (Supply.ofTree F id).HasItems s :=
    hasItems_iff_of_sameArguments ha.arguments hb.arguments h.1.2
  have hfocus : (∀ x ∈ focus, (Supply.ofTree F id).HasItem x) ↔
      ∀ x ∈ focus', (Supply.ofTree F id).HasItem x := by
    cases focus with
    | none =>
      cases focus' with
      | none => exact Iff.rfl
      | some y => cases h.2
    | some x =>
      cases focus' with
      | none => cases h.2
      | some y =>
        have hitem : (Supply.ofTree F id).HasItem x ↔ (Supply.ofTree F id).HasItem y :=
          Supply.hasItem_iff_of_same (ha.focus x rfl) (hb.focus y rfl) h.2
        simpa using hitem
  exact ⟨fun hk => ⟨hargs.mp hk.arguments, hfocus.mp hk.focus⟩,
    fun hk => ⟨hargs.mpr hk.arguments, hfocus.mpr hk.focus⟩⟩

end CallKey

/-! ## Local sessions -/

/-- Every key was made inside one of the trees, and the result kept for it belongs to each tree that
the key belongs to. -/
def Session.Local (F : Forest) (s : Session) : Prop :=
  ∀ e ∈ s.kept, (∃ id, e.1.Known (Supply.ofTree F id)) ∧
    ∀ id, e.1.Known (Supply.ofTree F id) → (Supply.ofTree F id).HasItems e.2

namespace Session.Local

variable {F : Forest} {s : Session}

theorem empty : Session.Local F {} := fun _ h => absurd h List.not_mem_nil

theorem run (h : s.Local F) (f : FunctionId) : Session.Local F { s with runs := f :: s.runs } := h

theorem keep (h : s.Local F) {key : CallKey} {id : TreeId} (hkey : key.Known (Supply.ofTree F id))
    {r : Sequence}
    (hr : ∀ id, key.Known (Supply.ofTree F id) → (Supply.ofTree F id).HasItems r) :
    (s.keep key r).Local F := by
  intro e he
  rcases mem_of_mem_insertKept he with he | rfl | ⟨hresult, hsame, r', hold⟩
  · exact h e he
  · exact ⟨⟨id, hkey⟩, hr⟩
  · obtain ⟨⟨i, hi⟩, -⟩ := h _ hold
    refine ⟨⟨i, hi⟩, fun j hj => ?_⟩
    rw [hresult]
    exact hr j ((CallKey.known_iff_of_same hi hkey hsame).mp hj)

theorem find? (h : s.Local F) {key : CallKey} {id : TreeId}
    (hkey : key.Known (Supply.ofTree F id)) {r : Sequence} (hr : s.find? key = some r) :
    (Supply.ofTree F id).HasItems r := by
  obtain ⟨k, hmem, hsame⟩ := mem_of_find? hr
  obtain ⟨⟨i, hi⟩, hitems⟩ := h _ hmem
  exact hitems id ((CallKey.known_iff_of_same hi hkey hsame).mpr hkey)

end Session.Local

/-! ## Built-in functions -/

namespace Library

variable {F : Forest} {id : TreeId} {env : Environment}

/-- The answer to a call belongs to each tree that its key belongs to. -/
theorem hasItems_of_callKey? (hF : F.Built) {f : Function} (hf : f ∈ functions)
    {args : List Sequence} (harity : f.acceptsArity args.length = true) {focus : Option Focus}
    {key : CallKey} (hkey : f.callKey? args focus = some key)
    (hknown : key.Known (Supply.ofTree F id)) {r : Sequence}
    (h : f.answer ⟨env, focus⟩ args = .ok r) : (Supply.ofTree F id).HasItems r := by
  have hS : (Supply.ofTree F id).Serves { env with globals := [] } :=
    Supply.serves_ofTree hF fun _ he => absurd he List.not_mem_nil
  rw [Function.callKey?] at hkey
  split at hkey
  · cases hkey
    by_cases hdep : f.properties.focusDependent = true
    · have hfocus : ∀ g ∈ focus, (Supply.ofTree F id).HasItem g.item := by
        rintro g rfl
        exact hknown.focus g.item (by simp [hdep])
      exact hasItems_answer hf hS hfocus hknown.arguments h
    · have hnone : f.answer ⟨env, none⟩ args = .ok r := by
        rw [← h]
        exact answer_congr hf harity fun hd => absurd hd hdep
      exact hasItems_answer hf hS (fun _ hg => by cases hg) hknown.arguments hnone
  · cases hkey

/-- Without the cache a call of a built-in function is recorded and nothing is kept. -/
theorem after_afterConversion_uncached {f : Function} (hf : f ∈ functions) {ctx : Context}
    (hctx : ctx.caching = false) (callee : Function → List Sequence → Eval Sequence)
    (args : List Sequence) (focus : Option Focus) (s : Session) :
    ((Function.afterConversion ctx callee f focus args).runIn s).2
      = { s with runs := f.id :: s.runs } := by
  rw [Function.afterConversion, runIn_bind_ok (Function.runIn_kept?_uncached hctx _ s)]
  simp only
  rw [runIn_bind, Function.passing, runIn_mapError, Function.runIn_invoke hf]
  cases f.answer ⟨ctx.env, focus⟩ args with
  | error e => rfl
  | ok r =>
    simp only [Except.mapError]
    rw [runIn_bind_ok (Function.runIn_keep_uncached hctx _ _ _)]
    rfl

theorem afterConversion_keeps (hF : F.Built)
    (hglobals : ∀ e ∈ env.globals, (Supply.ofTree F id).HasItems e.2) (caching : Bool)
    {f : Function} (hf : f ∈ functions) {args : List Sequence}
    (harity : f.acceptsArity args.length = true)
    (hargs : ∀ s ∈ args, (Supply.ofTree F id).HasItems s) {focus : Option Focus}
    (hfocus : ∀ g ∈ focus, (Supply.ofTree F id).HasItem g.item)
    (callee : Function → List Sequence → Eval Sequence) {s : Session} (hs : s.Local F) :
    Session.Local F
        ((Function.afterConversion ⟨env, registry, caching⟩ callee f focus args).runIn s).2 ∧
      ∀ r, ((Function.afterConversion ⟨env, registry, caching⟩ callee f focus args).runIn s).1
        = .ok r → (Supply.ofTree F id).HasItems r := by
  have hS := (Supply.serves_ofTree hF hglobals).withoutGlobals
  have hanswer : ∀ r, f.answer ⟨env, focus⟩ args = .ok r → (Supply.ofTree F id).HasItems r :=
    fun r hr => hasItems_answer hf hS hfocus hargs hr
  cases caching with
  | false =>
    rw [Function.runIn_afterConversion_uncached hf rfl]
    refine ⟨?_, fun r hr => hanswer r ?_⟩
    · rw [after_afterConversion_uncached hf rfl]
      exact hs.run f.id
    cases hans : f.answer ⟨env, focus⟩ args with
    | error e => rw [hans] at hr; cases hr
    | ok r' => rw [hans] at hr; exact hr
  | true =>
    cases hfound : (f.callKey? args focus).bind s.find? with
    | some r =>
      obtain ⟨key, hkey, hfind⟩ := Option.bind_eq_some_iff.mp hfound
      rw [Function.runIn_afterConversion_found rfl callee hfound]
      refine ⟨hs, fun r' hr => ?_⟩
      cases hr
      exact hs.find? (known_of_callKey? hargs hfocus hkey) hfind
    | none =>
      cases hans : f.answer ⟨env, focus⟩ args with
      | error e =>
        rw [Function.runIn_afterConversion_error hf rfl callee hfound hans]
        exact ⟨hs.run f.id, fun r hr => by cases hr⟩
      | ok r =>
        rw [Function.runIn_afterConversion_new hf rfl callee hfound hans]
        refine ⟨?_, fun r' hr => by cases hr; exact hanswer r hans⟩
        cases hkey : f.callKey? args focus with
        | none => exact hs.run f.id
        | some key =>
          exact (hs.run f.id).keep (known_of_callKey? hargs hfocus hkey) fun j hj =>
            hasItems_of_callKey? hF hf harity hkey hj hans

/-- **The built-in functions keep to each tree, whatever is kept for calls in other trees.** -/
theorem keeps (hF : F.Built) (hglobals : ∀ e ∈ env.globals, (Supply.ofTree F id).HasItems e.2)
    (caching : Bool) :
    (⟨env, registry, caching⟩ : Context).Keeps (Supply.ofTree F id).HasItem (Session.Local F) where
  realm := Supply.realm (Supply.serves_ofTree hF hglobals)
  calls := by
    intro name n f hf args focus hargs hfocus s hs
    have hf := Supply.mem_functions_of_resolve hf
    obtain ⟨callee, hcall⟩ := Function.call_eq ⟨env, registry, caching⟩ f args focus
    rw [hcall, Function.callWith_eq, runIn_bind, Function.passing, runIn_mapError, runIn_ofResult]
    cases hconvert : f.convertArguments args with
    | error e => exact ⟨hs, fun r hr => by cases hr⟩
    | ok args' =>
      obtain ⟨harity, hargs'⟩ :=
        Supply.convertArguments_spec (Supply.serves_ofTree hF hglobals) hargs hconvert
      exact afterConversion_keeps hF hglobals caching hf harity hargs' hfocus callee hs

end Library

end TreePath
