/-
TreePath.Proofs.Session.TypedCalls — handlers get what their signature says, and so do callers.

What a handler gets has been converted, and what it gives is checked. A result that has been kept is
given without any check, so that it is of the declared type is a matter of the whole session: a
session is sound if each kept result is of the result type of its function (`Session.Sound`). A call
leaves a sound session sound, and so does whatever its handler does on the way
(`recordedCall_typed`); as a new session is sound, every reachable one is
(`Session.Reachable.sound`).

Results are kept under identities of functions, so no two functions may share one. Functions that
are built one after another do not (`family_buildAll`).
-/
import TreePath.Proofs.Function.Conversion
import TreePath.Proofs.Session.Recording

namespace TreePath

/-! ## Families of functions -/

/-- Functions that have been built, each of them with an identity of its own. -/
structure Family (P : Function → Prop) : Prop where
  built : ∀ f, P f → f.Built
  identity : ∀ f g, P f → P g → f.id = g.id → f = g

namespace FunctionDraft

theorem id_of_build {d : FunctionDraft} {id : FunctionId} {f : Function} (h : d.build id = .ok f) :
    f.id = id := by
  unfold build at h
  split at h
  · cases h
  · split at h
    · cases h
    · split at h
      · cases h
      · cases h
      · injection h with h
        rw [← h]

/-- Builds functions one after another, with identities from `id` on. A draft that cannot be built
uses up none. -/
def buildAll : (id : FunctionId) → List FunctionDraft → List Function
  | _, [] => []
  | id, d :: rest =>
    match d.build id with
    | .ok f => f :: buildAll (id + 1) rest
    | .error _ => buildAll id rest

theorem of_mem_buildAll {f : Function} {drafts : List FunctionDraft} {id : FunctionId}
    (h : f ∈ buildAll id drafts) : f.Built ∧ id ≤ f.id := by
  induction drafts generalizing id with
  | nil => exact absurd h List.not_mem_nil
  | cons d rest ih =>
    rw [buildAll] at h
    cases hd : d.build id with
    | error e =>
      rw [hd] at h
      exact ih h
    | ok g =>
      rw [hd] at h
      rcases List.mem_cons.mp h with rfl | h
      · have hid := id_of_build hd
        exact ⟨⟨d, by rw [hid]; exact hd⟩, Nat.le_of_eq hid.symm⟩
      · obtain ⟨hbuilt, hle⟩ := ih h
        exact ⟨hbuilt, Nat.le_of_succ_le hle⟩

theorem identity_buildAll {f g : Function} {drafts : List FunctionDraft} {id : FunctionId}
    (hf : f ∈ buildAll id drafts) (hg : g ∈ buildAll id drafts) (h : f.id = g.id) : f = g := by
  induction drafts generalizing id with
  | nil => exact absurd hf List.not_mem_nil
  | cons d rest ih =>
    rw [buildAll] at hf hg
    cases hd : d.build id with
    | error e =>
      rw [hd] at hf hg
      exact ih hf hg
    | ok k =>
      rw [hd] at hf hg
      have hid := id_of_build hd
      have hlater : ∀ l ∈ buildAll (id + 1) rest, l.id ≠ k.id := by
        intro l hl heq
        have hle := (of_mem_buildAll hl).2
        rw [heq, hid] at hle
        exact Nat.not_succ_le_self id hle
      rcases List.mem_cons.mp hf with rfl | hf' <;> rcases List.mem_cons.mp hg with rfl | hg'
      · rfl
      · exact absurd h.symm (hlater g hg')
      · exact absurd h (hlater f hf')
      · exact ih hf' hg'

/-- **Functions that are built one after another are a family.** -/
theorem family_buildAll (id : FunctionId) (drafts : List FunctionDraft) :
    Family (· ∈ buildAll id drafts) where
  built _ hf := (of_mem_buildAll hf).1
  identity _ _ hf hg h := identity_buildAll hf hg h

end FunctionDraft

/-! ## Sound sessions -/

section

variable {caching : Bool} {P : Function → Prop}

theorem CallKey.function_eq_of_same {a b : CallKey} (h : a.same b = true) :
    a.function = b.function := by
  simp only [same, Bool.and_eq_true, beq_iff_eq] at h
  exact h.1.1

namespace Session

/-- What is kept for a function of the family is of its result type. Without caching nothing is
kept. -/
structure Sound (caching : Bool) (P : Function → Prop) (s : Session) : Prop where
  typed : ∀ e ∈ s.kept, ∀ f, P f → f.id = e.1.function → f.result.accepts e.2 = true
  uncached : caching = false → s.kept = []

variable {s : Session} {c : Call} {r : Sequence}

theorem sound_new : Sound caching P {} := ⟨fun _ he => absurd he List.not_mem_nil, fun _ => rfl⟩

/-- Only what is kept counts. -/
theorem Sound.of_kept_eq (hs : s.Sound caching P) {s' : Session} (h : s'.kept = s.kept) :
    s'.Sound caching P := by
  constructor
  · rw [h]
    exact hs.typed
  · rw [h]
    exact hs.uncached

theorem Sound.clear (s : Session) : s.clear.Sound caching P :=
  ⟨fun _ he => absurd he List.not_mem_nil, fun _ => rfl⟩

theorem Sound.keep (hP : Family P) (hs : s.Sound true P) {f : Function} (hf : P f) {key : CallKey}
    (hkey : key.function = f.id) (hr : f.result.accepts r = true) :
    (s.keep key r).Sound true P := by
  refine ⟨fun e he g hg hid => ?_, fun h => by cases h⟩
  have hnew : g.id = key.function → g.result.accepts r = true := by
    intro hgkey
    rw [hP.identity g f hg hf (hgkey.trans hkey)]
    exact hr
  rcases mem_of_mem_insertKept he with hold | rfl | ⟨hresult, hsame, -⟩
  · exact hs.typed e hold g hg hid
  · exact hnew hid
  · rw [hresult]
    exact hnew (hid.trans (CallKey.function_eq_of_same hsame))

/-- **A result that is found is of the declared type.** -/
theorem Sound.accepts_of_find? (hs : s.Sound caching P) {f : Function} (hf : P f) {key : CallKey}
    (hkey : key.function = f.id) (h : s.find? key = some r) : f.result.accepts r = true := by
  obtain ⟨k, hmem, hsame⟩ := mem_of_find? h
  exact hs.typed (k, r) hmem f hf (hkey.symm.trans (CallKey.function_eq_of_same hsame).symm)

end Session

theorem Call.function_of_key? {c : Call} {key : CallKey} (h : c.key? = some key) :
    key.function = c.function.id := by
  unfold key? Function.callKey? at h
  split at h
  · cases h
    rfl
  · cases h

/-- In a sound session a call finds what its key finds, with caching or without. -/
theorem Session.Sound.find?_cacheKey? {ctx : Context} {s : Session} (hs : s.Sound ctx.caching P)
    (c : Call) :
    (c.function.cacheKey? ctx c.arguments c.focus).bind s.find? = c.key?.bind s.find? := by
  unfold Function.cacheKey? Call.key?
  cases hcaching : ctx.caching with
  | true => rfl
  | false =>
    have hnone : ∀ key, s.find? key = none := fun key => by
      simp [Session.find?, hs.uncached hcaching]
    cases c.function.callKey? c.arguments c.focus with
    | none => rfl
    | some key => exact (hnone key).symm

/-! ## Sound runs -/

/-- The function whose handler starts to run. -/
def Moment.entered? (moment : Moment) : Option FunctionId :=
  match moment.event with
  | .entered c => some c.function.id
  | _ => none

/-- From one session to another: all sessions are sound, handlers get what their signatures say, and
no handlers run but those that the record has. -/
structure SoundRun (caching : Bool) (P : Function → Prop) (s : Session) (l : List Moment)
    (s' : Session) : Prop where
  sound : ∀ moment ∈ l, moment.session.Sound caching P
  admitted : ∀ moment ∈ l, ∀ c, moment.event = .entered c → c.function.Admits c.arguments
  runs : s'.runs = (l.filterMap Moment.entered?).reverse ++ s.runs
  last : s'.Sound caching P

namespace SoundRun

variable {s s₁ s₂ : Session} {l l' : List Moment}

theorem nil (hs : s.Sound caching P) : SoundRun caching P s [] s :=
  ⟨fun _ h => absurd h List.not_mem_nil, fun _ h => absurd h List.not_mem_nil, rfl, hs⟩

theorem append (h : SoundRun caching P s l s₁) (h' : SoundRun caching P s₁ l' s₂) :
    SoundRun caching P s (l ++ l') s₂ := by
  constructor
  · exact List.forall_mem_append.mpr ⟨h.sound, h'.sound⟩
  · exact List.forall_mem_append.mpr ⟨h.admitted, h'.admitted⟩
  · rw [h'.runs, h.runs]
    simp
  · exact h'.last

/-- An event that runs no handler. -/
theorem quiet (hs : s.Sound caching P) {e : Event} (he : Moment.entered? ⟨s, e⟩ = none)
    (hruns : s₁.runs = s.runs) (hs₁ : s₁.Sound caching P) : SoundRun caching P s [⟨s, e⟩] s₁ := by
  constructor
  · simpa using hs
  · intro moment hmem c hc
    rw [List.mem_singleton.mp hmem] at hc
    subst hc
    cases he
  · simp [he, hruns]
  · exact hs₁

theorem enter (hs : s.Sound caching P) {c : Call} (hc : c.function.Admits c.arguments) :
    SoundRun caching P s [⟨s, .entered c⟩] (s.after (.entered c)) := by
  constructor
  · simpa using hs
  · intro moment hmem c' hc'
    rw [List.mem_singleton.mp hmem] at hc'
    cases hc'
    exact hc
  · rfl
  · exact hs.of_kept_eq rfl

end SoundRun

/-- The record of an evaluation in a session is a sound run. -/
def Recorded.Proper (caching : Bool) (P : Function → Prop) (m : Recorded) (s : Session) : Prop :=
  SoundRun caching P s (m.moments s) (m.eval.runIn s).2

/-! ## Whatever handlers do -/

/-- All calls are calls of functions of the family. -/
def Conduct.Calls (P : Function → Prop) : Conduct → Prop
  | .done _ => True
  | .call f _ _ next => P f ∧ ∀ r, (next r).Calls P
  | .clear next => next.Calls P

/-- Handlers of the family call functions of the family. -/
def Manner.Calls (P : Function → Prop) (manner : Manner) : Prop :=
  ∀ c s, P c.function → (manner c s).Calls P

variable {callee : Function → List Sequence → Option Focus → Recorded}

theorem Conduct.recorded_proper
    (hcallee : ∀ f args focus s, P f → s.Sound caching P →
      (callee f args focus).Proper caching P s) {conduct : Conduct} (hcalls : conduct.Calls P)
    {s : Session} (hs : s.Sound caching P) : (conduct.recorded callee).Proper caching P s := by
  induction conduct generalizing s with
  | done result =>
    unfold Recorded.Proper
    rw [recorded, Eval.runIn_ofResult]
    exact .nil hs
  | call f args focus next ih =>
    obtain ⟨hf, hnext⟩ := hcalls
    unfold Recorded.Proper
    rw [recorded, Eval.runIn_bind_ok (Eval.runIn_lift _ s)]
    have hfirst := hcallee f args focus s hf hs
    exact hfirst.append (ih _ (hnext _) hfirst.last)
  | clear next ih =>
    unfold Recorded.Proper
    rw [recorded, Eval.runIn_bind_ok (Eval.runIn_modify _ s)]
    have hclear : SoundRun caching P s [⟨s, .cleared⟩] s.clear :=
      .quiet hs rfl rfl (Session.Sound.clear s)
    exact hclear.append (ih hcalls (Session.Sound.clear s))

theorem Manner.body_proper {manner : Manner} (hmanner : manner.Calls P)
    (hcallee : ∀ f args focus s, P f → s.Sound caching P →
      (callee f args focus).Proper caching P s) {c : Call} (hc : P c.function) {s : Session}
    (hs : s.Sound caching P) : (manner.body callee c).Proper caching P s :=
  Conduct.recorded_proper hcallee (hmanner c s hc) hs

/-! ## One call -/

/-- The call is proper, and its result is of the declared type. -/
structure Recorded.Typed (caching : Bool) (P : Function → Prop) (f : Function) (m : Recorded)
    (s : Session) : Prop where
  proper : m.Proper caching P s
  result : ∀ r, (m.eval.runIn s).1 = .ok r → f.result.accepts r = true

theorem Call.entered?_conclusion (c : Call) (r : Except Error Sequence) (s : Session) :
    Moment.entered? ⟨s, c.conclusion r⟩ = none := by
  cases r with
  | error e => rfl
  | ok r =>
    by_cases hr : c.function.result.accepts r = true <;> simp [Moment.entered?, conclusion, hr]

/-- Keeping a result of the declared type leaves a session sound. -/
theorem Session.Sound.kept (hP : Family P) {ctx : Context} {c : Call} (hc : P c.function)
    {s : Session} (hs : s.Sound ctx.caching P) {r : Sequence}
    (hr : c.function.result.accepts r = true) :
    ((c.function.cacheKey? ctx c.arguments c.focus).elim s fun key => s.keep key r).Sound
      ctx.caching P := by
  cases hkey : c.function.cacheKey? ctx c.arguments c.focus with
  | none => exact hs
  | some key =>
    unfold Function.cacheKey? at hkey
    split at hkey
    · rename_i hcaching
      rw [hcaching] at hs ⊢
      exact hs.keep hP hc (Call.function_of_key? hkey) hr
    · cases hkey

/-- The outcome of a handler, and the session that the call leaves then. -/
theorem Call.concluded (hP : Family P) {ctx : Context} {c : Call} (hc : P c.function)
    {s s' : Session} (hs : s.Sound ctx.caching P) {outcome r : Except Error Sequence}
    (h : (match (c.function.checked outcome, s) with
      | (.ok r, s₁) => ((.ok r : Except Error Sequence),
          (c.function.cacheKey? ctx c.arguments c.focus).elim s₁ fun key => s₁.keep key r)
      | (.error e, s₁) => (.error e, s₁)) = (r, s')) :
    SoundRun ctx.caching P s [⟨s, c.conclusion outcome⟩] s' ∧
      ∀ a, r = .ok a → c.function.result.accepts a = true := by
  cases hchecked : c.function.checked outcome with
  | error e =>
    rw [hchecked] at h
    cases h
    exact ⟨.quiet hs (c.entered?_conclusion outcome s) rfl hs, fun a ha => by cases ha⟩
  | ok a =>
    rw [hchecked] at h
    cases h
    have haccepts : c.function.result.accepts a = true := by
      cases outcome with
      | error e => cases hchecked
      | ok b =>
        unfold Function.checked at hchecked
        simp only at hchecked
        split at hchecked
        · cases hchecked
          assumption
        · cases hchecked
    refine ⟨.quiet hs (c.entered?_conclusion outcome s) ?_ (hs.kept hP hc haccepts), ?_⟩
    · cases c.function.cacheKey? ctx c.arguments c.focus <;> rfl
    · intro b hb
      cases hb
      exact haccepts

theorem Call.moments_recorded_of_some {ctx : Context} {c : Call} {body : Recorded} {s : Session}
    {r : Sequence} (h : c.key?.bind s.find? = some r) :
    (c.recorded ctx body).moments s = [⟨s, .answered c r⟩] := by
  unfold recorded
  simp only [h]

theorem Call.moments_recorded_of_none {ctx : Context} {c : Call} {body : Recorded} {s s' : Session}
    {r : Except Error Sequence} (h : c.key?.bind s.find? = none)
    (hbody : body.eval.runIn (s.after (.entered c)) = (r, s')) :
    (c.recorded ctx body).moments s = ⟨s, .entered c⟩ ::
      (body.moments (s.after (.entered c)) ++ [⟨s', c.conclusion r⟩]) := by
  unfold recorded
  simp only [h, hbody]

/-- **One step.** A call whose arguments are admitted leaves a sound session sound. -/
theorem Call.recorded_typed (hP : Family P) {ctx : Context} {c : Call} (hc : P c.function)
    (hargs : c.function.Admits c.arguments) {body : Recorded}
    (hbody : ∀ s, s.Sound ctx.caching P → body.Proper ctx.caching P s) {s : Session}
    (hs : s.Sound ctx.caching P) : (c.recorded ctx body).Typed ctx.caching P c.function s := by
  have heval : (c.recorded ctx body).eval.runIn s = (Function.remembering ctx
      (c.function.callKey? c.arguments c.focus)
      (c.function.passing (c.function.handledBy body.eval))).runIn s := rfl
  rw [Function.runIn_remembering, Function.runIn_handledBy, hs.find?_cacheKey? c] at heval
  cases hfind : c.key?.bind s.find? with
  | some r =>
    rw [hfind] at heval
    obtain ⟨key, hkey, hr⟩ := Option.bind_eq_some_iff.mp hfind
    constructor
    · unfold Recorded.Proper
      rw [heval, moments_recorded_of_some hfind]
      exact .quiet hs rfl rfl hs
    · intro a ha
      rw [heval] at ha
      cases ha
      exact hs.accepts_of_find? hc (Call.function_of_key? hkey) hr
  | none =>
    rw [hfind] at heval
    have henter := SoundRun.enter hs hargs
    have hrun := hbody (s.after (.entered c)) henter.last
    unfold Recorded.Proper at hrun
    rcases houtcome : body.eval.runIn (s.after (.entered c)) with ⟨outcome, s₂⟩
    rw [houtcome] at hrun
    have hafter : body.eval.runIn { s with runs := c.function.id :: s.runs }
      = (outcome, s₂) := houtcome
    rw [hafter] at heval
    obtain ⟨hconcluded, hresult⟩ := concluded hP hc hrun.last heval.symm
    constructor
    · unfold Recorded.Proper
      rw [moments_recorded_of_none hfind houtcome]
      exact henter.append (hrun.append hconcluded)
    · exact hresult

theorem recordedWith_of_error {f : Function} {args : List Sequence} {e : Error}
    (h : f.convertArguments args = .error e) (ctx : Context) (body : Call → Recorded)
    (focus : Option Focus) (s : Session) :
    (recordedWith ctx body f args focus).eval.runIn s = (.error (e.inFunction f.signature), s) ∧
      (recordedWith ctx body f args focus).moments s = [⟨s, .refused f args⟩] := by
  unfold recordedWith Function.passing
  simp only [h]
  rw [Eval.runIn_bind, Eval.runIn_mapError, Eval.runIn_ofResult]
  exact ⟨rfl, trivial⟩

theorem recordedWith_of_ok {f : Function} {args converted : List Sequence}
    (h : f.convertArguments args = .ok converted) (ctx : Context) (body : Call → Recorded)
    (focus : Option Focus) (s : Session) :
    let inner := Call.recorded ctx ⟨f, converted, focus⟩ (body ⟨f, converted, focus⟩)
    (recordedWith ctx body f args focus).eval.runIn s = inner.eval.runIn s ∧
      (recordedWith ctx body f args focus).moments s = inner.moments s := by
  unfold recordedWith Function.passing
  simp only [h]
  rw [Eval.runIn_bind, Eval.runIn_mapError, Eval.runIn_ofResult]
  exact ⟨rfl, trivial⟩

/-- A call with its arguments: they are converted first, or it is refused. -/
theorem recordedWith_typed (hP : Family P) {ctx : Context} {body : Call → Recorded}
    (hbody : ∀ c s, P c.function → s.Sound ctx.caching P → (body c).Proper ctx.caching P s)
    {f : Function} (hf : P f) (args : List Sequence) (focus : Option Focus) {s : Session}
    (hs : s.Sound ctx.caching P) :
    (recordedWith ctx body f args focus).Typed ctx.caching P f s := by
  cases hconvert : f.convertArguments args with
  | error e =>
    obtain ⟨heval, hmoments⟩ := recordedWith_of_error hconvert ctx body focus s
    constructor
    · unfold Recorded.Proper
      rw [heval, hmoments]
      exact .quiet hs rfl rfl hs
    · intro r hr
      rw [heval] at hr
      cases hr
  | ok converted =>
    obtain ⟨heval, hmoments⟩ := recordedWith_of_ok hconvert ctx body focus s
    have hadmits := ((hP.built f hf).admits hconvert).2
    have htyped := Call.recorded_typed hP (c := ⟨f, converted, focus⟩) hf hadmits
      (fun s hs => hbody ⟨f, converted, focus⟩ s hf hs) hs
    constructor
    · unfold Recorded.Proper
      rw [heval, hmoments]
      exact htyped.proper
    · rw [heval]
      exact htyped.result

/-- **A call leaves a sound session sound**, whatever handlers do, as long as they call functions of
the family. -/
theorem recordedCall_typed (hP : Family P) (ctx : Context) {manner : Manner}
    (hmanner : manner.Calls P) (depth : Nat) {f : Function} (hf : P f) (args : List Sequence)
    (focus : Option Focus) {s : Session} (hs : s.Sound ctx.caching P) :
    (recordedCall ctx manner depth f args focus).Typed ctx.caching P f s := by
  induction depth generalizing f args focus s with
  | zero =>
    rw [recordedCall]
    refine recordedWith_typed hP (fun c s hc hs => ?_) hf args focus hs
    refine Manner.body_proper hmanner ?_ hc hs
    intro _ _ _ s _ hs
    exact SoundRun.nil hs
  | succ depth ih =>
    rw [recordedCall]
    refine recordedWith_typed hP (fun c s hc hs => ?_) hf args focus hs
    exact Manner.body_proper hmanner
      (fun g args focus s hg hs => (ih hg args focus hs).proper) hc hs

/-! ## Reachable sessions -/

/-- A session that a client has left, or that is found on the way; clients may follow one another,
and the variables and the registry may be others each time. -/
inductive Session.Reachable (caching : Bool) (P : Function → Prop) : Session → Prop
  | new : Reachable caching P {}
  | left {s : Session} {env : Environment} {registry : Registry} {manner : Manner} {depth : Nat}
      {client : Conduct} : Reachable caching P s → manner.Calls P → client.Calls P →
      Reachable caching P
        ((client.recorded (recordedCall ⟨env, registry, caching⟩ manner depth)).eval.runIn s).2
  | inside {s : Session} {env : Environment} {registry : Registry} {manner : Manner} {depth : Nat}
      {client : Conduct} {moment : Moment} : Reachable caching P s → manner.Calls P →
      client.Calls P →
      moment ∈ (client.recorded (recordedCall ⟨env, registry, caching⟩ manner depth)).moments s →
      Reachable caching P moment.session

/-- **Every reachable session is sound.** -/
theorem Session.Reachable.sound (hP : Family P) {s : Session} (h : s.Reachable caching P) :
    s.Sound caching P := by
  induction h with
  | new => exact sound_new
  | left _ hmanner hclient hs =>
    refine (Conduct.recorded_proper (fun f args focus s hf hs => ?_) hclient hs).last
    exact (recordedCall_typed hP ⟨_, _, caching⟩ hmanner _ hf args focus hs).proper
  | inside _ hmanner hclient hmem hs =>
    refine (Conduct.recorded_proper (fun f args focus s hf hs => ?_) hclient hs).sound _ hmem
    exact (recordedCall_typed hP ⟨_, _, caching⟩ hmanner _ hf args focus hs).proper

/-! ## Scripts -/

theorem Script.conduct_calls {registry : Registry} (h : ∀ g ∈ registry.functions, P g)
    (focus : Option Focus) (script : Script) : (script.conduct registry focus).Calls P := by
  induction script with
  | done result =>
    rw [conduct]
    exact trivial
  | call name args missing next ih =>
    rw [conduct]
    split
    · rename_i g hresolve
      refine ⟨h g (Registry.mem_of_resolve hresolve).1, fun r => ?_⟩
      cases r with
      | ok r => exact ih r
      | error e => exact trivial
    · exact trivial

/-- Scripts call the functions of the registry. -/
theorem scripted_calls {ctx : Context} (h : ∀ g ∈ ctx.registry.functions, P g) :
    (scripted ctx).Calls P :=
  fun _ _ _ => Script.conduct_calls h _ _

end

/-! ## Typed calls -/

/-- What is true of the record of a call. -/
structure Recorded.Follows (m : Recorded) (f : Function) (args : List Sequence)
    (focus : Option Focus) (s : Session) : Prop where
  /-- Whichever handler is entered gets as many arguments as its function accepts, each of them of
  the type of its parameter. -/
  admitted : ∀ moment ∈ m.moments s, ∀ c, moment.event = .entered c →
    c.function.Admits c.arguments
  /-- Those are the handlers that run. -/
  runs : (m.eval.runIn s).2.runs = ((m.moments s).filterMap Moment.entered?).reverse ++ s.runs
  /-- An argument that cannot be converted, or a wrong number of them, ends the call at once. -/
  refused : ∀ e, f.Refuses args e → m.eval.runIn s = (.error (e.inFunction f.signature), s) ∧
    m.moments s = [⟨s, .refused f args⟩]
  /-- Otherwise the call is answered, or its handler is entered, with as many arguments as were
  given. -/
  accepted : (∀ e, ¬ f.Refuses args e) → ∃ converted, converted.length = args.length ∧
    f.Admits converted ∧ ((∃ r, m.moments s = [⟨s, .answered ⟨f, converted, focus⟩ r⟩]) ∨
      ∃ later, m.moments s = ⟨s, .entered ⟨f, converted, focus⟩⟩ :: later)
  /-- A result is of the declared type. -/
  result : ∀ r s', m.eval.runIn s = (.ok r, s') → f.result.accepts r = true

theorem moments_recordedWith {ctx : Context} {body : Call → Recorded} {f : Function}
    {args converted : List Sequence} {focus : Option Focus}
    (h : f.convertArguments args = .ok converted) (s : Session) :
    (∃ r, (recordedWith ctx body f args focus).moments s
        = [⟨s, .answered ⟨f, converted, focus⟩ r⟩]) ∨
      ∃ later, (recordedWith ctx body f args focus).moments s
        = ⟨s, .entered ⟨f, converted, focus⟩⟩ :: later := by
  rw [(recordedWith_of_ok h ctx body focus s).2]
  cases hfind : (Call.key? ⟨f, converted, focus⟩).bind s.find? with
  | some r => exact .inl ⟨r, Call.moments_recorded_of_some hfind⟩
  | none => exact .inr ⟨_, Call.moments_recorded_of_none hfind rfl⟩

/-- Every recorded call has a body that its handler goes by. -/
theorem exists_recordedWith (ctx : Context) (manner : Manner) (depth : Nat) (f : Function)
    (args : List Sequence) (focus : Option Focus) :
    ∃ body, recordedCall ctx manner depth f args focus = recordedWith ctx body f args focus := by
  cases depth with
  | zero => exact ⟨_, by rw [recordedCall]⟩
  | succ depth => exact ⟨_, by rw [recordedCall]⟩

/-- **Typed calls.** A client calls functions and clears the session as it likes, and handlers do so
too, in any manner and nested to any depth. In every session that comes up, at the end or on the
way, with caching or without, a call of a built function runs no handler, its own or another one,
unless the number of arguments is accepted, and then with as many of them, each of the type of its
parameter. The first argument that cannot be converted decides how the call fails, and no handler
runs. A result is of the declared type, be it a kept one or a new one. With handlers that are
scripts, the call is that of the library. -/
theorem typed_calls {P : Function → Prop} (hP : Family P) {caching : Bool} {s : Session}
    (hs : s.Reachable caching P) (env : Environment) (registry : Registry) {f : Function}
    (hf : P f) (args : List Sequence) (focus : Option Focus) :
    (∀ (manner : Manner) (depth : Nat), manner.Calls P →
      (recordedCall ⟨env, registry, caching⟩ manner depth f args focus).Follows f args focus s) ∧
    ((∀ g ∈ registry.functions, P g) → (scripted ⟨env, registry, caching⟩).Calls P) ∧
    (recordedCall ⟨env, registry, caching⟩ (scripted ⟨env, registry, caching⟩) Function.maxDepth
      f args focus).eval = f.call ⟨env, registry, caching⟩ args focus := by
  refine ⟨fun manner depth hmanner => ?_, fun h => scripted_calls h, recordedCall_maxDepth _ _ _ _⟩
  obtain ⟨hproper, hresult⟩ := recordedCall_typed hP ⟨env, registry, caching⟩ hmanner depth hf args
    focus (hs.sound hP)
  have hbuilt := hP.built f hf
  obtain ⟨body, hbody⟩ := exists_recordedWith ⟨env, registry, caching⟩ manner depth f args focus
  constructor
  · exact hproper.admitted
  · exact hproper.runs
  · intro e he
    rw [hbody]
    exact recordedWith_of_error (hbuilt.convertArguments_eq_error_iff.mpr he) _ body focus s
  · intro hnone
    cases hconvert : f.convertArguments args with
    | error e => exact absurd (hbuilt.convertArguments_eq_error_iff.mp hconvert) (hnone e)
    | ok converted =>
      obtain ⟨hlength, hadmits⟩ := hbuilt.admits hconvert
      rw [hbody]
      exact ⟨converted, hlength, hadmits, moments_recordedWith hconvert s⟩
  · intro r s' hr
    exact hresult r (congrArg Prod.fst hr)

/-- The first of one or more strings. -/
def firstOf : Function where
  id := 7
  name := ⟨none, "first"⟩
  parameters := [⟨"part", ⟨.atomic .string, .one⟩⟩]
  result := ⟨.atomic .string, .one⟩
  properties := { deterministic := true, unbounded := true }
  handler _ args := .done (.ok (args.headD []))

/-- The result of an earlier call is given, of the declared type; a call without arguments fails. -/
theorem typed_calls_of_first :
    let ctx : Context := ⟨{ now := (⟨.first, .midnight⟩, .utc) }, ⟨[]⟩, true⟩
    let a : Sequence := .ofString "a"
    let b : Sequence := .ofString "b"
    let s : Session := ⟨[(⟨7, [a, b], none⟩, a)], [7]⟩
    (firstOf.call ctx [a, b] none).runIn s = (.ok a, s) ∧ firstOf.result.accepts a = true ∧
    (firstOf.call ctx [] none).runIn s
      = (.error ((firstOf.wrongArity 0).inFunction firstOf.signature), s) := by
  intro ctx a b s
  let P (f : Function) : Prop := f ∈ FunctionDraft.buildAll 7 [firstOf.draft]
  have hP : Family P := FunctionDraft.family_buildAll 7 [firstOf.draft]
  have hf : P firstOf := List.mem_singleton.mpr rfl
  have hscripted : (scripted ctx).Calls P := scripted_calls fun g hg => absurd hg List.not_mem_nil
  -- the session that one call leaves
  let client : Conduct := .call firstOf [a, b] none .done
  have hleft : ((client.recorded (recordedCall ctx (scripted ctx) 0)).eval.runIn {}).2.Reachable
      true P := .left .new hscripted ⟨hf, fun _ => trivial⟩
  have hs : s.Reachable true P := hleft
  have hrun : (firstOf.call ctx [a, b] none).runIn s = (.ok a, s) := rfl
  obtain ⟨hfollows, -, heval⟩ := typed_calls hP hs ctx.env ctx.registry hf [a, b] none
  refine ⟨hrun, (hfollows _ Function.maxDepth hscripted).result a s ?_, ?_⟩
  · rw [heval]
    exact hrun
  · obtain ⟨hnone, -, hempty⟩ := typed_calls hP hs ctx.env ctx.registry hf [] none
    rw [← hempty]
    exact ((hnone _ Function.maxDepth hscripted).refused _ (.count rfl)).1

end TreePath
