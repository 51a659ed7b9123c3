/-
TreePath.Proofs.Session.Recording — what happens in a session while calls are made.

A record is a list of moments, each of them an event with the session that it happens in. The
recorded call is the call itself with such a list beside it: its evaluation is put together from the
same parts (`Function.invoke_eq`, `Function.afterConversion_eq`), and for handlers that are scripts
it is the call of the library (`recordedCall_scripted`). Handlers may do more than a script here.
They may go on after a failure, use another focus, call functions that no registry has, clear the
session, and do something else each time; what they do is their `Conduct`.

The record misses nothing and adds nothing: its moments lead from the session at the beginning to
the one at the end (`recordedCall_faithful`).
-/
import TreePath.Proofs.Session.Keys

namespace TreePath

/-! ## Events -/

/-- A call whose arguments have been converted. -/
structure Call where
  function : Function
  arguments : List Sequence
  focus : Option Focus

/-- The arguments are some that were given, in the types of the parameters. -/
def Call.Converted (c : Call) : Prop := ∃ args, c.function.convertArguments args = .ok c.arguments

/-- The key of the call, if its result is to be kept. -/
def Call.key? (c : Call) : Option CallKey := c.function.callKey? c.arguments c.focus

/-- What may happen in a session. -/
inductive Event where
  /-- The arguments of a call cannot be converted. -/
  | refused (f : Function) (args : List Sequence)
  /-- A call gives a result that has been kept. -/
  | answered (c : Call) (result : Sequence)
  /-- The handler of a call starts to run. -/
  | entered (c : Call)
  /-- The handler fails. -/
  | failed (c : Call)
  /-- The handler gives a result that is not of the declared type. -/
  | rejected (c : Call) (result : Sequence)
  /-- The handler gives the result of the call. -/
  | completed (c : Call) (result : Sequence)
  /-- All results are forgotten. -/
  | cleared

namespace Session

/-- The session after an event. -/
def after (s : Session) : Event → Session
  | .entered c => { s with runs := c.function.id :: s.runs }
  | .completed c r => c.key?.elim s fun key => s.keep key r
  | .cleared => s.clear
  | .refused .. | .answered .. | .failed .. | .rejected .. => s

/-- What has to be true of the session when an event happens in it. -/
def Allows (s : Session) : Event → Prop
  | .refused f args => ∃ e, f.convertArguments args = .error e
  | .answered c r => c.Converted ∧ c.key?.bind s.find? = some r
  | .entered c => c.Converted ∧ c.key?.bind s.find? = none
  | .completed c r => c.function.result.accepts r = true
  | .rejected c r => c.function.result.accepts r = false
  | .failed _ | .cleared => True

end Session

/-- An event, and the session just before it. -/
structure Moment where
  session : Session
  event : Event

/-- The moments lead from one session to another, each of them to the next. -/
inductive Leads : Session → List Moment → Session → Prop
  | nil (s : Session) : Leads s [] s
  | cons {s s' : Session} {e : Event} {later : List Moment} :
      s.Allows e → Leads (s.after e) later s' → Leads s (⟨s, e⟩ :: later) s'

namespace Leads

variable {s s₁ s₂ : Session} {l l' : List Moment}

theorem single {e : Event} (h : s.Allows e) : Leads s [⟨s, e⟩] (s.after e) := .cons h (.nil _)

theorem append (h : Leads s l s₁) (h' : Leads s₁ l' s₂) : Leads s (l ++ l') s₂ := by
  induction h with
  | nil s => exact h'
  | cons hallows _ ih => exact .cons hallows (ih h')

end Leads

/-! ## Recorded evaluations -/

/-- An evaluation, and what happens in it. -/
structure Recorded where
  eval : Eval Sequence
  moments : Session → List Moment

/-- The record accounts for the session that the evaluation leaves. -/
def Recorded.Faithful (m : Recorded) : Prop :=
  ∀ s, Leads s (m.moments s) (m.eval.runIn s).2

/-- What a handler does, and also what whoever uses a session does. -/
inductive Conduct where
  | done (result : Except Error Sequence)
  /-- Calls a function and goes on with the outcome, be it a result or a failure. -/
  | call (f : Function) (args : List Sequence) (focus : Option Focus)
      (next : Except Error Sequence → Conduct)
  /-- Clears the session. -/
  | clear (next : Conduct)

/-- How handlers behave: what one does in a call, in the session that it finds. The scripts of the
functions do not matter here, unless the manner follows them (`scripted`). -/
abbrev Manner := Call → Session → Conduct

section

variable {callee : Function → List Sequence → Option Focus → Recorded}

/-- Acts as told; `callee` makes the calls. -/
def Conduct.recorded (callee : Function → List Sequence → Option Focus → Recorded) :
    Conduct → Recorded
  | .done result => ⟨Eval.ofResult result, fun _ => []⟩
  | .call f args focus next =>
    let first := callee f args focus
    { eval := do
        let r ← ExceptT.lift first.eval.run
        ((next r).recorded callee).eval
      moments := fun s =>
        let (r, s₁) := first.eval.runIn s
        first.moments s ++ ((next r).recorded callee).moments s₁ }
  | .clear next =>
    { eval := do
        modify Session.clear
        (next.recorded callee).eval
      moments := fun s => ⟨s, .cleared⟩ :: (next.recorded callee).moments s.clear }

theorem Conduct.recorded_faithful (h : ∀ f args focus, (callee f args focus).Faithful)
    (conduct : Conduct) : (conduct.recorded callee).Faithful := by
  induction conduct with
  | done result =>
    intro s
    rw [recorded, Eval.runIn_ofResult]
    exact .nil s
  | call f args focus next ih =>
    intro s
    rw [recorded, Eval.runIn_bind_ok (Eval.runIn_lift _ s)]
    exact (h f args focus s).append (ih _ _)
  | clear next ih =>
    intro s
    rw [recorded, Eval.runIn_bind_ok (Eval.runIn_modify _ s)]
    exact .cons trivial (ih s.clear)

/-! ## Recorded calls -/

/-- The handler of a call. -/
def Manner.body (manner : Manner) (callee : Function → List Sequence → Option Focus → Recorded)
    (c : Call) : Recorded where
  eval := do ((manner c (← get)).recorded callee).eval
  moments s := ((manner c s).recorded callee).moments s

theorem Manner.body_faithful (manner : Manner) (h : ∀ f args focus, (callee f args focus).Faithful)
    (c : Call) : (manner.body callee c).Faithful :=
  fun s => (manner c s).recorded_faithful h s

end

namespace Function

/-- Counts a run of the handler and checks what `body` gives. -/
def handledBy (f : Function) (body : Eval Sequence) : Eval Sequence := do
  modify fun s => { s with runs := f.id :: s.runs }
  let result ← body
  if f.result.accepts result then return result else throw f.wrongResult

theorem invoke_eq (ctx : Context) (callee : Function → List Sequence → Eval Sequence)
    (f : Function) (args : List Sequence) (focus : Option Focus) : f.invoke ctx callee args focus
      = f.handledBy ((f.handler ⟨ctx.env, focus⟩ args).run ctx.registry callee) := rfl

/-- What a call makes of the outcome of its handler. -/
def checked (f : Function) : Except Error Sequence → Except Error Sequence
  | .ok r => if f.result.accepts r then .ok r else .error (f.wrongResult.inFunction f.signature)
  | .error e => .error (e.inFunction f.signature)

theorem runIn_handledBy (f : Function) (body : Eval Sequence) (s : Session) :
    (f.passing (f.handledBy body)).runIn s
      = let (r, s') := body.runIn { s with runs := f.id :: s.runs }
        (f.checked r, s') := by
  unfold passing handledBy
  rw [Eval.runIn_mapError, Eval.runIn_bind_ok (Eval.runIn_modify _ s), Eval.runIn_bind]
  rcases body.runIn { s with runs := f.id :: s.runs } with ⟨r, s'⟩
  cases r with
  | error e => rfl
  | ok r =>
    simp only [checked]
    split <;> rfl

end Function

namespace Call

/-- What the outcome of the handler means for the call. -/
def conclusion (c : Call) : Except Error Sequence → Event
  | .ok r => if c.function.result.accepts r then .completed c r else .rejected c r
  | .error _ => .failed c

theorem allows_conclusion (c : Call) (s : Session) (r : Except Error Sequence) :
    s.Allows (c.conclusion r) := by
  unfold conclusion
  cases r with
  | error e => exact trivial
  | ok r =>
    simp only
    split
    · assumption
    · exact Bool.eq_false_iff.mpr ‹_›

/-- A call after its arguments have been converted. -/
def recorded (ctx : Context) (c : Call) (body : Recorded) : Recorded where
  eval := Function.remembering ctx c.key? (c.function.passing (c.function.handledBy body.eval))
  moments s :=
    match c.key?.bind s.find? with
    | some r => [⟨s, .answered c r⟩]
    | none =>
      let s₁ := s.after (.entered c)
      let (r, s₂) := body.eval.runIn s₁
      ⟨s, .entered c⟩ :: (body.moments s₁ ++ [⟨s₂, c.conclusion r⟩])

/-- The outcome of the handler decides what is kept. -/
theorem runIn_recorded {ctx : Context} (hctx : ctx.caching = true) (c : Call) (body : Recorded)
    (s : Session) : (c.recorded ctx body).eval.runIn s
      = match c.key?.bind s.find? with
        | some r => (.ok r, s)
        | none =>
          let (r, s₂) := body.eval.runIn (s.after (.entered c))
          (c.function.checked r, s₂.after (c.conclusion r)) := by
  have hkey : c.function.cacheKey? ctx c.arguments c.focus = c.key? := by
    unfold Function.cacheKey?
    rw [hctx, if_pos rfl, key?]
  unfold recorded
  simp only
  rw [key?, Function.runIn_remembering, hkey, Function.runIn_handledBy, ← key?]
  cases c.key?.bind s.find? with
  | some r => rfl
  | none =>
    simp only [Session.after]
    rcases body.eval.runIn { s with runs := c.function.id :: s.runs } with ⟨r, s₂⟩
    cases r with
    | error e => rfl
    | ok r =>
      simp only [Function.checked, conclusion]
      cases c.function.result.accepts r <;> rfl

theorem recorded_faithful {ctx : Context} (hctx : ctx.caching = true) {c : Call}
    (hc : c.Converted) {body : Recorded} (h : body.Faithful) :
    (c.recorded ctx body).Faithful := by
  intro s
  rw [runIn_recorded hctx]
  unfold recorded
  simp only
  cases hfind : c.key?.bind s.find? with
  | some r => exact .single (e := .answered c r) ⟨hc, hfind⟩
  | none =>
    have hbody := h (s.after (.entered c))
    simp only
    exact .cons ⟨hc, hfind⟩ (hbody.append (.single (c.allows_conclusion _ _)))

end Call

/-- A call with its handler. -/
def recordedWith (ctx : Context) (body : Call → Recorded) (f : Function) (args : List Sequence)
    (focus : Option Focus) : Recorded where
  eval := do
    let args ← f.passing (Eval.ofResult (f.convertArguments args))
    (Call.recorded ctx ⟨f, args, focus⟩ (body ⟨f, args, focus⟩)).eval
  moments s :=
    match f.convertArguments args with
    | .error _ => [⟨s, .refused f args⟩]
    | .ok args => (Call.recorded ctx ⟨f, args, focus⟩ (body ⟨f, args, focus⟩)).moments s

theorem recordedWith_faithful {ctx : Context} (hctx : ctx.caching = true) {body : Call → Recorded}
    (h : ∀ c, (body c).Faithful) (f : Function) (args : List Sequence) (focus : Option Focus) :
    (recordedWith ctx body f args focus).Faithful := by
  intro s
  unfold recordedWith Function.passing
  simp only
  rw [Eval.runIn_bind, Eval.runIn_mapError, Eval.runIn_ofResult]
  cases hconvert : f.convertArguments args with
  | error e => exact .single (e := .refused f args) ⟨e, hconvert⟩
  | ok converted => exact Call.recorded_faithful hctx ⟨args, hconvert⟩ (h _) s

/-- A call whose handler may make calls nested at most `depth` deep. -/
def recordedCall (ctx : Context) (manner : Manner) : (depth : Nat) → Function → List Sequence →
    Option Focus → Recorded
  | 0, f, args, focus =>
    recordedWith ctx (manner.body fun _ _ _ => ⟨throw Function.tooDeep, fun _ => []⟩) f args focus
  | depth + 1, f, args, focus =>
    recordedWith ctx (manner.body (recordedCall ctx manner depth)) f args focus

/-- **The record of a call leads to the session that the call leaves**, whatever its handler and
those that it calls do. -/
theorem recordedCall_faithful {ctx : Context} (hctx : ctx.caching = true) (manner : Manner)
    (depth : Nat) (f : Function) (args : List Sequence) (focus : Option Focus) :
    (recordedCall ctx manner depth f args focus).Faithful := by
  induction depth generalizing f args focus with
  | zero =>
    rw [recordedCall]
    exact recordedWith_faithful hctx (manner.body_faithful fun _ _ _ s => .nil s) f args focus
  | succ depth ih =>
    rw [recordedCall]
    exact recordedWith_faithful hctx (manner.body_faithful ih) f args focus

/-! ## Scripts -/

/-- What a handler does that is a script: its calls have the focus that it has, and their failures
are its own. -/
def Script.conduct (registry : Registry) (focus : Option Focus) : Script → Conduct
  | .done result => .done result
  | .call name args missing next =>
    match registry.resolve name args.length with
    | .ok g => .call g args focus fun
      | .ok r => (next r).conduct registry focus
      | .error e => .done (.error e)
    | .error _ => .done missing

/-- Every handler follows its script. -/
def scripted (ctx : Context) : Manner := fun c _ =>
  (c.function.handler ⟨ctx.env, c.focus⟩ c.arguments).conduct ctx.registry c.focus

theorem Eval.ext {α : Type} {m m' : Eval α} (h : ∀ s, m.runIn s = m'.runIn s) : m = m' :=
  funext h

theorem Script.recorded_conduct {registry : Registry} {focus : Option Focus}
    {callee : Function → List Sequence → Option Focus → Recorded}
    {calls : Function → List Sequence → Eval Sequence}
    (h : ∀ g args, (callee g args focus).eval = calls g args) (script : Script) :
    ((script.conduct registry focus).recorded callee).eval = script.run registry calls := by
  induction script with
  | done result => rw [conduct, run, Conduct.recorded]
  | call name args missing next ih =>
    rw [conduct, run]
    cases registry.resolve name args.length with
    | error e => rw [Conduct.recorded]
    | ok g =>
      refine Eval.ext fun s => ?_
      rw [Conduct.recorded]
      simp only
      rw [h, Eval.runIn_bind_ok (Eval.runIn_lift _ s), Eval.runIn_bind]
      rcases hr : (calls g args).runIn s with ⟨r, s₁⟩
      have hrun : (calls g args).run.run s = (r, s₁) := hr
      rw [hrun]
      cases r with
      | ok a => exact congrArg (Eval.runIn · s₁) (ih a)
      | error e => rfl

theorem recordedWith_scripted {ctx : Context}
    {callee : Function → List Sequence → Option Focus → Recorded} {focus : Option Focus}
    {calls : Function → List Sequence → Eval Sequence}
    (h : ∀ g args, (callee g args focus).eval = calls g args) (f : Function)
    (args : List Sequence) : (recordedWith ctx ((scripted ctx).body callee) f args focus).eval
      = f.callWith ctx calls args focus := by
  rw [Function.callWith_eq]
  unfold recordedWith
  refine congrArg (f.passing (Eval.ofResult (f.convertArguments args)) >>= ·) ?_
  refine funext fun args => ?_
  have hbody : ((scripted ctx).body callee ⟨f, args, focus⟩).eval
      = (f.handler ⟨ctx.env, focus⟩ args).run ctx.registry calls := by
    refine Eval.ext fun s => ?_
    unfold Manner.body
    rw [Eval.runIn_bind_ok (Eval.runIn_get s), scripted, Script.recorded_conduct h]
  rw [Function.afterConversion_eq, Function.invoke_eq, ← hbody]
  rfl

/-- **The recorded calls of handlers that are scripts are the calls of the library.** -/
theorem recordedCall_scripted (ctx : Context) (depth : Nat) (f : Function) (args : List Sequence)
    (focus : Option Focus) : (recordedCall ctx (scripted ctx) depth f args focus).eval
      = Function.callNested ctx depth f args focus := by
  induction depth generalizing f args focus with
  | zero =>
    rw [recordedCall, Function.callNested]
    exact recordedWith_scripted (fun _ _ => rfl) f args
  | succ depth ih =>
    rw [recordedCall, Function.callNested]
    exact recordedWith_scripted (fun g args => ih g args focus) f args

theorem recordedCall_maxDepth (ctx : Context) (f : Function) (args : List Sequence)
    (focus : Option Focus) : (recordedCall ctx (scripted ctx) Function.maxDepth f args focus).eval
      = f.call ctx args focus := by
  rw [recordedCall_scripted, Function.call]

end TreePath
