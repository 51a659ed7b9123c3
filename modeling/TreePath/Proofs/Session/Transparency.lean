/-
TreePath.Proofs.Session.Transparency — when keeping results can be seen.

A session evaluates steps in order. With the cache and without it, the steps have the same answers
as long as no instant occurs in two zones (`answers_eq`). Where one does, the two date-times are the
same as keys but are written differently, and two steps suffice to see it: asked for the text of the
one and then of the other, a session that keeps results writes the first one twice
(`answers_texts_cached`). So the cache is transparent on a supply of zoned date-times exactly when
the supply has no instant in two zones.
-/
import TreePath.Proofs.Session.Agreement

namespace TreePath

open Eval

/-! ## Sessions -/

/-- A step of a session: an expression and the focus it is evaluated with. -/
abbrev SessionStep := Expression × Option Focus

/-- What the steps of a session give, one after another. -/
def answers (ctx : Context) : List SessionStep → Session → List (Except Error Sequence)
  | [], _ => []
  | (e, focus) :: rest, s =>
    ((e.evalIn ctx focus).runIn s).1 :: answers ctx rest ((e.evalIn ctx focus).runIn s).2

/-- What can be seen of an item: which node it is, or the type and the text of a value. -/
inductive Sighting where
  | node (tree : TreeId) (address : List Step)
  | value (t : Datatype) (text : String)
deriving DecidableEq

def Item.observe : Item → Sighting
  | .node n => .node n.tree n.address
  | .atomic v => .value v.type v.text

/-- What can be seen of an answer: its items, or the code of the failure. -/
def observe (r : Except Error Sequence) : Except ErrorCode (List Sighting) :=
  (r.map fun s => s.map Item.observe).mapError (·.code)

/-- The steps hold nothing but what may occur. -/
def Supply.Admits (S : Supply) (steps : List SessionStep) : Prop :=
  ∀ p ∈ steps, (∀ v ∈ p.1.expr.literals, S.HasValue v) ∧ ∀ f ∈ p.2, S.HasItem f.item

/-! ## Where no instant occurs in two zones -/

/-- Each step finds a session in order and leaves it in order. -/
theorem answers_eq {S : Supply} {env : Environment} (hS : S.Serves env)
    (hU : UniqueZones S.zoned) : ∀ {steps : List SessionStep} {s s' : Session},
      S.Admits steps → InOrder S env s →
        answers ⟨env, Library.registry, true⟩ steps s
          = answers ⟨env, Library.registry, false⟩ steps s'
  | [], _, _, _, _ => rfl
  | (e, focus) :: rest, s, s', hsteps, hs => by
      obtain ⟨hliterals, hfocus⟩ := hsteps (e, focus) List.mem_cons_self
      have hscope : Scope.Known S.HasItem { focus } :=
        ⟨fun _ h => absurd h List.not_mem_nil, hfocus⟩
      have hagrees := Expr.eval_agrees (Supply.steady hS hU) e.expr _ hscope hliterals s s' hs
      rw [Supply.uncached_mk] at hagrees
      obtain ⟨heq, horder, -⟩ := hagrees
      rw [answers, answers]
      refine List.cons_eq_cons.mpr ⟨heq, ?_⟩
      exact answers_eq hS hU (fun p hp => hsteps p (List.mem_cons_of_mem _ hp)) horder

/-! ## Where an instant occurs in two zones -/

/-- The step that asks for the text of a value. -/
def textStep (v : AtomicValue) : SessionStep :=
  (⟨"", .call (.function "string") [.literal v]⟩, none)

/-- The function that gives the text of its argument. -/
def stringFunction : Function :=
  (Library.pureEntry "string" [Library.parameter "arg" .anyItem .zeroOrOne] Library.stringType .one
    Library.string).toFunction 5

set_option maxRecDepth 4000 in
theorem resolve_string : Library.registry.resolve (.function "string") 1 = .ok stringFunction := rfl

theorem stringFunction_mem : stringFunction ∈ Library.functions :=
  (Library.mem_functions_of_resolve resolve_string).1

/-- The key of the call that a text step makes. -/
def textKey (v : AtomicValue) : CallKey := ⟨5, [[.atomic v]], none⟩

theorem evalIn_textStep (env : Environment) (caching : Bool) (v : AtomicValue) (s : Session) :
    ∃ callee, ((textStep v).1.evalIn ⟨env, Library.registry, caching⟩ (textStep v).2).runIn s
      = (Function.afterConversion ⟨env, Library.registry, caching⟩ callee stringFunction none
          [[.atomic v]]).runIn s := by
  obtain ⟨callee, hcall⟩ :=
    Function.call_eq ⟨env, Library.registry, caching⟩ stringFunction [[.atomic v]] none
  have hresolve : resolve ⟨env, Library.registry, caching⟩ (.function "string") 1
      = .ok stringFunction := by
    rw [resolve]
    simp only [Name.function, Option.isNone_some, Bool.false_eq_true, if_false]
    rw [← Name.function, resolve_string]
  have hconvert : stringFunction.convertArguments [[.atomic v]] = .ok [[.atomic v]] := rfl
  have hargs : (Expr.evalAll ⟨env, Library.registry, caching⟩ { focus := none }
      [.literal v]).runIn s = (.ok [[.atomic v]], s) := by
    simp only [Expr.evalAll, Expr.eval]
    rfl
  refine ⟨callee, ?_⟩
  simp only [textStep, Expression.evalIn, Expr.eval, List.length_singleton, hresolve]
  rw [runIn_bind_ok (runIn_ofResult (.ok stringFunction) s), runIn_bind_ok hargs, hcall,
    Function.callWith_eq, hconvert]
  rfl

theorem answer_stringFunction (site : CallSite) (v : AtomicValue) :
    stringFunction.answer site [[.atomic v]] = .ok (Sequence.ofString v.text) := rfl

/-- Without the cache each text is written. -/
theorem answers_texts_uncached (env : Environment) (v w : AtomicValue) :
    answers ⟨env, Library.registry, false⟩ [textStep v, textStep w] {}
      = [.ok (Sequence.ofString v.text), .ok (Sequence.ofString w.text)] := by
  have hstep : ∀ u s, (((textStep u).1.evalIn ⟨env, Library.registry, false⟩
      (textStep u).2).runIn s).1 = .ok (Sequence.ofString u.text) := by
    intro u s
    obtain ⟨callee, h⟩ := evalIn_textStep env false u s
    rw [h, Function.runIn_afterConversion_uncached stringFunction_mem rfl, answer_stringFunction]
    rfl
  simp only [answers]
  rw [hstep, hstep]

/-- With the cache the text of the first of two values that are the same is written twice. -/
theorem answers_texts_cached (env : Environment) {v w : AtomicValue} (h : v.same w = true) :
    answers ⟨env, Library.registry, true⟩ [textStep v, textStep w] {}
      = [.ok (Sequence.ofString v.text), .ok (Sequence.ofString v.text)] := by
  have hkey : ∀ u : AtomicValue,
      stringFunction.callKey? [[.atomic u]] none = some (textKey u) := fun _ => rfl
  have hsame : (textKey v).same (textKey w) = true := by
    simp [CallKey.same, textKey, CallKey.sameArguments, Sequence.same, Item.same, h,
      CallKey.sameFocus]
  obtain ⟨callee, hfirst⟩ := evalIn_textStep env true v {}
  rw [Function.runIn_afterConversion_new stringFunction_mem rfl callee rfl
    (answer_stringFunction _ v), hkey] at hfirst
  have hsecond : ∀ s : Session, s.find? (textKey w) = some (Sequence.ofString v.text) →
      (((textStep w).1.evalIn ⟨env, Library.registry, true⟩ (textStep w).2).runIn s).1
        = .ok (Sequence.ofString v.text) := by
    intro s hfind
    obtain ⟨callee, h⟩ := evalIn_textStep env true w s
    rw [h, Function.runIn_afterConversion_found rfl callee
      (r := Sequence.ofString v.text) (by rw [hkey]; exact hfind)]
  simp only [answers]
  rw [hfirst, hsecond]
  simp [Session.find?, Session.keep, Session.insertKept, hsame]

/-- A zoned date-time is written in its own zone, so its text tells it apart. -/
theorem zoned_eq_of_text_eq (t t' : DateTime) {zone zone' : Zone}
    (h : (AtomicValue.dateTimeWithTimezone t zone).text
      = (AtomicValue.dateTimeWithTimezone t' zone').text) : t = t' ∧ zone = zone' := by
  have hchars : t.write ++ Zone.writeOptional (some zone)
      = t'.write ++ Zone.writeOptional (some zone') := by
    have hlist := congrArg String.toList h
    simp only [AtomicValue.text, String.toList_ofList] at hlist
    exact hlist
  have hread := DateTime.readZoned_write t (some zone)
  rw [hchars, DateTime.readZoned_write] at hread
  cases hread
  exact ⟨rfl, rfl⟩

/-! ## Exactly when the cache is transparent -/

/-- **Cache transparency, exactly.** Keeping results cannot be seen in any session over a supply of
zoned date-times if and only if no instant occurs in two of their zones. -/
theorem observe_answers_eq_iff_uniqueZones (zoned : DateTime → Zone → Prop) :
    (∀ (forest : Forest) (env : Environment) (steps : List SessionStep),
        Supply.Serves ⟨forest, zoned⟩ env → Supply.Admits ⟨forest, zoned⟩ steps →
          (answers ⟨env, Library.registry, true⟩ steps {}).map observe
            = (answers ⟨env, Library.registry, false⟩ steps {}).map observe)
      ↔ UniqueZones zoned := by
  constructor
  · intro h t zone t' zone' ht ht' hinstant
    let S : Supply := ⟨fun _ => none, zoned⟩
    have hno : ∀ n : Node, ¬ n.Within S.forest := by
      intro n hn
      induction hn with
      | root h => cases h
      | under _ _ ih => exact ih
    have hS : S.Serves { now := (t, zone) } :=
      ⟨fun _ _ h => (by cases h), fun n _ hn => absurd hn (hno n),
        fun _ h => absurd h List.not_mem_nil, ht⟩
    have hsteps : S.Admits [textStep (.dateTimeWithTimezone t zone),
        textStep (.dateTimeWithTimezone t' zone')] := by
      intro p hp
      simp only [List.mem_cons, List.not_mem_nil, or_false] at hp
      rcases hp with rfl | rfl
      · exact ⟨fun v hv => by rw [List.mem_singleton.mp hv]; exact ht,
          fun f hf => by cases hf⟩
      · exact ⟨fun v hv => by rw [List.mem_singleton.mp hv]; exact ht',
          fun f hf => by cases hf⟩
    have hsame : (AtomicValue.dateTimeWithTimezone t zone).same
        (.dateTimeWithTimezone t' zone') = true := by
      simp [AtomicValue.same, hinstant]
    have hobserve := h _ _ _ hS hsteps
    rw [answers_texts_cached _ hsame, answers_texts_uncached] at hobserve
    simp only [List.map_cons, List.map_nil, observe, Except.map, Except.mapError,
      Sequence.ofString, Item.observe, List.cons.injEq, Except.ok.injEq,
      Sighting.value.injEq, true_and, and_true] at hobserve
    exact (zoned_eq_of_text_eq t t' hobserve.2).2
  · intro hU forest env steps hS hsteps
    rw [answers_eq hS hU hsteps inOrder_empty]

/-- Ten o'clock, two hours ahead of UTC. -/
def tenAhead : AtomicValue :=
  .dateTimeWithTimezone
    ⟨⟨2024, 1, 15, by decide, by decide⟩,
      { TimeOfDay.midnight with hour := 10, hour_lt := by decide }⟩
    ⟨120, by decide⟩

/-- The same instant in UTC. -/
def eightInUtc : AtomicValue :=
  .dateTimeWithTimezone
    ⟨⟨2024, 1, 15, by decide, by decide⟩,
      { TimeOfDay.midnight with hour := 8, hour_lt := by decide }⟩
    .utc

/-- A session that writes one instant in two zones shows whether it keeps results. -/
theorem observe_answers_ne_of_one_instant :
    (answers ⟨{ now := (⟨.first, .midnight⟩, .utc) }, Library.registry, true⟩
        [textStep tenAhead, textStep eightInUtc] {}).map observe
      ≠ (answers ⟨{ now := (⟨.first, .midnight⟩, .utc) }, Library.registry, false⟩
        [textStep tenAhead, textStep eightInUtc] {}).map observe := by
  have hsame : tenAhead.same eightInUtc = true := by decide
  have htexts : tenAhead.text ≠ eightInUtc.text := by decide
  rw [answers_texts_cached _ hsame, answers_texts_uncached]
  intro h
  simp only [List.map_cons, List.map_nil, observe, Except.map, Except.mapError,
    Sequence.ofString, Item.observe, List.cons.injEq, Except.ok.injEq,
    Sighting.value.injEq, true_and, and_true] at h
  exact htexts h.2

end TreePath
