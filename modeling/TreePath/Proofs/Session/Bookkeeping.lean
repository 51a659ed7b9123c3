/-
TreePath.Proofs.Session.Bookkeeping — which calls run their handlers, and how many results are kept.

Between looking a result up and keeping it a call runs its handler, which may make calls itself,
keep results for them, and fail. What can be said nevertheless is said of the moments of a history,
in the order they happen. The keys of the calls completed since the session was cleared last are
counted along (`completedKeys`), and one invariant ties them to the session: there is one result for
each of them and for no other key (`Session.Books`). An event preserves it (`Session.Books.after`),
so every moment of a history has it (`Leads.books`), inside of handlers as well as between the calls
of whoever uses the session (`history_booked`).
-/
import Mathlib.Data.Finset.Card
import TreePath.Proofs.Session.Recording

namespace TreePath

/-! ## Completed calls -/

/-- The keys of the calls completed, after one more event. A kept result completes a call too. -/
def Event.book (keys : List CallKey) : Event → List CallKey
  | .answered c _ | .completed c _ => keys ++ c.key?.toList
  | .cleared => []
  | .refused .. | .entered .. | .failed .. | .rejected .. => keys

/-- The keys of the calls that have been completed since the session was cleared last. -/
def completedKeys (history : List Moment) : List CallKey :=
  history.foldl (fun keys m => m.event.book keys) []

/-- How many different keys there are. -/
def CallKey.different (keys : List CallKey) : Nat := (keys.map fingerprint).toFinset.card

/-- The session has one result for each of the keys, and no other results. -/
structure Session.Books (s : Session) (keys : List CallKey) : Prop where
  tidy : s.Tidy
  mem_iff : ∀ fp, fp ∈ s.fingerprints ↔ fp ∈ keys.map CallKey.fingerprint

namespace Session.Books

variable {s : Session} {keys : List CallKey}

theorem empty {s : Session} (h : s.kept = []) : s.Books [] where
  tidy := by
    unfold Tidy fingerprints
    rw [h]
    exact .nil
  mem_iff fp := by
    unfold fingerprints
    rw [h]
    rfl

theorem of_kept_eq (h : s.Books keys) {s' : Session} (hkept : s'.kept = s.kept) :
    s'.Books keys := by
  have hfp : s'.fingerprints = s.fingerprints := by rw [fingerprints, hkept, fingerprints]
  refine ⟨?_, fun fp => ?_⟩
  · unfold Tidy
    rw [hfp]
    exact h.tidy
  · rw [hfp]
    exact h.mem_iff fp

/-- **There are as many results as there are different keys.** -/
theorem length_kept (h : s.Books keys) : s.kept.length = CallKey.different keys := by
  rw [← length_fingerprints, ← List.toFinset_card_of_nodup h.tidy, CallKey.different]
  congr 1
  ext fp
  rw [List.mem_toFinset, List.mem_toFinset]
  exact h.mem_iff fp

theorem find?_eq_none_iff (h : s.Books keys) {key : CallKey} :
    s.find? key = none ↔ ∀ k ∈ keys, k.same key = false := by
  rw [← Option.not_isSome_iff_eq_none, isSome_find?_iff_mem, h.mem_iff, List.mem_map]
  simp only [← Bool.not_eq_true, CallKey.same_iff, not_exists, not_and]

/-- A key of a result that is there already may be added. -/
theorem add_mem (h : s.Books keys) {key : CallKey} (hmem : (s.find? key).isSome) :
    s.Books (keys ++ [key]) where
  tidy := h.tidy
  mem_iff fp := by
    rw [isSome_find?_iff_mem] at hmem
    rw [List.map_append, List.mem_append, ← h.mem_iff]
    refine ⟨.inl, ?_⟩
    rintro (hfp | hfp)
    · exact hfp
    · rw [List.mem_singleton.mp hfp]
      exact hmem

theorem keep (h : s.Books keys) (key : CallKey) (r : Sequence) :
    (s.keep key r).Books (keys ++ [key]) where
  tidy := h.tidy.keep key r
  mem_iff fp := by
    rw [fingerprints_keep, List.map_append, List.mem_append, ← h.mem_iff, List.map_singleton,
      List.mem_singleton]
    split
    · rename_i hmem
      exact ⟨.inl, fun hfp => hfp.elim id fun heq => heq ▸ hmem⟩
    · rw [List.mem_append, List.mem_singleton]

/-- **Every event preserves the books.** -/
theorem after (h : s.Books keys) {e : Event} (hallows : s.Allows e) :
    (s.after e).Books (e.book keys) := by
  cases e with
  | refused f args => exact h
  | answered c r =>
    rw [Allows] at hallows
    rw [Session.after, Event.book]
    obtain ⟨key, hkey, hfind⟩ := Option.bind_eq_some_iff.mp hallows.2
    rw [hkey]
    exact h.add_mem (Option.isSome_iff_exists.mpr ⟨r, hfind⟩)
  | entered c => exact h.of_kept_eq rfl
  | failed c => exact h
  | rejected c r => exact h
  | completed c r =>
    rw [Session.after, Event.book]
    cases c.key? with
    | none =>
      rw [Option.toList_none, List.append_nil]
      exact h
    | some key => exact h.keep key r
  | cleared => exact .empty rfl

end Session.Books

/-! ## Histories -/

namespace Leads

variable {s s' : Session} {history before later : List Moment} {m : Moment}

theorem split (h : Leads s (before ++ m :: later) s') :
    Leads s before m.session ∧ m.session.Allows m.event
      ∧ Leads (m.session.after m.event) later s' := by
  induction before generalizing s with
  | nil =>
    cases h with
    | cons hallows hlater => exact ⟨.nil s, hallows, hlater⟩
  | cons first rest ih =>
    cases h with
    | cons hallows hrest =>
      obtain ⟨hbefore, hmoment⟩ := ih hrest
      exact ⟨.cons hallows hbefore, hmoment⟩

/-- The books are right at the end of every history that they are right at the beginning of. -/
theorem books_foldl (h : Leads s history s') {keys : List CallKey} (hbooks : s.Books keys) :
    s'.Books (history.foldl (fun keys m => m.event.book keys) keys) := by
  induction h generalizing keys with
  | nil s => exact hbooks
  | cons hallows _ ih => exact ih (hbooks.after hallows)

theorem books (h : Leads s history s') (hs : s.kept = []) : s'.Books (completedKeys history) :=
  h.books_foldl (.empty hs)

/-- The session is the one of the first moment. -/
theorem head_session (h : Leads s history s') :
    history.head?.elim s' Moment.session = s := by
  cases h <;> rfl

end Leads

/-! ## Handlers -/

/-- The call that an event decides about: its handler runs, or a kept result is given. -/
def Event.begins? : Event → Option Call
  | .answered c _ | .entered c => some c
  | .refused .. | .failed .. | .rejected .. | .completed .. | .cleared => none

/-- The handler of a function starts to run. -/
def Event.enters (f : FunctionId) : Event → Bool
  | .entered c => c.function.id == f
  | _ => false

/-- A call ends that is not to add a result: it fails, or its function is not deterministic. -/
def Event.AddsNothing : Event → Prop
  | .refused .. | .failed .. | .rejected .. => True
  | .completed c _ => c.function.properties.deterministic = false
  | .answered .. | .entered .. | .cleared => False

theorem Call.key?_of_not_deterministic {c : Call}
    (h : c.function.properties.deterministic = false) : c.key? = none := by
  rw [key?, Function.callKey?, h]
  rfl

theorem Session.kept_after {s : Session} {e : Event} (h : e.AddsNothing) :
    (s.after e).kept = s.kept := by
  cases e with
  | completed c r =>
    rw [after, Call.key?_of_not_deterministic h]
    rfl
  | answered | entered | cleared => exact h.elim
  | refused | failed | rejected => rfl

theorem Session.Allows.converted {s : Session} {e : Event} (h : s.Allows e) {c : Call}
    (hc : e.begins? = some c) : c.Converted := by
  cases e with
  | answered | entered =>
    cases hc
    exact h.1
  | refused | failed | rejected | completed | cleared => cases hc

/-- A handler runs if no result is found. -/
theorem Session.Allows.entered_iff {s : Session} {e : Event} (h : s.Allows e) {c : Call}
    (hc : e.begins? = some c) : e = .entered c ↔ ∀ key, c.key? = some key → s.find? key = none := by
  rw [← Option.bind_eq_none_iff]
  cases e with
  | answered c' r =>
    cases hc
    refine ⟨nofun, fun hnone => ?_⟩
    rw [Allows, hnone] at h
    cases h.2
  | entered c' =>
    cases hc
    exact ⟨fun _ => h.2, fun _ => rfl⟩
  | refused | failed | rejected | completed | cleared => cases hc

theorem Session.runCount_after (s : Session) (e : Event) (f : FunctionId) :
    (s.after e).runCount f = s.runCount f + if e.enters f then 1 else 0 := by
  cases e with
  | entered c =>
    rw [after, runCount, List.count_cons]
    rfl
  | completed c r =>
    rw [after]
    cases c.key? <;> rfl
  | refused | answered | failed | rejected | cleared => rfl

theorem Leads.count_runs {s s' : Session} {history : List Moment} (h : Leads s history s')
    (f : FunctionId) :
    s'.runCount f = s.runCount f + history.countP fun m => m.event.enters f := by
  induction h with
  | nil s => rfl
  | cons _ _ ih =>
    rw [ih, Session.runCount_after, List.countP_cons]
    exact (Nat.add_right_comm _ _ _).trans (Nat.add_assoc _ _ _)

/-! ## Bookkeeping -/

/-- What is true of a moment, given those before it and the session after it. -/
structure Moment.Booked (before : List Moment) (m : Moment) (next : Session) : Prop where
  /-- There are as many results as different keys of calls completed since the last clearing. -/
  length : m.session.kept.length = CallKey.different (completedKeys before)
  /-- A call begins with its arguments converted. -/
  converted : ∀ c, m.event.begins? = some c → c.Converted
  /-- A handler runs exactly if no call of the same key has been completed since then. -/
  handler : ∀ c key, m.event.begins? = some c → c.key? = some key →
    (m.event = .entered c ↔ ∀ k ∈ completedKeys before, k.same key = false)
  /-- The handler of a function that is not deterministic runs every time. -/
  always : ∀ c, m.event.begins? = some c → c.function.properties.deterministic = false →
    m.event = .entered c
  /-- Only arguments that cannot be converted end a call before. -/
  refused : ∀ f args, m.event = .refused f args → ∃ e, f.convertArguments args = .error e
  /-- Calls that fail, and those of functions that are not deterministic, keep nothing. -/
  nothing : m.event.AddsNothing → next.kept = m.session.kept

theorem Leads.booked {s s' : Session} {before later : List Moment} {m : Moment}
    (h : Leads s (before ++ m :: later) s') (hs : s.kept = []) :
    m.Booked before (later.head?.elim s' Moment.session) := by
  obtain ⟨hbefore, hallows, hlater⟩ := h.split
  have hbooks := hbefore.books hs
  refine ⟨hbooks.length_kept, fun c hc => hallows.converted hc, fun c key hc hkey => ?_,
    fun c hc hnot => ?_, fun f args he => ?_, fun hnothing => ?_⟩
  · rw [hallows.entered_iff hc, ← hbooks.find?_eq_none_iff, hkey]
    simp only [Option.some.injEq, forall_eq']
  · refine (hallows.entered_iff hc).mpr fun key hkey => ?_
    rw [Call.key?_of_not_deterministic hnot] at hkey
    cases hkey
  · rw [he] at hallows
    exact hallows
  · rw [hlater.head_session]
    exact Session.kept_after hnothing

/-- The session that is left of a new one. -/
def Recorded.last (m : Recorded) : Session := (m.eval.runIn {}).2

/-- What is true of a record that starts with a new session, at each moment and at the end. -/
structure Recorded.Booked (m : Recorded) : Prop where
  moments : ∀ before moment later, m.moments {} = before ++ moment :: later →
    moment.Booked before (later.head?.elim m.last Moment.session)
  length : m.last.kept.length = CallKey.different (completedKeys (m.moments {}))
  /-- The handlers that have run are those that were entered. -/
  runs : ∀ f, m.last.runCount f = (m.moments {}).countP fun moment => moment.event.enters f

theorem Recorded.Faithful.booked {m : Recorded} (h : m.Faithful) : m.Booked where
  moments before moment later hsplit := by
    have hleads := h {}
    rw [hsplit] at hleads
    exact hleads.booked rfl
  length := ((h {}).books rfl).length_kept
  runs f := by
    rw [last, (h {}).count_runs f]
    exact Nat.zero_add _

/-- **Bookkeeping.** A client calls functions and clears the session as it likes, and handlers do so
too, in any manner and nested to any depth. At every moment, inside of handlers as well, the session
has as many results as there are different keys of calls completed since it was cleared last. A
handler runs if its function is not deterministic or if no call of the same key is among them. Calls
that fail keep nothing, nor do those of functions that are not deterministic. With handlers that are
scripts, the calls are those of the library. -/
theorem history_booked (env : Environment) (registry : Registry) :
    (∀ (manner : Manner) (depth : Nat) (client : Conduct),
      (client.recorded (recordedCall ⟨env, registry, true⟩ manner depth)).Booked) ∧
    ∀ (f : Function) (args : List Sequence) (focus : Option Focus),
      (recordedCall ⟨env, registry, true⟩ (scripted ⟨env, registry, true⟩) Function.maxDepth
        f args focus).eval = f.call ⟨env, registry, true⟩ args focus := by
  refine ⟨fun manner depth client => ?_, recordedCall_maxDepth ⟨env, registry, true⟩⟩
  exact (client.recorded_faithful (recordedCall_faithful rfl manner depth)).booked

end TreePath
