/-
TreePath.Proofs.Function.Outcome — what an evaluation gives in a session, and what it leaves behind.

`Eval.runIn` runs an evaluation in a session. The laws below take a run apart along the program: a
failure ends it, and what has been put into the session by then stays there.

Two evaluations can be compared although they find and leave different sessions. `Eval.Related` says
that they give the same as long as their sessions are kin, and that they leave kin sessions behind;
`Eval.Agrees` is the case in which only the first session counts. Both are preserved by everything
that evaluations are built from.
-/
import Mathlib.Data.List.Forall2
import TreePath.Function.Call

namespace TreePath.Eval

variable {α β : Type}

/-- What an evaluation gives in a session, and the session afterwards. -/
def runIn (m : Eval α) (s : Session) : Except Error α × Session := (ExceptT.run m).run s

/-! ## Laws -/

@[simp] theorem runIn_pure (a : α) (s : Session) : (pure a : Eval α).runIn s = (.ok a, s) := rfl

@[simp] theorem runIn_throw (e : Error) (s : Session) :
    (throw e : Eval α).runIn s = (.error e, s) := rfl

@[simp] theorem runIn_get (s : Session) : (get : Eval Session).runIn s = (.ok s, s) := rfl

@[simp] theorem runIn_modify (f : Session → Session) (s : Session) :
    (modify f : Eval PUnit).runIn s = (.ok ⟨⟩, f s) := rfl

@[simp] theorem runIn_ofResult (r : Except Error α) (s : Session) :
    (ofResult r).runIn s = (r, s) := by
  cases r <;> rfl

/-- A program that deals with failures itself does not fail. -/
@[simp] theorem runIn_lift (m : StateM Session α) (s : Session) :
    runIn (ExceptT.lift m) s = (.ok (m.run s).1, (m.run s).2) := rfl

theorem runIn_bind (m : Eval α) (k : α → Eval β) (s : Session) :
    (m >>= k).runIn s = match m.runIn s with
      | (.ok a, s') => (k a).runIn s'
      | (.error e, s') => (.error e, s') := by
  rcases h : m.runIn s with ⟨r, s'⟩
  have h' : (ExceptT.run m).run s = (r, s') := h
  simp only [runIn, ExceptT.run_bind, StateT.run_bind, h']
  cases r <;> rfl

theorem runIn_bind_ok {m : Eval α} {k : α → Eval β} {s s' : Session} {a : α}
    (h : m.runIn s = (.ok a, s')) : (m >>= k).runIn s = (k a).runIn s' := by
  rw [runIn_bind, h]

theorem runIn_bind_eq_ok {m : Eval α} {k : α → Eval β} {s s' : Session} {b : β} :
    (m >>= k).runIn s = (.ok b, s') ↔
      ∃ a s₁, m.runIn s = (.ok a, s₁) ∧ (k a).runIn s₁ = (.ok b, s') := by
  rw [runIn_bind]
  rcases m.runIn s with ⟨r, s₁⟩
  cases r with
  | ok a =>
    refine ⟨fun h => ⟨a, s₁, rfl, h⟩, ?_⟩
    rintro ⟨_, _, heq, h⟩
    cases heq
    exact h
  | error e =>
    refine ⟨fun h => (by cases h), ?_⟩
    rintro ⟨_, _, heq, _⟩
    cases heq

theorem runIn_bind_ofResult_eq_ok {r : Except Error α} {k : α → Eval β} {s s' : Session} {b : β} :
    (ofResult r >>= k).runIn s = (.ok b, s') ↔ ∃ a, r = .ok a ∧ (k a).runIn s = (.ok b, s') := by
  rw [runIn_bind, runIn_ofResult]
  cases r with
  | ok a =>
    refine ⟨fun h => ⟨a, rfl, h⟩, ?_⟩
    rintro ⟨_, heq, h⟩
    cases heq
    exact h
  | error e =>
    refine ⟨fun h => (by cases h), ?_⟩
    rintro ⟨_, heq, _⟩
    cases heq

theorem runIn_mapError (f : Error → Error) (m : Eval α) (s : Session) :
    (mapError f m).runIn s = ((m.runIn s).1.mapError f, (m.runIn s).2) := by
  rcases h : m.runIn s with ⟨r, s'⟩
  have h' : (ExceptT.run m).run s = (r, s') := h
  exact congrArg (fun p : Except Error α × Session => (p.1.mapError f, p.2)) h'

/-! ## Lists -/

/-- Evaluations that do not depend on the session, one after another. -/
theorem runIn_mapM {f : α → Eval β} {g : α → Except Error β} :
    ∀ {l : List α} (σ : Session), (∀ a ∈ l, ∀ τ, ((f a).runIn τ).1 = g a) →
      ((l.mapM f).runIn σ).1 = l.mapM g
  | [], _, _ => rfl
  | a :: rest, σ, h => by
      obtain ⟨ha, hrest⟩ := List.forall_mem_cons.mp h
      rw [List.mapM_cons, List.mapM_cons, runIn_bind, ← ha σ]
      rcases (f a).runIn σ with ⟨r, σ₁⟩
      cases r with
      | error e => rfl
      | ok b =>
        rw [← runIn_mapM σ₁ hrest]
        simp only [runIn_bind]
        rcases (rest.mapM f).runIn σ₁ with ⟨r, σ₂⟩
        cases r <;> rfl

theorem mapM_eq_ok_iff {g : α → Except Error β} :
    ∀ {l : List α} {bs : List β}, l.mapM g = .ok bs ↔ List.Forall₂ (fun a b => g a = .ok b) l bs
  | [], bs => by
      rw [List.forall₂_nil_left_iff]
      refine ⟨fun h => ?_, fun h => by rw [h]; rfl⟩
      cases h
      rfl
  | a :: rest, bs => by
      rw [List.mapM_cons, List.forall₂_cons_left_iff]
      cases ha : g a with
      | error e =>
        refine ⟨fun h => (by cases h), ?_⟩
        rintro ⟨b, _, hb, -⟩
        cases hb
      | ok b =>
        constructor
        · intro h
          cases hrest : rest.mapM g with
          | error e => rw [hrest] at h; cases h
          | ok cs =>
            rw [hrest] at h
            cases h
            exact ⟨b, cs, rfl, mapM_eq_ok_iff.mp hrest, rfl⟩
        · rintro ⟨b', cs, hb, hcs, rfl⟩
          cases hb
          rw [mapM_eq_ok_iff.mpr hcs]
          rfl

theorem exists_forall₂ {R : α → β → Prop} :
    ∀ {l : List α}, (∀ a ∈ l, ∃ b, R a b) → ∃ bs, List.Forall₂ R l bs
  | [], _ => ⟨[], .nil⟩
  | a :: rest, h => by
      obtain ⟨⟨b, hb⟩, hrest⟩ := List.forall_mem_cons.mp h
      obtain ⟨bs, hbs⟩ := exists_forall₂ hrest
      exact ⟨b :: bs, .cons hb hbs⟩

theorem exists_of_forall₂_left {R : α → β → Prop} {l : List α} {bs : List β}
    (h : List.Forall₂ R l bs) {a : α} (ha : a ∈ l) : ∃ b ∈ bs, R a b := by
  induction h with
  | nil => exact absurd ha List.not_mem_nil
  | cons hab _ ih =>
    rcases List.mem_cons.mp ha with rfl | ha
    · exact ⟨_, List.mem_cons_self, hab⟩
    · obtain ⟨b, hb, hr⟩ := ih ha
      exact ⟨b, List.mem_cons_of_mem _ hb, hr⟩

/-! ## Comparing evaluations -/

/-- In sessions that are kin both evaluations give the same, their results are as `Q` says, and the
sessions stay kin. -/
def Related (Kin : Session → Session → Prop) (Q : α → Prop) (m m' : Eval α) : Prop :=
  ∀ s s', Kin s s' → (m.runIn s).1 = (m'.runIn s').1 ∧ Kin (m.runIn s).2 (m'.runIn s').2 ∧
    ∀ a, (m.runIn s).1 = .ok a → Q a

/-- In a session that is in order the first evaluation gives what the second one gives in any
session, its results are as `Q` says, and the session stays in order. -/
abbrev Agrees (InOrder : Session → Prop) (Q : α → Prop) (m m' : Eval α) : Prop :=
  Related (fun s _ => InOrder s) Q m m'

namespace Related

variable {Kin : Session → Session → Prop} {Q : α → Prop} {R : β → Prop} {m m' : Eval α}

theorem pure {a : α} (h : Q a) : Related Kin Q (pure a) (pure a) := by
  intro s s' hs
  refine ⟨rfl, hs, fun b hb => ?_⟩
  cases hb
  exact h

theorem throw (e : Error) : Related Kin Q (throw e) (throw e) :=
  fun _ _ hs => ⟨rfl, hs, fun _ hb => by cases hb⟩

theorem ofResult {r : Except Error α} (h : ∀ a, r = .ok a → Q a) :
    Related Kin Q (ofResult r) (ofResult r) := by
  cases r with
  | ok a => exact .pure (h a rfl)
  | error e => exact .throw e

/-- What does not involve the session is related to itself. -/
theorem outcome {r : Except Error α} :
    Related Kin (fun a => r = .ok a) (Eval.ofResult r) (Eval.ofResult r) :=
  .ofResult fun _ h => h

/-- Evaluations that are related stay so if what they do with each result is related. -/
theorem bind {k k' : α → Eval β} (hm : Related Kin Q m m')
    (hk : ∀ a, Q a → Related Kin R (k a) (k' a)) : Related Kin R (m >>= k) (m' >>= k') := by
  intro s s' hs
  obtain ⟨heq, hkin, hq⟩ := hm s s' hs
  rw [runIn_bind, runIn_bind]
  rcases hr : m.runIn s with ⟨r, s₁⟩
  rcases hr' : m'.runIn s' with ⟨r', s₁'⟩
  rw [hr] at heq hkin hq
  rw [hr'] at heq hkin
  cases heq
  cases r with
  | ok a => exact hk a (hq a rfl) s₁ s₁' hkin
  | error e => exact ⟨rfl, hkin, fun _ hb => by cases hb⟩

theorem mapError {f : Error → Error} (h : Related Kin Q m m') :
    Related Kin Q (mapError f m) (mapError f m') := by
  intro s s' hs
  obtain ⟨heq, hkin, hq⟩ := h s s' hs
  rw [runIn_mapError, runIn_mapError, heq]
  refine ⟨rfl, hkin, fun a ha => hq a ?_⟩
  rw [heq]
  cases hr : (m'.runIn s').1 with
  | ok b => rw [hr] at ha; exact ha
  | error e => rw [hr] at ha; cases ha

theorem mono {Q' : α → Prop} (h : Related Kin Q m m') (himp : ∀ a, Q a → Q' a) :
    Related Kin Q' m m' := by
  intro s s' hs
  obtain ⟨heq, hkin, hq⟩ := h s s' hs
  exact ⟨heq, hkin, fun a ha => himp a (hq a ha)⟩

/-- What is true of all results of the first evaluation is true of the results. -/
theorem of_ok {Q' : α → Prop} (h : Related Kin Q m m')
    (hm : ∀ s s' a, m.runIn s = (.ok a, s') → Q' a) : Related Kin Q' m m' := by
  intro s s' hs
  obtain ⟨heq, hkin, -⟩ := h s s' hs
  exact ⟨heq, hkin, fun a ha => hm s _ a (Prod.ext ha rfl)⟩

/-- Evaluations of a list in order are related if those of its elements are. -/
theorem mapM {f f' : α → Eval β} {l : List α} (h : ∀ a ∈ l, Related Kin R (f a) (f' a)) :
    Related Kin (fun bs => ∀ b ∈ bs, R b) (l.mapM f) (l.mapM f') := by
  induction l with
  | nil => exact .pure fun _ hb => absurd hb List.not_mem_nil
  | cons a rest ih =>
    rw [List.mapM_cons, List.mapM_cons]
    refine .bind (h a List.mem_cons_self) fun b hb => ?_
    refine .bind (ih fun c hc => h c (List.mem_cons_of_mem a hc)) fun bs hbs => .pure ?_
    exact List.forall_mem_cons.mpr ⟨hb, hbs⟩

end Related

end TreePath.Eval

namespace TreePath.Session

variable {α β : Type} {InOrder : Session → Prop} {Q : α → Prop} {R : β → Prop}

/-! ## Comparing programs -/

/-- The same for programs that deal with failures themselves. -/
def Agrees (InOrder : Session → Prop) (Q : α → Prop) (m m' : StateM Session α) : Prop :=
  ∀ s s', InOrder s → (m.run s).1 = (m'.run s').1 ∧ InOrder (m.run s).2 ∧ Q (m.run s).1

/-- The second part of a program runs in the session that the first part leaves. -/
theorem run_bind (m : StateM Session α) (k : α → StateM Session β) (s : Session) :
    (m >>= k).run s = (k (m.run s).1).run (m.run s).2 := rfl

theorem Agrees.pure {a : α} (h : Q a) : Agrees InOrder Q (pure a) (pure a) :=
  fun _ _ hs => ⟨rfl, hs, h⟩

theorem Agrees.bind {m m' : StateM Session α} {k k' : α → StateM Session β}
    (hm : Agrees InOrder Q m m') (hk : ∀ a, Q a → Agrees InOrder R (k a) (k' a)) :
    Agrees InOrder R (m >>= k) (m' >>= k') := by
  intro s s' hs
  obtain ⟨heq, horder, hq⟩ := hm s s' hs
  rw [StateT.run_bind, StateT.run_bind]
  rcases hr : m.run s with ⟨a, s₁⟩
  rcases hr' : m'.run s' with ⟨a', s₁'⟩
  rw [hr] at heq horder hq
  rw [hr'] at heq
  cases heq
  exact hk a hq s₁ s₁' horder

/-- An evaluation whose failure is dealt with. -/
theorem Agrees.ofEval {m m' : Eval α} (h : Eval.Agrees InOrder Q m m') :
    Agrees InOrder (fun r => ∀ a, r = .ok a → Q a) m.run m'.run := h

/-- A program as a part of an evaluation. -/
theorem Agrees.lift {m m' : StateM Session α} (h : Agrees InOrder Q m m') :
    Eval.Agrees InOrder Q (ExceptT.lift m) (ExceptT.lift m') := by
  intro s s' hs
  obtain ⟨heq, horder, hq⟩ := h s s' hs
  refine ⟨congrArg Except.ok heq, horder, fun a ha => ?_⟩
  cases ha
  exact hq

end TreePath.Session
