/-
TreePath.Proofs.Constraint.Aborting — a validation that ends with the first failure.

Failures are met at the checks and once more when references are resolved. Either part is the same
whether failures are collected or end it, up to the first failure (`StopsAtFirst`). So a validation
that collects failures always gives a report, and one that does not gives the same report, or else
the first failure in it (`Attachments.validate_aborting`).
-/
import TreePath.Proofs.Constraint.Report

namespace TreePath

open Eval

namespace Validation

/-! ## Ending with the first failure -/

/-- Of two runs that meet failures, the second is the first one, ended by the first failure. -/
structure StopsAtFirst {α : Type} (errors : α → List Error) (collecting aborting : α × Session) :
    Prop where
  same : errors collecting.1 = [] → aborting = collecting
  first : ∀ e rest, errors collecting.1 = e :: rest → ∃ rest', errors aborting.1 = e :: rest'

namespace StopsAtFirst

variable {α β : Type} {errors : α → List Error} {collecting aborting : α × Session}

theorem refl (run : α × Session) : StopsAtFirst errors run run where
  same _ := rfl
  first _ rest h := ⟨rest, h⟩

/-- The second run ends here. -/
theorem stop {e : Error} {rest rest' : List Error} (h : errors collecting.1 = e :: rest)
    (h' : errors aborting.1 = e :: rest') : StopsAtFirst errors collecting aborting where
  same hnil := by rw [h] at hnil; cases hnil
  first e' rest₁ hfirst := by rw [h] at hfirst; cases hfirst; exact ⟨rest', h'⟩

/-- Both runs go on alike. -/
theorem map (h : StopsAtFirst errors collecting aborting) (errors' : β → List Error) (f : α → β)
    (hf : ∀ x, errors' (f x) = errors x) :
    StopsAtFirst errors' (f collecting.1, collecting.2) (f aborting.1, aborting.2) where
  same hnil := by rw [h.same ((hf _).symm.trans hnil)]
  first e rest hfirst := by
    obtain ⟨rest', h'⟩ := h.first e rest ((hf _).symm.trans hfirst)
    exact ⟨rest', (hf _).trans h'⟩

end StopsAtFirst

/-! ## The parts of a validation -/

/-- A walk ends with the first check that fails. -/
theorem observeAll_stopsAtFirst (ctx : Context) (checks : List (Node × Constraint)) (σ : Session) :
    StopsAtFirst Trace.errors ((observeAll ctx false checks).run σ)
      ((observeAll ctx true checks).run σ) := by
  induction checks generalizing σ with
  | nil => exact .refl _
  | cons p rest ih =>
    obtain ⟨n, c⟩ := p
    rw [run_observeAll_cons, run_observeAll_cons]
    rcases (c.observe ctx n).run σ with ⟨⟨here, failure⟩, σ₁⟩
    cases failure with
    | some e => exact .stop rfl rfl
    | none =>
      exact (ih σ₁).map Trace.errors (fun t => ⟨here ++ t.observations, t.errors⟩) fun _ => rfl

/-- Resolving references ends with the first message that cannot be written. -/
theorem resolve_stopsAtFirst (ctx : Context) (keys : SeenKeys) (os : List Observation)
    (σ : Session) :
    StopsAtFirst Report.errors ((resolve ctx false keys os).run σ)
      ((resolve ctx true keys os).run σ) := by
  induction os generalizing σ with
  | nil => exact .refl _
  | cons o rest ih =>
    cases hmissing : missing? keys o with
    | none =>
      rw [resolve_cons_of_none hmissing, resolve_cons_of_none hmissing]
      exact ih σ
    | some k =>
      rw [run_resolve_cons hmissing, run_resolve_cons hmissing]
      rcases (missingMessage ctx o k.1 k.2).runIn σ with ⟨r, σ₁⟩
      cases r with
      | error e => exact .stop rfl rfl
      | ok message =>
        exact (ih σ₁).map Report.errors (fun r => ⟨o.finding message :: r.findings, r.errors⟩)
          fun _ => rfl

end Validation

/-! ## Validation -/

open Validation in
/-- **Aborting and collecting agree.** A validation that collects failures always gives a report.
One that ends with the first failure gives the same report if there are no failures in it, and
otherwise fails with the first of them. -/
theorem Attachments.validate_aborting (a : Attachments) (level : Level) (ctx : Context)
    (document : Node) (σ : Session) :
    ∃ r σ', (a.validate ⟨false, level⟩ ctx document).runIn σ = (.ok r, σ') ∧
      match r.errors with
      | [] => (a.validate ⟨true, level⟩ ctx document).runIn σ = (.ok r, σ')
      | e :: _ => ((a.validate ⟨true, level⟩ ctx document).runIn σ).1 = .error e := by
  rw [run_validate, run_validate]
  refine ⟨_, _, rfl, ?_⟩
  -- the two walks make the same checks, whether failures end them or not
  have hwalk := observeAll_stopsAtFirst ctx (checks a ⟨true, level⟩ document) σ
  rw [show checks a ⟨false, level⟩ document = checks a ⟨true, level⟩ document from rfl]
  rcases hcollected : (observeAll ctx false (checks a ⟨true, level⟩ document)).run σ
    with ⟨⟨os, errors⟩, σ₁⟩
  rw [hcollected] at hwalk
  cases errors with
  | cons e rest =>
    obtain ⟨rest', herrors⟩ := hwalk.first e rest rfl
    simp only [herrors, List.cons_append]
  | nil =>
    have hresolve := resolve_stopsAtFirst ctx (account [] os).2 os σ₁
    simp only [hwalk.same rfl, List.nil_append]
    rcases hresolved : (resolve ctx false (account [] os).2 os).run σ₁ with ⟨⟨found, errors⟩, σ₂⟩
    rw [hresolved] at hresolve
    cases errors with
    | cons e rest =>
      obtain ⟨rest', herrors⟩ := hresolve.first e rest rfl
      simp only [herrors]
    | nil => simp only [hresolve.same rfl]

end TreePath
