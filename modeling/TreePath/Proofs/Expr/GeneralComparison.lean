/-
TreePath.Proofs.Expr.GeneralComparison — a general comparison and its mirror image.

A general comparison looks for a pair of values, one from each operand, and stops at the first that
it finds. Where no pair fails, stopping makes no difference: it is true exactly if there is such a
pair (`Eval.anyCompare_eq`). So the operands can be swapped, if the comparison is turned around with
them (`Expr.comparison_laws`). The operands are then evaluated the other way round too, which makes
no difference either where evaluations do not depend on what the session has kept.
-/
import TreePath.Proofs.Atomic.Comparing
import TreePath.Proofs.Session.Agreement

namespace TreePath

open Eval

/-! ## Pairs of values -/

namespace Eval

variable {op : Comparison} {f : AtomicValue → AtomicValue → Bool} {left right : List AtomicValue}

theorem compareOne_eq {a : AtomicValue} (h : ∀ b ∈ right, a.compareWith op b = .ok (f a b)) :
    anyCompare.compareOne op a right = .ok (right.any (f a)) := by
  induction right with
  | nil => rfl
  | cons b rest ih =>
    obtain ⟨hb, hrest⟩ := List.forall_mem_cons.mp h
    rw [anyCompare.compareOne, hb, List.any_cons]
    cases f a b with
    | true => rfl
    | false => exact ih hrest

/-- If no pair fails, a general comparison asks whether there is a pair that compares so. -/
theorem anyCompare_eq (h : ∀ a ∈ left, ∀ b ∈ right, a.compareWith op b = .ok (f a b)) :
    anyCompare op right left = .ok (left.any fun a => right.any (f a)) := by
  induction left with
  | nil => rfl
  | cons a rest ih =>
    obtain ⟨ha, hrest⟩ := List.forall_mem_cons.mp h
    rw [anyCompare, compareOne_eq ha, List.any_cons]
    cases right.any (f a) with
    | true => rfl
    | false => exact ih hrest

/-- It does not matter from which side pairs are looked for. -/
theorem any_any_swap {α β : Type} (f : α → β → Bool) (l : List α) (m : List β) :
    (m.any fun b => l.any fun a => f a b) = l.any fun a => m.any (f a) := by
  rw [Bool.eq_iff_iff]
  simp only [List.any_eq_true]
  constructor
  · rintro ⟨b, hb, a, ha, h⟩
    exact ⟨a, ha, b, hb, h⟩
  · rintro ⟨a, ha, b, hb, h⟩
    exact ⟨b, hb, a, ha, h⟩

/-- **A general comparison of values is the mirrored one of the values swapped**, if no pair
fails. -/
theorem anyCompare_mirror (h : ∀ a ∈ left, ∀ b ∈ right, ∃ x, a.compareWith op b = .ok x) :
    ∃ x, anyCompare op right left = .ok x ∧ anyCompare op.mirror left right = .ok x := by
  let answer (a b : AtomicValue) : Bool := (a.compareWith op b).toOption.getD false
  have hforth : ∀ a ∈ left, ∀ b ∈ right, a.compareWith op b = .ok (answer a b) := by
    intro a ha b hb
    obtain ⟨x, hx⟩ := h a ha b hb
    simp only [answer, hx]
    rfl
  have hback : ∀ b ∈ right, ∀ a ∈ left, b.compareWith op.mirror a = .ok (answer a b) :=
    fun b hb a ha => AtomicValue.compareWith_mirror (hforth a ha b hb)
  refine ⟨_, anyCompare_eq hforth, ?_⟩
  rw [anyCompare_eq (f := fun b a => answer a b) hback, any_any_swap]

end Eval

/-! ## Operands -/

namespace Expr

variable {ctx : Context} {s : Scope} {left right : Expr} {σ σ₁ σ₂ τ τ₁ τ₂ : Session}
  {values others : List AtomicValue}

/-- In the session the expression gives a sequence with these values, and leaves the other
session. -/
def Yields (ctx : Context) (s : Scope) (e : Expr) (σ : Session) (values : List AtomicValue)
    (σ' : Session) : Prop :=
  ∃ q, (e.eval ctx s).runIn σ = (.ok q, σ') ∧ q.atomize = .ok values

theorem runIn_generalComparison (op : Comparison) (hleft : left.Yields ctx s σ values σ₁)
    (hright : right.Yields ctx s σ₁ others σ₂) :
    ((generalComparison op left right).eval ctx s).runIn σ
      = ((anyCompare op others values).map Sequence.ofBool, σ₂) := by
  obtain ⟨q, hq, hvalues⟩ := hleft
  obtain ⟨q', hq', hothers⟩ := hright
  rw [eval, runIn_bind_ok hq, runIn_bind_ok (a := values) (by rw [hvalues]; rfl),
    runIn_bind_ok hq', runIn_bind_ok (a := others) (by rw [hothers]; rfl), runIn_bind,
    runIn_ofResult]
  cases anyCompare op others values <;> rfl

/-- Where evaluations do not depend on what is kept, an expression yields its values in every
session. -/
theorem Yields.again {P : Item → Prop} {InOrder : Session → Prop} {e : Expr}
    (hctx : ctx.Steady P InOrder) (hs : s.Known P) (hlit : ∀ v ∈ e.literals, P (.atomic v))
    (h : e.Yields ctx s σ values σ₁) (hσ : InOrder σ) (hτ : InOrder τ) :
    InOrder σ₁ ∧ ∃ τ₁, InOrder τ₁ ∧ e.Yields ctx s τ values τ₁ := by
  obtain ⟨q, hq, hvalues⟩ := h
  have hagrees := e.eval_agrees hctx s hs hlit
  obtain ⟨hsame, hσ₁, -⟩ := hagrees σ σ hσ
  obtain ⟨hsame', hτ₁, -⟩ := hagrees τ σ hτ
  rw [hq] at hsame hσ₁
  exact ⟨hσ₁, _, hτ₁, q, Prod.ext (hsame'.trans hsame.symm) rfl, hvalues⟩

/-- **Comparisons can be turned around.** For every two values there are two cases: either each of
the six comparisons fails on them in both orders, all with one code; or exactly one of less, equal
and greater holds of them, the other three comparisons are the opposites of these, and each
comparison is the mirrored one of the values swapped. So if no pair of values of two operands fails,
a general comparison of them gives the truth value that the mirrored one gives of the operands
swapped. The operands are to have the same values in the order in which they are then evaluated; and
they do where evaluations do not depend on what the session has kept. -/
theorem comparison_laws :
    (∀ a b : AtomicValue,
      (∃ code, ∀ op, (∃ e, a.compareWith op b = .error e ∧ e.code = code) ∧
          ∃ e, b.compareWith op a = .error e ∧ e.code = code) ∨
        ∃ answer, Comparison.Coherent answer ∧ ∀ op, a.compareWith op b = .ok (answer op) ∧
          b.compareWith op.mirror a = .ok (answer op)) ∧
    ∀ (ctx : Context) (s : Scope) (op : Comparison) (left right : Expr)
      (values others : List AtomicValue) (σ σ₁ σ₂ : Session),
      left.Yields ctx s σ values σ₁ → right.Yields ctx s σ₁ others σ₂ →
      (∀ a ∈ values, ∀ b ∈ others, ∃ x, a.compareWith op b = .ok x) →
      ∃ x, ((generalComparison op left right).eval ctx s).runIn σ = (.ok (.ofBool x), σ₂) ∧
        (∀ τ τ₁ τ₂, right.Yields ctx s τ others τ₁ → left.Yields ctx s τ₁ values τ₂ →
          ((generalComparison op.mirror right left).eval ctx s).runIn τ = (.ok (.ofBool x), τ₂)) ∧
        ∀ P InOrder, ctx.Steady P InOrder → s.Known P →
          (∀ v ∈ left.literals ++ right.literals, P (.atomic v)) → InOrder σ →
          ∀ τ, InOrder τ → (((generalComparison op.mirror right left).eval ctx s).runIn τ).1
            = .ok (.ofBool x) := by
  refine ⟨AtomicValue.compareWith_laws, ?_⟩
  intro ctx s op left right values others σ σ₁ σ₂ hleft hright hcompare
  obtain ⟨x, hforth, hback⟩ := anyCompare_mirror hcompare
  have hswapped : ∀ τ τ₁ τ₂, right.Yields ctx s τ others τ₁ → left.Yields ctx s τ₁ values τ₂ →
      ((generalComparison op.mirror right left).eval ctx s).runIn τ = (.ok (.ofBool x), τ₂) := by
    intro τ τ₁ τ₂ hright' hleft'
    rw [runIn_generalComparison op.mirror hright' hleft', hback]
    rfl
  refine ⟨x, ?_, hswapped, ?_⟩
  · rw [runIn_generalComparison op hleft hright, hforth]
    rfl
  · intro P InOrder hctx hs hlit hσ τ hτ
    obtain ⟨hlitLeft, hlitRight⟩ := List.forall_mem_append.mp hlit
    -- the operands again, from the other side
    obtain ⟨hσ₁, -⟩ := hleft.again hctx hs hlitLeft hσ hσ
    obtain ⟨-, τ₁, hτ₁, hright'⟩ := hright.again hctx hs hlitRight hσ₁ hτ
    obtain ⟨-, τ₂, -, hleft'⟩ := hleft.again hctx hs hlitLeft hσ hτ₁
    rw [hswapped τ τ₁ τ₂ hright' hleft']

end Expr

/-! Texts beside a number: they are cast to numbers, on whichever side they stand. -/

namespace Comparison.Sample

/-- `("10", "7")` -/
def numerals : Expr := .sequence [.literal (.string "10"), .literal (.string "7")]

/-- `9` -/
def nine : Expr := .literal (.integer 9)

/-- A context in which nothing is kept. -/
def forgetful : Context := ⟨{ now := (⟨.first, .midnight⟩, .utc) }, Library.registry, false⟩

theorem numerals_yields (σ : Session) :
    numerals.Yields forgetful {} σ [.string "10", .string "7"] σ := ⟨_, rfl, rfl⟩

theorem nine_yields (σ : Session) : nine.Yields forgetful {} σ [.integer 9] σ := ⟨_, rfl, rfl⟩

end Comparison.Sample

open Comparison.Sample in
/-- One of the texts is less than nine as a number, but none of them is as a text. So in every
session nine is greater than one of the texts. -/
theorem Expr.comparison_laws_of_numerals :
    (AtomicValue.string "7").compareWith .lt (.integer 9) = .ok true ∧
      ((Expr.generalComparison .lt numerals nine).eval forgetful {}).runIn {}
        = (.ok (.ofBool true), {}) ∧
      ∀ τ, (((Expr.generalComparison .gt nine numerals).eval forgetful {}).runIn τ).1
        = .ok (.ofBool true) := by
  have hten : (AtomicValue.string "10").compareWith .lt (.integer 9) = .ok false := by rfl
  have hseven : (AtomicValue.string "7").compareWith .lt (.integer 9) = .ok true := by rfl
  have hanswer : anyCompare .lt [.integer 9] [.string "10", .string "7"] = .ok true := by
    simp only [anyCompare, anyCompare.compareOne, hten, hseven]
    rfl
  have hx : ((Expr.generalComparison .lt numerals nine).eval forgetful {}).runIn {}
      = (.ok (.ofBool true), {}) := by
    rw [Expr.runIn_generalComparison .lt (numerals_yields {}) (nine_yields {}), hanswer]
    rfl
  obtain ⟨x, hforth, -, hback⟩ := Expr.comparison_laws.2 forgetful {} .lt numerals nine _ _ {} {} {}
    (numerals_yields {}) (nine_yields {}) (by simp [hten, hseven])
  rw [hx] at hforth
  obtain rfl : true = x := by
    cases x
    · cases hforth
    · rfl
  refine ⟨hseven, hx, fun τ => ?_⟩
  exact hback _ _ (Context.steady_of_uncached rfl)
    ⟨fun _ _ _ _ => trivial, fun _ _ => trivial⟩ (fun _ _ => trivial) trivial τ trivial

end TreePath
