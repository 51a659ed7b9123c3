/-
TreePath.Proofs.Atomic.Comparing — the six comparisons are about one order, from both sides.

Two values are brought to one primitive type before they are compared, and that is done unevenly: a
text beside a number is cast, two texts of different kinds are read as plain ones. Turning the pair
around turns the promoted pair around (`promote_swap`) and so the order of its values, and a pair
that fails one way round fails the other way round with the same code (`compared_mirrored`). What
the comparisons say about a pair is read off that order (`compareWith_laws`).
-/
import TreePath.Atomic.Comparison
import TreePath.Proofs.Atomic.Preorder

namespace TreePath

/-! ## Comparisons and orders -/

namespace Comparison

/-- The comparison that says the same about a pair turned around. -/
def mirror : Comparison → Comparison
  | eq => eq
  | ne => ne
  | lt => gt
  | le => ge
  | gt => lt
  | ge => le

@[simp] theorem holds_mirror_swap (op : Comparison) (o : Ordering) :
    op.mirror.holds o.swap = op.holds o := by
  cases op <;> cases o <;> rfl

/-- The answers to the six comparisons fit together: one of less, equal and greater is true, and the
other three are their opposites. -/
structure Coherent (answer : Comparison → Bool) : Prop where
  exactly_one : ∃! op, op ∈ [lt, eq, gt] ∧ answer op = true
  ne_eq : answer ne = !answer eq
  le_eq : answer le = !answer gt
  ge_eq : answer ge = !answer lt

/-- The one of less, equal and greater that holds of an order. -/
def exact : Ordering → Comparison
  | .lt => lt
  | .eq => eq
  | .gt => gt

theorem exact_mem (o : Ordering) : exact o ∈ [lt, eq, gt] := by
  cases o <;> decide

theorem holds_iff_eq_exact {op : Comparison} (h : op ∈ [lt, eq, gt]) {o : Ordering} :
    op.holds o = true ↔ op = exact o := by
  revert op
  cases o <;> decide

/-- The answers that an order gives fit together. -/
theorem coherent_holds (o : Ordering) : Coherent (·.holds o) where
  exactly_one :=
    ⟨exact o, ⟨exact_mem o, (holds_iff_eq_exact (exact_mem o)).mpr rfl⟩,
      fun _ ⟨hmem, hholds⟩ => (holds_iff_eq_exact hmem).mp hholds⟩
  ne_eq := rfl
  le_eq := rfl
  ge_eq := rfl

end Comparison

namespace AtomicValue

variable {a b : AtomicValue} {op : Comparison}

/-! ## Turning a pair around -/

/-- The order of two values once they are brought to one primitive type. -/
def compared (a b : AtomicValue) : Except Error Ordering := do
  let (a, b) ← promote a b
  a.compare b

theorem compareWith_eq (op : Comparison) (a b : AtomicValue) :
    a.compareWith op b = (compared a b).map op.holds := by
  rw [compareWith, compared]
  cases promote a b with
  | error e => rfl
  | ok pair => cases pair.1.compare pair.2 <;> rfl

/-- The two branches for a text and a value of another kind are each other's mirror images. -/
theorem promote_swap (a b : AtomicValue) : promote b a = (promote a b).map Prod.swap := by
  rw [promote, promote]
  by_cases h : a.type.primitive = b.type.primitive
  · simp [h, Except.map]
  · simp only [h, Ne.symm h, if_false]
    cases isTextual a.type.primitive <;> cases isTextual b.type.primitive
    case false.true => cases b.cast a.type.primitive <;> rfl
    case true.false => cases a.cast b.type.primitive <;> rfl
    all_goals rfl

/-- What turning a pair around does to the outcome of a comparison: the order is turned around, and
an error stays one of the same code. -/
inductive Mirrored : Except Error Ordering → Except Error Ordering → Prop where
  | order (o : Ordering) : Mirrored (.ok o) (.ok o.swap)
  | error {e e' : Error} (code_eq : e.code = e'.code) : Mirrored (.error e) (.error e')

theorem compare_mirrored (a b : AtomicValue) : Mirrored (a.compare b) (b.compare a) := by
  by_cases h : a.type.primitive = b.type.primitive
  · obtain ⟨s, hs⟩ := exists_scale_of_two h
    rw [compare_eq_ok h, compare_eq_ok h.symm, hs.swap]
    exact .order _
  · rw [compare, compare, if_neg h, if_neg (Ne.symm h)]
    exact .error rfl

theorem compared_mirrored (a b : AtomicValue) : Mirrored (compared a b) (compared b a) := by
  rw [compared, compared, promote_swap a b]
  cases promote a b with
  | error e => exact .error rfl
  | ok pair => exact compare_mirrored pair.1 pair.2

/-- **Comparisons obey the laws of an order.** For a pair of values there are two cases. Either all
six comparisons fail on it and on the pair turned around, with one code; or their answers fit
together, and each comparison says of the pair what its mirror image says of the pair turned
around. -/
theorem compareWith_laws (a b : AtomicValue) :
    (∃ code, ∀ op, (∃ e, a.compareWith op b = .error e ∧ e.code = code) ∧
        ∃ e, b.compareWith op a = .error e ∧ e.code = code) ∨
      ∃ answer, Comparison.Coherent answer ∧ ∀ op, a.compareWith op b = .ok (answer op) ∧
        b.compareWith op.mirror a = .ok (answer op) := by
  simp only [compareWith_eq]
  have h := compared_mirrored a b
  generalize compared a b = forth at h
  generalize compared b a = back at h
  cases h with
  | error hcode => exact .inl ⟨_, fun op => ⟨⟨_, rfl, rfl⟩, _, rfl, hcode.symm⟩⟩
  | order o =>
    refine .inr ⟨(·.holds o), Comparison.coherent_holds o, fun op => ⟨rfl, ?_⟩⟩
    exact congrArg Except.ok (op.holds_mirror_swap o)

/-- A comparison that gives an answer gives the same turned around. -/
theorem compareWith_mirror {x : Bool} (h : a.compareWith op b = .ok x) :
    b.compareWith op.mirror a = .ok x := by
  rcases compareWith_laws a b with ⟨code, hfails⟩ | ⟨answer, -, hanswers⟩
  · obtain ⟨⟨e, he, -⟩, -⟩ := hfails op
    rw [h] at he
    cases he
  · obtain ⟨hforth, hback⟩ := hanswers op
    rw [hback, ← hforth, h]

end AtomicValue

end TreePath
