/-
TreePath.Proofs.Function.Safe — failures that are no fault of a function.

A call fails for the number of its arguments if nothing can be done with them, and for a fault of a
handler if what the handler does is not what its signature says. All other failures are ordinary:
values that cannot be cast, compared or added up, patterns that cannot be read, and so on. An
outcome is `Safe` if it is a value with some property or an ordinary failure. Whatever handlers are
written with gives safe outcomes, and so does the conversion of an accepted number of arguments.
-/
import TreePath.Proofs.Atomic.Casting
import TreePath.Proofs.Function.Conversion
import TreePath.Regex.Compile

namespace TreePath

/-! ## Safe outcomes -/

/-- The failure is not about the number of arguments, and not the fault of a handler. -/
def ErrorCode.Ordinary (code : ErrorCode) : Prop :=
  code ≠ .unknownFunction ∧ code ≠ .functionFailure

instance (code : ErrorCode) : Decidable code.Ordinary := inferInstanceAs (Decidable (_ ∧ _))

/-- The outcome is a value with a property, or an ordinary failure. -/
def Safe {α : Type} (Q : α → Prop) (r : Except Error α) : Prop :=
  match r with
  | .ok a => Q a
  | .error e => e.code.Ordinary

namespace Safe

variable {α β : Type} {Q Q' : α → Prop} {R : β → Prop} {r : Except Error α}

theorem error {code : ErrorCode} {message : String} {function : Option String}
    (h : code.Ordinary) : Safe Q (.error ⟨code, message, function⟩) := h

theorem bind {k : α → Except Error β} (hr : Safe Q r) (hk : ∀ a, Q a → Safe R (k a)) :
    Safe R (r >>= k) := by
  cases r with
  | error e => exact hr
  | ok a => exact hk a hr

theorem map {f : α → β} (hr : Safe Q r) (hf : ∀ a, Q a → R (f a)) : Safe R (r.map f) := by
  cases r with
  | error e => exact hr
  | ok a => exact hf a hr

theorem mono (hr : Safe Q r) (h : ∀ a, Q a → Q' a) : Safe Q' r := by
  cases r with
  | error e => exact hr
  | ok a => exact h a hr

theorem mapM {f : α → Except Error β} {l : List α} (h : ∀ a ∈ l, Safe R (f a)) :
    Safe (fun bs => ∀ b ∈ bs, R b) (l.mapM f) := by
  induction l with
  | nil => exact fun b hb => absurd hb List.not_mem_nil
  | cons a l ih =>
    obtain ⟨ha, hl⟩ := List.forall_mem_cons.mp h
    rw [List.mapM_cons]
    refine ha.bind fun b hb => (ih hl).bind fun bs hbs => ?_
    exact List.forall_mem_cons.mpr ⟨hb, hbs⟩

theorem foldlM {f : β → α → Except Error β} {l : List α} {b : β} (hb : R b)
    (h : ∀ b a, R b → Safe R (f b a)) : Safe R (l.foldlM f b) := by
  induction l generalizing b with
  | nil => exact hb
  | cons a l ih =>
    rw [List.foldlM_cons]
    exact (h b a hb).bind fun b' hb' => ih hb'

end Safe

/-! ## Values -/

namespace AtomicValue

variable {v w : AtomicValue}

theorem safe_truth (v : AtomicValue) : Safe (fun _ => True) v.truth := by
  rw [truth.eq_def]
  split
  · trivial
  · trivial
  · trivial
  · trivial
  · trivial
  · split
    · trivial
    · exact .error (by decide)

theorem safe_orOverflow {α : Type} (o : Option α) : Safe (fun _ => True) (orOverflow o) := by
  cases o with
  | none => exact .error (by decide)
  | some a => trivial

theorem safe_notNumeric {α : Type} {Q : α → Prop} (v : AtomicValue) :
    Safe Q (.error v.notNumeric) :=
  .error (by decide)

theorem safe_integerResult (i : Int) : Safe (fun v => v.isNumeric = true) (integerResult i) :=
  (safe_orOverflow _).map fun _ _ => rfl

theorem safe_toDecimal (v : AtomicValue) : Safe (fun _ => True) v.toDecimal := by
  unfold toDecimal
  cases v.decimal? with
  | none => exact v.safe_notNumeric
  | some d => trivial

theorem safe_toInteger (v : AtomicValue) : Safe (fun _ => True) v.toInteger := by
  rw [toInteger.eq_def]
  split
  · exact safe_orOverflow _
  · cases v.integer? with
    | none => exact v.safe_notNumeric
    | some i => trivial

theorem safe_abs (v : AtomicValue) : Safe (fun w => w.isNumeric = true) v.abs := by
  rw [abs.eq_def]
  split
  · exact rfl
  · exact safe_integerResult _
  · exact rfl
  · exact rfl
  · exact v.safe_notNumeric

theorem safe_ceiling (v : AtomicValue) : Safe (fun w => w.isNumeric = true) v.ceiling := by
  rw [ceiling.eq_def]
  split
  · exact rfl
  · split
    · assumption
    · exact v.safe_notNumeric

theorem safe_floor (v : AtomicValue) : Safe (fun w => w.isNumeric = true) v.floor := by
  rw [floor.eq_def]
  split
  · exact rfl
  · split
    · assumption
    · exact v.safe_notNumeric

theorem safe_roundDecimal (d : Decimal) (k : Nat) : Safe (fun _ => True) (roundDecimal d k) := by
  unfold roundDecimal
  split
  · trivial
  · exact (safe_orOverflow _).map fun _ _ => trivial

theorem safe_roundInteger (i : Int64) (k : Nat) : Safe (fun _ => True) (roundInteger i k) := by
  unfold roundInteger
  split
  · trivial
  · exact safe_orOverflow _

theorem isNumeric_of_integer? {i : Int64} (h : v.integer? = some i) : v.isNumeric = true := by
  cases v <;> first | rfl | cases h

theorem safe_roundTo (v : AtomicValue) (precision : Int64) :
    Safe (fun w => w.isNumeric = true) (v.roundTo precision) := by
  rw [roundTo.eq_def]
  simp only
  split
  · split
    · exact rfl
    · exact (safe_roundDecimal _ _).map fun _ _ => rfl
  · cases hi : v.integer? with
    | none => exact v.safe_notNumeric
    | some i =>
      simp only
      split
      · exact isNumeric_of_integer? hi
      · refine (safe_roundInteger _ _).map fun r _ => ?_
        split
        · rfl
        · split <;> rfl
        · rfl

theorem safe_integerArithmetic (op : Arithmetic) (i j : Int64) :
    Safe (fun w => w.isNumeric = true) (integerArithmetic op i j) := by
  cases op <;> unfold integerArithmetic <;> simp only
  case add | sub | mul => exact safe_integerResult _
  case idiv =>
    split
    · exact .error (by decide)
    · exact safe_integerResult _
  case mod =>
    split
    · exact .error (by decide)
    · split
      · exact .error (by decide)
      · exact safe_integerResult _
  case div =>
    split
    · exact .error (by decide)
    · exact (safe_orOverflow _).map fun _ _ => rfl

theorem safe_decimalArithmetic (op : Arithmetic) (x y : Decimal) :
    Safe (fun w => w.isNumeric = true) (decimalArithmetic op x y) := by
  cases op <;> unfold decimalArithmetic <;> simp only
  case add | sub | mul => exact (safe_orOverflow _).map fun _ _ => rfl
  case div | mod =>
    split
    · exact .error (by decide)
    · exact (safe_orOverflow _).map fun _ _ => rfl
  case idiv =>
    split
    · exact .error (by decide)
    · exact (safe_orOverflow _).bind fun _ _ => safe_integerResult _

theorem safe_arithmetic (op : Arithmetic) (v w : AtomicValue) :
    Safe (fun u => u.isNumeric = true) (arithmetic op v w) := by
  unfold arithmetic
  split
  · exact v.safe_notNumeric
  · exact w.safe_notNumeric
  · split
    · exact safe_integerArithmetic _ _ _
    · exact safe_decimalArithmetic _ _ _

theorem safe_compare (v w : AtomicValue) : Safe (fun _ => True) (v.compare w) := by
  unfold compare
  split
  · trivial
  · exact .error (by decide)

theorem safe_cast (v : AtomicValue) (t : Datatype) : Safe (fun _ => True) (v.cast t) := by
  cases h : v.cast t with
  | ok w => trivial
  | error e =>
    rcases code_of_cast h with hcode | hcode
    · show e.code.Ordinary
      rw [hcode]
      decide
    · show e.code.Ordinary
      rw [hcode]
      decide

/-- Every value is of the topmost type. -/
@[simp] theorem isInstanceOf_anyAtomic (v : AtomicValue) : v.isInstanceOf .anyAtomic = true := by
  cases v <;> rfl

end AtomicValue

/-! ## Items and arguments -/

theorem Node.safe_typedValue (n : Node) : Safe (fun _ => True) n.typedValue := by
  unfold typedValue
  split
  · exact .error (by decide)
  · split
    · trivial
    · exact (AtomicValue.safe_cast _ _).map fun _ _ => trivial

theorem Item.safe_atomize (i : Item) : Safe (fun _ => True) i.atomize := by
  cases i with
  | node n => exact n.safe_typedValue
  | atomic v => trivial

theorem Sequence.safe_atomize (s : Sequence) : Safe (fun _ => True) (Sequence.atomize s) :=
  (Safe.mapM fun i _ => i.safe_atomize).bind fun _ _ => trivial

theorem Sequence.safe_truth (s : Sequence) : Safe (fun _ => True) (Sequence.truth s) := by
  rw [truth.eq_def]
  split
  · trivial
  · trivial
  · exact AtomicValue.safe_truth _
  · exact .error (by decide)

theorem SequenceType.safe_checkCount (t : SequenceType) (n : Nat) :
    Safe (fun _ => True) (t.checkCount n) := by
  unfold checkCount
  split
  · trivial
  · exact .error (by decide)

theorem SequenceType.safe_checkItems (t : SequenceType) (s : Sequence) :
    Safe (fun _ => True) (t.checkItems s) := by
  unfold checkItems
  split
  · trivial
  · exact .error (by decide)

theorem SequenceType.safe_convert (t : SequenceType) (s : Sequence) :
    Safe (fun _ => True) (t.convert s) := by
  unfold convert
  refine (t.safe_checkCount _).bind fun _ _ => ?_
  split
  · refine (Sequence.safe_atomize s).bind fun values _ => ?_
    exact (t.safe_checkCount _).bind fun _ _ => t.safe_checkItems _
  · exact t.safe_checkItems s

theorem Parameter.safe_convert (p : Parameter) (s : Sequence) :
    Safe (fun _ => True) (p.convert s) := by
  have hsafe := p.type.safe_convert s
  unfold convert
  cases h : p.type.convert s with
  | ok s' => trivial
  | error e =>
    rw [h] at hsafe
    exact hsafe

/-- The arguments of a call with an accepted number of them. -/
theorem Function.Built.safe_convertArguments {f : Function} (h : f.Built) {args : List Sequence}
    (hn : f.acceptsArity args.length = true) : Safe f.Admits (f.convertArguments args) := by
  cases hconvert : f.convertArguments args with
  | ok converted => exact (h.admits hconvert).2
  | error e =>
    cases h.convertArguments_eq_error_iff.mp hconvert with
    | count hn' =>
      rw [hn] at hn'
      cases hn'
    | first _ hfirst =>
      obtain ⟨p, s, -, -, he⟩ := hfirst.here
      have hsafe := p.safe_convert s
      rw [he] at hsafe
      exact hsafe

/-! ## Patterns -/

theorem Regex.safe_readFlags (flags : Flags) (letters : List Char) :
    Safe (fun _ => True) (readFlags flags letters) := by
  induction letters generalizing flags with
  | nil => trivial
  | cons c rest ih =>
    rw [readFlags]
    split
    · exact ih _
    · exact .error (by decide)

theorem Regex.safe_compile (pattern flags : String) :
    Safe (fun _ => True) (compile pattern flags) := by
  unfold compile
  refine (safe_readFlags {} flags.toList).bind fun flags _ => ?_
  split
  · trivial
  · exact .error (by decide)

end TreePath
