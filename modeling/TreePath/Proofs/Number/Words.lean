/-
TreePath.Proofs.Number.Words — numbers in words, and what stops a computation.

A computation on the bytes of a text and on words of fixed width is stopped where an index, a cut or
a result is out of range: it ends with a `Fault` and gives nothing. An operation on words that may
fault is `Word.keep` of its result; an operation that says by itself when its result does not fit is
`Word.fit?`.
-/
import Mathlib.Order.Basic

namespace TreePath

/-- What stops a computation on bytes and words. -/
inductive Fault where
  /-- There is no byte at an index. -/
  | index
  /-- A text is cut where no character begins or ends. -/
  | cut
  /-- A word does not hold the result of an operation. -/
  | overflow
deriving DecidableEq, Repr

/-- The words that numbers are kept in. -/
inductive Word where
  | unsigned32
  | signed32
  | signed64
deriving DecidableEq, Repr

/-- What has been worked out without a fault is what the computation goes on with. -/
theorem Fault.ok_bind {α β : Type} (a : α) (f : α → Except Fault β) :
    (Except.ok a >>= f) = f a := rfl

namespace Word

def least : Word → Int
  | unsigned32 => 0
  | signed32 => -2147483648
  | signed64 => -9223372036854775808

def greatest : Word → Int
  | unsigned32 => 4294967295
  | signed32 => 2147483647
  | signed64 => 9223372036854775807

/-- The number is one of those that the word has room for. -/
def Holds (w : Word) (n : Int) : Prop := w.least ≤ n ∧ n ≤ w.greatest

instance (w : Word) (n : Int) : Decidable (w.Holds n) := inferInstanceAs (Decidable (_ ∧ _))

/-- The result of an operation; it is a fault if the word does not hold it. -/
def keep (w : Word) (n : Int) : Except Fault Int :=
  if w.Holds n then .ok n else .error .overflow

/-- The result of an operation that is checked: none if the word does not hold it. -/
def fit? (w : Word) (n : Int) : Option Int := if w.Holds n then some n else none

variable {w : Word} {n : Int}

theorem keep_bind {β : Type} (h : w.Holds n) (f : Int → Except Fault β) :
    (w.keep n >>= f) = f n := by
  rw [keep, if_pos h, Fault.ok_bind]

theorem fit?_of_holds (h : w.Holds n) : w.fit? n = some n := if_pos h

theorem fit?_eq_some_iff {m : Int} : w.fit? n = some m ↔ w.Holds n ∧ m = n := by
  rw [fit?]
  constructor
  · intro h
    split at h
    · rename_i hn
      cases h
      exact ⟨hn, rfl⟩
    · cases h
  · rintro ⟨hn, rfl⟩
    exact if_pos hn

theorem holds_unsigned32 : unsigned32.Holds n ↔ 0 ≤ n ∧ n ≤ 4294967295 := Iff.rfl

theorem holds_signed32 : signed32.Holds n ↔ -2147483648 ≤ n ∧ n ≤ 2147483647 := Iff.rfl

theorem holds_signed64 :
    signed64.Holds n ↔ -9223372036854775808 ≤ n ∧ n ≤ 9223372036854775807 := Iff.rfl

end Word

end TreePath
