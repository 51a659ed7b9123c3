/-
TreePath.Proofs.Regex.Nesting — groups that may nest deeper.

What the parser reads with groups of some depth it reads in the same way when they may nest deeper:
every part of it `Extends` to the deeper level if what reads the inside of groups does.
-/
import TreePath.Proofs.Regex.Parsing

namespace TreePath.Regex.Parser

variable {α β : Type}

/-- What the first part reads, the second one reads in the same way. -/
def Extends (f g : Parse α) : Prop := ∀ st r, f st = some r → g st = some r

namespace Extends

variable {f f' : Parse α} {g g' : α → Parse β} {inner inner' : Parse Pattern}

theorem refl (f : Parse α) : Extends f f := fun _ _ => id

theorem failure (f : Parse α) : Extends Alternative.failure f := fun _ _ h => nomatch h

theorem bind (hf : Extends f f') (hg : ∀ a, Extends (g a) (g' a)) :
    Extends (f >>= g) (f' >>= g') := by
  intro st r h
  obtain ⟨a, st₁, hfa, hga⟩ := bind_eq_some.mp h
  exact bind_eq_some.mpr ⟨a, st₁, hf st _ hfa, hg a st₁ r hga⟩

theorem andThen (h : ∀ a, Extends (g a) (g' a)) : Extends (f >>= g) (f >>= g') :=
  (refl f).bind h

theorem thenSame (hf : Extends f f') : Extends (f >>= g) (f' >>= g) := hf.bind fun a => refl (g a)

theorem ite {c : Prop} [Decidable c] {g g' : Parse α} (hf : Extends f f') (hg : Extends g g') :
    Extends (if c then f else g) (if c then f' else g') := by
  split
  · exact hf
  · exact hg

theorem counted (hf : Extends f f') : Extends (counted f) (counted f') :=
  andThen fun _ => hf.bind fun _ => refl _

theorem bounded {p p' : Nat → Parse α} (h : ∀ n, Extends (p n) (p' n)) :
    Extends (bounded p) (bounded p') :=
  andThen fun _ => h _

theorem inside (h : Extends inner inner') : Extends (inside inner) (inside inner') := h.thenSame

theorem keeping (h : Extends inner inner') (groupName : Option (Parse (List Char))) :
    Extends (keeping inner groupName) (keeping inner' groupName) :=
  andThen fun _ => andThen fun _ => h.inside.thenSame

theorem flagSign (h : Extends inner inner') {more more' : Bool → Parse Pattern}
    (hmore : ∀ on, Extends (more on) (more' on)) (before : Flags) (on : Bool) (readCount : Nat)
    (c : Char) : Extends (flagSign inner before on readCount more c)
      (flagSign inner' before on readCount more' c) := by
  unfold Parser.flagSign
  split
  · exact refl _
  · exact .ite (.andThen fun _ => h.thenSame) h.thenSame
  · exact .ite (hmore _) (refl _)
  · refine .andThen fun st => ?_
    cases st.flags.set? c on with
    | none => exact refl _
    | some flags => exact .andThen fun _ => hmore on

theorem flagGroup (h : Extends inner inner') (before : Flags) (n readCount : Nat) (on : Bool) :
    Extends (flagGroup inner before n readCount on) (flagGroup inner' before n readCount on) := by
  induction n generalizing readCount on with
  | zero => exact refl _
  | succ n ih =>
    refine .andThen fun _ => .andThen fun s => ?_
    cases s with
    | nil => exact refl _
    | cons c s => exact .andThen fun _ => h.flagSign (ih _) before on _ c

theorem condition (h : Extends inner inner') : Extends (condition inner) (condition inner') :=
  .andThen fun _ => .ite (refl _) <|
    .andThen fun _ => .ite (refl _) (.andThen fun _ => .ite (refl _) h)

theorem conditionalGroup (h : Extends inner inner') :
    Extends (conditionalGroup inner) (conditionalGroup inner') :=
  h.condition.bind fun _ => .andThen fun _ => h.counted.thenSame

theorem group (h : Extends inner inner') : Extends (group inner) (group inner') := by
  refine .andThen fun _ => ?_
  refine .andThen fun _ => .ite h.inside.thenSame ?_
  refine .andThen fun _ => .ite h.inside.thenSame ?_
  refine .andThen fun _ => .ite h.inside.thenSame ?_
  refine .andThen fun _ => .ite h.inside.thenSame ?_
  refine .andThen fun _ => .ite (h.keeping _) ?_
  refine .andThen fun _ => .ite (h.keeping _) ?_
  refine .andThen fun _ => .ite (h.keeping _) ?_
  refine .andThen fun _ => .ite (refl _) ?_
  refine .andThen fun _ => .ite h.inside.thenSame ?_
  refine .andThen fun _ => .ite h.conditionalGroup ?_
  refine .andThen fun _ => .ite ?_ (h.keeping none)
  exact .andThen fun st => .bounded fun n => h.flagGroup st.flags n 0 true

theorem atom (h : Extends inner inner') : Extends (atom inner) (atom inner') := by
  refine .andThen fun _ => .andThen fun st => .andThen fun s => ?_
  cases s with
  | nil => exact refl _
  | cons c s =>
    refine .ite (refl _) (.andThen fun _ => ?_)
    unfold atomFrom
    split
    all_goals first | exact h.group | exact refl _

theorem branch (h : Extends inner inner') : Extends (branch inner) (branch inner') := by
  refine .thenSame (.bounded fun n => ?_)
  induction n with
  | zero => exact refl _
  | succ n ih => exact h.atom.thenSame.counted.bind fun _ => .ite (refl _) ih.thenSame

theorem level (h : Extends inner inner') : Extends (level inner) (level inner') := by
  refine h.branch.bind fun _ => .thenSame (.bounded fun n => ?_)
  induction n with
  | zero => exact refl _
  | succ n ih =>
    exact .andThen fun _ => .andThen fun _ => .ite (h.branch.bind fun _ => ih.thenSame) (refl _)

end Extends

/-- What can be read with groups of some depth is read in the same way with deeper groups. -/
theorem extends_nested (n : Nat) : Extends (nested n) (nested (n + 1)) := by
  induction n with
  | zero => exact .level (.failure _)
  | succ n ih => exact .level ih

end TreePath.Regex.Parser
