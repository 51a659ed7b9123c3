/-
TreePath.Proofs.Regex.Parsing — reading a pattern inside a group.

A pattern for whole values is read inside a group: behind it stand a closing parenthesis and the
sign for the end of the text. `Tame` says of a part of the parser that it reads the pattern there as
it does on its own:

* what it reads on its own it reads inside the group, unless it ends in a comment that runs on into
  what is behind (`forward`);
* what it reads inside the group it reads on its own, unless it has gone past the parenthesis, or
  refers to a group by a number that is too great (`backward`).

Parts one after another are tame if each of them is (`Tame.bind`), and so are choices by the next
character (`Tame.next`). What a part does to the state besides is noted in `Step`.
-/
import TreePath.Proofs.Text.Cutting
import TreePath.Proofs.Text.Digits
import TreePath.Regex.Parser

namespace TreePath.Regex.Parser

open TreePath.Text

/-! ## Inside a group -/

/-- What stands behind a pattern inside the group around it. -/
def closing : List Char := [')', '$']

/-- A pattern, the bound for numbers of groups with which it is read on its own, and the one with
which it is read inside a group. -/
structure Wrapping where
  pattern : List Char
  alone : Nat
  inside : Nat
  le : alone ≤ inside

variable {w : Wrapping} {α β : Type} {k l : Nat}

/-- The last line of the text has a sign that begins comments. -/
def HasLateSign (s : List Char) : Prop := ∃ before after, s = before ++ '#' :: after ∧ '\n' ∉ after

theorem hasLateSign_iff (s : List Char) :
    '#' ∈ s.reverse.takeWhile (· != '\n') ↔ HasLateSign s := by
  constructor
  · intro h
    obtain ⟨after, before, hline⟩ := List.append_of_mem h
    refine ⟨(s.reverse.dropWhile (· != '\n')).reverse ++ before.reverse, after.reverse, ?_, ?_⟩
    · have hs := congrArg List.reverse
        (List.takeWhile_append_dropWhile (p := (· != '\n')) (l := s.reverse))
      rw [hline, List.reverse_reverse] at hs
      simpa using hs.symm
    · intro hmem
      have hline' : '\n' ∈ s.reverse.takeWhile (· != '\n') := by
        rw [hline]
        exact List.mem_append_left _ (List.mem_reverse.mp hmem)
      simpa using List.mem_takeWhile_imp hline'
  · rintro ⟨before, after, rfl, hafter⟩
    have hline : ∀ c ∈ after.reverse, (c != '\n') = true := fun c hc =>
      bne_iff_ne.mpr fun h => hafter (h ▸ List.mem_reverse.mp hc)
    rw [List.reverse_append, List.reverse_cons, List.append_assoc,
      List.takeWhile_append_of_pos hline]
    exact List.mem_append_right _ List.mem_cons_self

instance : DecidablePred HasLateSign := fun s => decidable_of_iff _ (hasLateSign_iff s)

/-- The state belongs to reading the pattern on its own. -/
def Wrapping.Within (w : Wrapping) (st : State) : Prop :=
  st.rest <:+ w.pattern ∧ st.numberBound = w.alone

/-- The corresponding state inside the group. -/
def Wrapping.widen (w : Wrapping) (st : State) : State :=
  { st with rest := st.rest ++ closing, numberBound := w.inside }

/-- The pattern has not ended in a comment. -/
def Wrapping.Calm (w : Wrapping) (st : State) : Prop :=
  st.rest = [] → st.flags.extended = true → ¬ HasLateSign w.pattern

/-- Reading inside the group has gone past the parenthesis, or has accepted a number that is too
great on its own. -/
def Wrapping.Lost (w : Wrapping) (st : State) : Prop :=
  st.rest <:+ ['$'] ∨ st.numbered = true ∧ ∃ n ∈ st.references, w.alone ≤ n

/-! ## What reading changes -/

/-- What a character pays for. No group and no reference needs the sign for the end of the text. -/
def charge (c : Char) : Nat := if c != '$' then 1 else 0

/-- A measure of what is left to read, where groups and references by number count as the two
characters that each of them takes at least. -/
def State.weight (st : State) : Nat :=
  st.rest.countP (· != '$') + 2 * st.groupCount + if st.numbered then 2 else 0

/-- What reading does to the state; `k` characters that belong to what is read have been read
before. -/
structure Step (k : Nat) (st st' : State) : Prop where
  rest : st'.rest <:+ st.rest
  numberBound : st'.numberBound = st.numberBound
  references : st.references ⊆ st'.references
  numbered : st.numbered = true → st'.numbered = true
  weight : st'.weight ≤ st.weight + k

namespace Step

variable {st st' st'' : State}

theorem refl (k : Nat) (st : State) : Step k st st where
  rest := List.suffix_refl _
  numberBound := rfl
  references := List.Subset.refl _
  numbered := id
  weight := Nat.le_add_right _ _

theorem trans (h : Step k st st') (h' : Step l st' st'') : Step (k + l) st st'' where
  rest := h'.rest.trans h.rest
  numberBound := h'.numberBound.trans h.numberBound
  references := List.Subset.trans h.references h'.references
  numbered := h'.numbered ∘ h.numbered
  weight := by
    have := h.weight
    have := h'.weight
    omega

theorem mono (h : Step k st st') (hkl : k ≤ l) : Step l st st' :=
  { h with weight := h.weight.trans (Nat.add_le_add_left hkl _) }

/-- Reading a character pays for it. -/
theorem of_cons {c : Char} {s : List Char} (hst : st.rest = c :: s)
    (h : Step (k + charge c) { st with rest := s } st') : Step k st st' where
  rest := hst ▸ h.rest.trans (List.suffix_cons c s)
  numberBound := h.numberBound
  references := h.references
  numbered := h.numbered
  weight := by
    have := h.weight
    simp only [State.weight, hst, List.countP_cons, charge] at this ⊢
    omega

end Step

/-! ## Parts of the parser -/

/-- The part reads inside the group as it does on its own. -/
structure Loose (w : Wrapping) (k : Nat) (f : Parse α) : Prop where
  step : ∀ {st a st'}, f st = some (a, st') → Step k st st'
  forward : ∀ {st a st'}, w.Within st → f st = some (a, st') → w.Calm st' →
    f (w.widen st) = some (a, w.widen st')
  backward : ∀ {st a st'}, w.Within st → f (w.widen st) = some (a, st') →
    (∃ st'', st' = w.widen st'' ∧ f st = some (a, st'')) ∨ w.Lost st'

/-- The part reads inside the group as it does on its own, and leaves the flags as they are where
it reads nothing. -/
structure Tame (w : Wrapping) (k : Nat) (f : Parse α) : Prop extends Loose w k f where
  flags : ∀ {st a st'}, f st = some (a, st') → st'.rest.length = st.rest.length →
    st'.flags = st.flags

theorem Wrapping.Within.step {st st' : State} (h : w.Within st) (hstep : Step k st st') :
    w.Within st' :=
  ⟨hstep.rest.trans h.1, hstep.numberBound.trans h.2⟩

theorem Wrapping.Lost.step {st st' : State} (h : w.Lost st) (hstep : Step k st st') :
    w.Lost st' := by
  obtain hrest | ⟨hnumbered, n, hn, hle⟩ := h
  · exact .inl (hstep.rest.trans hrest)
  · exact .inr ⟨hstep.numbered hnumbered, n, hstep.references hn, hle⟩

theorem Wrapping.Within.of_suffix {st : State} {s : List Char} (h : w.Within st)
    (hs : s <:+ st.rest) : w.Within { st with rest := s } :=
  ⟨hs.trans h.1, h.2⟩

theorem Wrapping.Within.of_cons {st : State} {c : Char} {s : List Char} (h : w.Within st)
    (hrest : st.rest = c :: s) : w.Within { st with rest := s } :=
  h.of_suffix (hrest ▸ List.suffix_cons c s)

theorem widen_rest_of_nil {st : State} (h : st.rest = []) : (w.widen st).rest = ')' :: ['$'] := by
  show st.rest ++ closing = _
  rw [h]
  rfl

theorem widen_rest_of_cons {st : State} {c : Char} {s : List Char} (h : st.rest = c :: s) :
    (w.widen st).rest = c :: (s ++ closing) := by
  show st.rest ++ closing = _
  rw [h, List.cons_append]

theorem length_widen_rest (st : State) : (w.widen st).rest.length = st.rest.length + 2 :=
  List.length_append

theorem bind_eq_some {f : Parse α} {g : α → Parse β} {st : State} {b : β} {st' : State} :
    (f >>= g) st = some (b, st') ↔ ∃ a st₁, f st = some (a, st₁) ∧ g a st₁ = some (b, st') := by
  show (f st).bind (fun p => g p.1 p.2) = some (b, st') ↔ _
  rw [Option.bind_eq_some_iff]
  simp

theorem bind_of_eq_some {f : Parse α} {g : α → Parse β} {st st₁ : State} {a : α}
    (h : f st = some (a, st₁)) : (f >>= g) st = g a st₁ := by
  show (f st).bind _ = _
  rw [h]
  rfl

/-- What is calm at the end has been calm before. -/
theorem Wrapping.Calm.before {f : Parse α} {st st' : State} {a : α} (h : w.Calm st')
    (hf : Tame w k f) (hst : f st = some (a, st')) : w.Calm st := by
  intro hrest hextended
  have hrest' : st'.rest = [] := List.suffix_nil.mp (hrest ▸ (hf.step hst).rest)
  refine h hrest' ?_
  rw [hf.flags hst (by rw [hrest, hrest']), hextended]

namespace Loose

theorem mono {f : Parse α} (h : Loose w k f) (hkl : k ≤ l) : Loose w l f :=
  { h with step := fun hf => (h.step hf).mono hkl }

theorem bind {f : Parse α} {g : α → Parse β} (hf : Loose w k f) (hg : ∀ a, Tame w l (g a)) :
    Loose w (k + l) (f >>= g) where
  step h := by
    obtain ⟨a, st₁, hfa, hga⟩ := bind_eq_some.mp h
    exact (hf.step hfa).trans ((hg a).step hga)
  forward hst h hcalm := by
    obtain ⟨a, st₁, hfa, hga⟩ := bind_eq_some.mp h
    have hcalm₁ := hcalm.before (hg a) hga
    exact bind_eq_some.mpr ⟨a, w.widen st₁, hf.forward hst hfa hcalm₁,
      (hg a).forward (hst.step (hf.step hfa)) hga hcalm⟩
  backward hst h := by
    obtain ⟨a, st₁, hfa, hga⟩ := bind_eq_some.mp h
    obtain ⟨st₂, rfl, hfa'⟩ | hlost := hf.backward hst hfa
    · obtain ⟨st₃, rfl, hga'⟩ | hlost := (hg a).backward (hst.step (hf.step hfa')) hga
      · exact .inl ⟨st₃, rfl, bind_eq_some.mpr ⟨a, st₂, hfa', hga'⟩⟩
      · exact .inr hlost
    · exact .inr (hlost.step ((hg a).step hga))

/-- A part that does the same to corresponding states. -/
theorem of_exact {f : Parse α} (hstep : ∀ {st a st'}, f st = some (a, st') → Step k st st')
    (h : ∀ st, w.Within st → f (w.widen st) = (f st).map fun p => (p.1, w.widen p.2)) :
    Loose w k f where
  step := hstep
  forward hst hf _ := by rw [h _ hst, hf, Option.map_some]
  backward hst hf := by
    rw [h _ hst, Option.map_eq_some_iff] at hf
    obtain ⟨⟨b, st'⟩, hf, heq⟩ := hf
    cases heq
    exact .inl ⟨st', rfl, hf⟩

theorem ite {c : Prop} [Decidable c] {f g : Parse α} (hf : Loose w k f) (hg : Loose w k g) :
    Loose w k (if c then f else g) := by
  split
  · exact hf
  · exact hg

/-- What depends on a part of the state that is the same inside the group. -/
theorem get {f : State → Parse α} (hf : ∀ st, Loose w k (f st))
    (h : ∀ st, f (w.widen st) = f st) : Loose w k (MonadState.get >>= f) where
  step {st _ _} hf' := (hf st).step hf'
  forward {st _ _} hst hf' hcalm := by
    show f (w.widen st) (w.widen st) = _
    rw [h]
    exact (hf st).forward hst hf' hcalm
  backward {st _ _} hst hf' := by
    refine (hf st).backward hst ?_
    rw [← h]
    exact hf'

end Loose

namespace Tame

theorem mono {f : Parse α} (h : Tame w k f) (hkl : k ≤ l) : Tame w l f :=
  { h.toLoose.mono hkl with flags := h.flags }

theorem bind {f : Parse α} {g : α → Parse β} (hf : Tame w k f) (hg : ∀ a, Tame w l (g a)) :
    Tame w (k + l) (f >>= g) where
  toLoose := hf.toLoose.bind hg
  flags h hlength := by
    obtain ⟨a, st₁, hfa, hga⟩ := bind_eq_some.mp h
    have hle := (hf.step hfa).rest.length_le
    have hle' := ((hg a).step hga).rest.length_le
    rw [(hg a).flags hga (by omega), hf.flags hfa (by omega)]

theorem of_weight {f : Parse α} (h : Tame w l f)
    (hweight : ∀ {st a st'}, f st = some (a, st') → st'.weight ≤ st.weight + k) : Tame w k f :=
  { h with step := fun hf => { h.step hf with weight := hweight hf } }

/-- Parts one after another, where the first one reads all that it notes. -/
theorem seq {f : Parse α} {g : α → Parse β} (hf : Tame w 0 f) (hg : ∀ a, Tame w k (g a)) :
    Tame w k (f >>= g) :=
  Nat.zero_add k ▸ hf.bind hg

/-- A part that does the same to corresponding states, and keeps the flags. -/
theorem of_exact {f : Parse α}
    (hstep : ∀ {st a st'}, f st = some (a, st') → Step k st st' ∧ st'.flags = st.flags)
    (h : ∀ st, w.Within st → f (w.widen st) = (f st).map fun p => (p.1, w.widen p.2)) :
    Tame w k f where
  toLoose := .of_exact (fun hf => (hstep hf).1) h
  flags hf _ := (hstep hf).2

theorem pure (a : α) : Tame w k (Pure.pure a : Parse α) :=
  of_exact (by rintro st _ _ ⟨⟩; exact ⟨.refl k st, rfl⟩) fun _ _ => rfl

theorem failure : Tame w k (Alternative.failure : Parse α) :=
  of_exact (by rintro st _ _ ⟨⟩) fun _ _ => rfl

theorem ite {c : Prop} [Decidable c] {f g : Parse α} (hf : Tame w k f) (hg : Tame w k g) :
    Tame w k (if c then f else g) := by
  split
  · exact hf
  · exact hg

/-- What depends on a part of the state that is the same inside the group. -/
theorem get {f : State → Parse α} (hf : ∀ st, Tame w k (f st))
    (h : ∀ st, f (w.widen st) = f st) : Tame w k (MonadState.get >>= f) where
  toLoose := .get (fun st => (hf st).toLoose) h
  flags {st _ _} := (hf st).flags

/-- How a choice by the next character goes on, on its own and inside the group: what is there
stays, or is read, or reading inside the group goes past the parenthesis. -/
inductive Turn (w : Wrapping) (f : List Char → Parse α) (f₁ f₂ : Char → Parse α) (st : State) :
    Prop where
  | stays (c : Char) (alone : f st.rest st = f₁ c st)
      (inside : f (w.widen st).rest (w.widen st) = f₁ c (w.widen st))
  | reads (c : Char) (s : List Char) (hrest : st.rest = c :: s)
      (alone : f st.rest st = f₂ c { st with rest := s })
      (inside : f (w.widen st).rest (w.widen st) = f₂ c (w.widen { st with rest := s }))
  | past (alone : f st.rest st = none)
      (inside : f (w.widen st).rest (w.widen st) = f₂ ')' { w.widen st with rest := ['$'] })

theorem turn {f : List Char → Parse α} {stays : Char → Bool} {f₁ f₂ : Char → Parse α}
    (hnil : ∀ st, st.rest = [] → f [] st = if stays ')' then f₁ ')' st else none)
    (hcons : ∀ c s st, st.rest = c :: s →
      f (c :: s) st = if stays c then f₁ c st else f₂ c { st with rest := s })
    (st : State) : Turn w f f₁ f₂ st := by
  cases hrest : st.rest with
  | nil =>
    have halone := hnil st hrest
    have hinside := hcons _ _ _ (widen_rest_of_nil (w := w) hrest)
    rw [← hrest] at halone
    rw [← widen_rest_of_nil hrest] at hinside
    cases hstays : stays ')' with
    | true => exact .stays ')' (by rw [halone, if_pos hstays]) (by rw [hinside, if_pos hstays])
    | false => exact .past (by rw [halone, hstays]; rfl) (by rw [hinside, hstays]; rfl)
  | cons c s =>
    have halone := hcons c s st hrest
    have hinside := hcons _ _ _ (widen_rest_of_cons (w := w) hrest)
    rw [← hrest] at halone
    rw [← widen_rest_of_cons hrest] at hinside
    cases hstays : stays c with
    | true => exact .stays c (by rw [halone, if_pos hstays]) (by rw [hinside, if_pos hstays])
    | false => exact .reads c s hrest (by rw [halone, hstays]; rfl) (by rw [hinside, hstays]; rfl)

/-- A choice by the next character, which is read unless it `stays`. Where nothing is left, the
choice is as in front of the parenthesis, or fails if that would be read. -/
theorem next {f : List Char → Parse α} (stays : Char → Bool) (f₁ f₂ : Char → Parse α)
    (hnil : ∀ st, st.rest = [] → f [] st = if stays ')' then f₁ ')' st else none)
    (hcons : ∀ c s st, st.rest = c :: s →
      f (c :: s) st = if stays c then f₁ c st else f₂ c { st with rest := s })
    (h₁ : ∀ c, Tame w k (f₁ c)) (h₂ : ∀ c, Loose w (k + charge c) (f₂ c)) :
    Tame w k (rest >>= f) where
  step {st a st'} h := by
    replace h : f st.rest st = some (a, st') := h
    cases turn (w := w) hnil hcons st with
    | stays c alone => exact (h₁ c).step (alone.symm.trans h)
    | reads c s hrest alone => exact .of_cons hrest ((h₂ c).step (alone.symm.trans h))
    | past alone => cases alone.symm.trans h
  flags {st a st'} h hlength := by
    replace h : f st.rest st = some (a, st') := h
    cases turn (w := w) hnil hcons st with
    | stays c alone => exact (h₁ c).flags (alone.symm.trans h) hlength
    | reads c s hrest alone =>
      have hle : st'.rest.length ≤ s.length := ((h₂ c).step (alone.symm.trans h)).rest.length_le
      rw [hrest, List.length_cons] at hlength
      omega
    | past alone => cases alone.symm.trans h
  forward {st a st'} hst h hcalm := by
    replace h : f st.rest st = some (a, st') := h
    show f (w.widen st).rest (w.widen st) = _
    cases turn (w := w) hnil hcons st with
    | stays c alone inside =>
      exact inside.trans ((h₁ c).forward hst (alone.symm.trans h) hcalm)
    | reads c s hrest alone inside =>
      exact inside.trans ((h₂ c).forward (hst.of_cons hrest) (alone.symm.trans h) hcalm)
    | past alone => cases alone.symm.trans h
  backward {st a st'} hst h := by
    replace h : f (w.widen st).rest (w.widen st) = some (a, st') := h
    show (∃ st'', st' = w.widen st'' ∧ f st.rest st = some (a, st'')) ∨ w.Lost st'
    cases turn (w := w) hnil hcons st with
    | stays c alone inside =>
      rw [alone]
      exact (h₁ c).backward hst (inside.symm.trans h)
    | reads c s hrest alone inside =>
      rw [alone]
      exact (h₂ c).backward (hst.of_cons hrest) (inside.symm.trans h)
    | past _ inside => exact .inr (.inl ((h₂ _).step (inside.symm.trans h)).rest)

end Tame

end TreePath.Regex.Parser
