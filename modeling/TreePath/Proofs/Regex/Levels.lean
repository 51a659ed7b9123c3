/-
TreePath.Proofs.Regex.Levels — brackets, repetitions, groups and alternatives inside a group.

Where the parser goes on as long as something is left, it takes a bound on the number of parts. The
bound is above the number of characters, so that it never matters (`bounded_of_guarded`).
-/
import TreePath.Proofs.Regex.Inside
namespace TreePath.Regex.Parser
open TreePath.Text TreePath.Text.Unicode
variable {w : Wrapping} {α β : Type} {k l : Nat}

/-- What a part does to the state, whatever it is read in. -/
theorem step_of_tame {f : Parse α} (hf : ∀ w, Tame w 0 f) {st st' : State} {a : α}
    (h : f st = some (a, st')) : Step 0 st st' := (hf ⟨[], 0, 0, le_rfl⟩).step h

/-! ## Parts that are counted or bounded -/

theorem counted_eq_some {p : Parse α} {st st' : State} {r : α × Nat} :
    counted p st = some (r, st') ↔
      ∃ a, p st = some (a, st') ∧ r = (a, st.rest.length - st'.rest.length) := by
  show (p st).bind (fun q => some ((q.1, st.rest.length - q.2.rest.length), q.2)) = _ ↔ _
  rw [Option.bind_eq_some_iff]
  constructor
  · rintro ⟨⟨a, st₁⟩, hp, h⟩
    cases h
    exact ⟨a, hp, rfl⟩
  · rintro ⟨a, hp, rfl⟩
    exact ⟨(a, st'), hp, rfl⟩

theorem tame_counted {p : Parse α} (hp : Tame w k p) : Tame w k (counted p) where
  step h := by
    obtain ⟨a, hpa, -⟩ := counted_eq_some.mp h
    exact hp.step hpa
  forward hst h hcalm := by
    obtain ⟨a, hpa, rfl⟩ := counted_eq_some.mp h
    refine counted_eq_some.mpr ⟨a, hp.forward hst hpa hcalm, ?_⟩
    rw [length_widen_rest, length_widen_rest, Nat.add_sub_add_right]
  backward hst h := by
    obtain ⟨a, hpa, rfl⟩ := counted_eq_some.mp h
    obtain ⟨st'', rfl, hpa'⟩ | hlost := hp.backward hst hpa
    · refine .inl ⟨st'', rfl, counted_eq_some.mpr ⟨a, hpa', ?_⟩⟩
      rw [length_widen_rest, length_widen_rest, Nat.add_sub_add_right]
    · exact .inr hlost
  flags h hlength := by
    obtain ⟨a, hpa, -⟩ := counted_eq_some.mp h
    exact hp.flags hpa hlength

/-- A bound does not matter as long as it is above the number of characters left. -/
def Bounded (p : Nat → Parse α) : Prop :=
  ∀ {n m st}, st.rest.length < n → st.rest.length < m → p n st = p m st

theorem bounded_eq {p : Nat → Parse α} (hp : Bounded p) {n : Nat} {st : State}
    (hn : st.rest.length < n) : bounded p st = p n st :=
  hp (Nat.lt_succ_self st.rest.length) hn

theorem tame_bounded {p : Nat → Parse α} (hp : Bounded p) (h : ∀ n, Tame w k (p n)) :
    Tame w k (bounded p) where
  step hst := (h _).step hst
  forward {st _ _} hst hb hcalm := by
    rw [bounded_eq hp (Nat.lt_add_of_pos_right (Nat.zero_lt_succ 2))] at hb
    have hwide := (h _).forward hst hb hcalm
    rwa [bounded_eq hp]
    rw [length_widen_rest]
    omega
  backward {st _ _} hst hb := by
    have hlength := length_widen_rest (w := w) st
    rw [bounded_eq hp (n := st.rest.length + 3) (by omega)] at hb ⊢
    exact (h _).backward hst hb
  flags hb := (h _).flags hb

/-- What follows a part only matters for the state that the part leads to. -/
theorem bind_congr_of_eq_some {f : Parse α} {g g' : α → Parse β} {st : State}
    (h : ∀ a st', f st = some (a, st') → g a st' = g' a st') : (f >>= g) st = (f >>= g') st := by
  show (f st).bind _ = (f st).bind _
  cases hf : f st with
  | none => rfl
  | some p => exact h p.1 p.2 hf

theorem bind_congr_of_le {f : Parse α} (hf : ∀ w, Tame w 0 f) {g g' : α → Parse β} {st : State}
    (h : ∀ a st', st'.rest.length ≤ st.rest.length → g a st' = g' a st') :
    (f >>= g) st = (f >>= g') st :=
  bind_congr_of_eq_some fun a st' ha => h a st' (step_of_tame hf ha).rest.length_le

/-- Going on is bounded if every step reads something. -/
theorem bounded_of_guarded {ι : Type} {p : Nat → ι → Parse α} {f : (ι → Parse α) → ι → Parse α}
    (hp : ∀ n i, p (n + 1) i = f (p n) i)
    (hf : ∀ {q q' : ι → Parse α} {i st},
      (∀ j st', st'.rest.length < st.rest.length → q j st' = q' j st') → f q i st = f q' i st)
    (i : ι) : Bounded fun n => p n i := by
  intro n
  induction n generalizing i with
  | zero => exact fun hn => absurd hn (Nat.not_lt_zero _)
  | succ n ih =>
    intro m st hn hm
    obtain _ | m := m
    · exact absurd hm (Nat.not_lt_zero _)
    dsimp only
    rw [hp, hp]
    refine hf fun j st' hlt => ih j ?_ ?_
    · exact Nat.lt_of_lt_of_le hlt (Nat.lt_succ_iff.mp hn)
    · exact Nat.lt_of_lt_of_le hlt (Nat.lt_succ_iff.mp hm)

/-- A choice by the next character, which is read. -/
def reading (f : Char → Parse α) : Parse α := rest >>= fun
  | [] => failure
  | c :: s => setRest s >>= fun _ => f c

theorem reading_eq (f : Char → Parse α) (st : State) : reading f st = match st.rest with
    | [] => none
    | c :: s => f c { st with rest := s } := by
  show (match st.rest with
    | [] => failure
    | c :: s => setRest s >>= fun _ => f c : Parse α) st = _
  cases st.rest <;> rfl

theorem reading_congr {f g : Char → Parse α} {st : State}
    (h : ∀ c st', st'.rest.length < st.rest.length → f c st' = g c st') :
    reading f st = reading g st := by
  rw [reading_eq, reading_eq]
  cases hrest : st.rest with
  | nil => rfl
  | cons c s => exact h c _ (by rw [hrest]; exact Nat.lt_succ_self _)

theorem tame_reading_next {f : Char → Parse α} (h : ∀ c, Loose w (k + charge c) (f c)) :
    Tame w k (reading f) :=
  .next (fun _ => false) (fun _ => failure) f (fun _ _ => rfl) (fun _ _ _ _ => rfl)
    (fun _ => .failure) h

/-! ## Brackets -/

theorem tame_optional (o : Option α) : Tame w k (liftM o : Parse α) := by
  cases o with
  | none => exact .failure
  | some a => exact .pure a

/-- What follows the first character of a member. -/
def memberFrom (more : Nat → Parse (List Char)) (depth : Nat) (c : Char) : Parse (List Char) := do
  if c = '\\' then
    let member ← (← memberEscape).written?
    return member ++ (← more depth)
  else if c = ']' && depth = 0 then return [c]
  else return c :: (← more (depthBehind depth c))

theorem members_succ (n depth : Nat) :
    members (n + 1) depth = reading (memberFrom (members n) depth) := rfl

theorem tame_memberFrom {more : Nat → Parse (List Char)} (h : ∀ depth, Tame w k (more depth))
    (depth : Nat) (c : Char) : Tame w k (memberFrom more depth c) := by
  refine .ite (.seq tame_memberEscape fun e => .seq (tame_optional _) fun member => ?_) ?_
  · exact (h depth).bind (l := 0) fun _ => .pure _
  · exact .ite (.pure _) ((h _).bind (l := 0) fun _ => .pure _)

theorem tame_members (n depth : Nat) : Tame w k (members n depth) := by
  induction n generalizing depth k with
  | zero => exact .failure
  | succ n ih => exact tame_reading_next fun c => (tame_memberFrom ih depth c).toLoose

theorem memberFrom_congr {more more' : Nat → Parse (List Char)} {st : State}
    (h : ∀ depth st', st'.rest.length ≤ st.rest.length → more depth st' = more' depth st')
    (depth : Nat) (c : Char) : memberFrom more depth c st = memberFrom more' depth c st := by
  have hthen : ∀ (depth : Nat) (f : List Char → Parse (List Char)) (st' : State),
      st'.rest.length ≤ st.rest.length → (more depth >>= f) st' = (more' depth >>= f) st' := by
    intro depth f st' hle
    show (more depth st').bind _ = (more' depth st').bind _
    rw [h depth st' hle]
  rw [memberFrom, memberFrom]
  split
  · refine bind_congr_of_le (fun _ => tame_memberEscape) fun e st₁ hle₁ => ?_
    refine bind_congr_of_le (fun _ => tame_optional _) fun member st₂ hle₂ => ?_
    exact hthen _ _ _ (hle₂.trans hle₁)
  · split
    · rfl
    · exact hthen _ _ _ le_rfl

theorem bounded_members (depth : Nat) : Bounded (members · depth) := by
  refine bounded_of_guarded (f := fun more depth => reading (memberFrom more depth))
    (fun _ _ => rfl) (fun h => reading_congr fun c st' hlt => ?_) depth
  exact memberFrom_congr (fun depth st'' hle => h _ _ (Nat.lt_of_le_of_lt hle hlt)) _ c

theorem bracketStart_append (s : List Char) :
    bracketStart (s ++ closing) = ((bracketStart s).1, (bracketStart s).2 ++ closing) := by
  fun_cases bracketStart s with
  | case1 s => rfl
  | case2 s hs =>
    cases s with
    | nil => rfl
    | cons c s => exact bracketStart.eq_2 _ fun _ h => hs _ (by rw [(List.cons.inj h).1])
  | case3 s => rfl
  | case4 _ _ hcaret hclose =>
    cases s with
    | nil => rfl
    | cons c s =>
      refine bracketStart.eq_4 _ (fun _ h => ?_) (fun _ h => ?_) fun _ h => ?_
      · exact hcaret s (by rw [(List.cons.inj h).1])
      · exact hcaret s (by rw [(List.cons.inj h).1])
      · exact hclose s (by rw [(List.cons.inj h).1])

theorem bracketStart_suffix (s : List Char) : (bracketStart s).2 <:+ s := by
  fun_cases bracketStart s with
  | case1 s => exact List.suffix_append ['^', ']'] s
  | case2 s => exact List.suffix_cons _ s
  | case3 s => exact List.suffix_cons _ s
  | case4 => exact List.suffix_refl _

theorem tame_bracket : Tame w k bracket := by
  refine tame_reading (g := fun s => some (bracketStart s))
    (f := fun start => bounded (members · 0) >>= fun inner => pure ('[' :: start ++ inner))
    (fun _ => rfl) ?_ ?_ ?_
  · intro s r h
    cases h
    exact bracketStart_suffix s
  · exact fun s => congrArg some (bracketStart_append s)
  · intro start
    exact (tame_bounded (bounded_members 0) fun n => tame_members n 0).bind (l := 0) fun _ =>
      .pure _


/-! ## Repetitions -/

/-- What is behind blanks is so inside the group, unless nothing is left to read; then there is at
most what is behind the parenthesis. -/
theorem behindBlanks_append (extended : Bool) (s : List Char) :
    behindBlanks extended (s ++ closing) = (behindBlanks extended s).map (· ++ closing) ∨
      (∀ u ∈ behindBlanks extended s, u = []) ∧
        ∀ u ∈ behindBlanks extended (s ++ closing), u <:+ ['$'] := by
  have hlength : s.length + 2 < (s ++ closing).length + 1 := by
    rw [List.length_append]
    exact Nat.lt_succ_self _
  have hforward : ∀ v, behindBlanks extended s = some v → v ≠ [] →
      behindBlanks extended (s ++ closing) = some (v ++ closing) :=
    fun v hv hne => skipBlanks_append_of_some (Nat.lt_succ_self _) hlength hv
      fun hnil => absurd hnil hne
  cases hinside : behindBlanks extended (s ++ closing) with
  | some u =>
    obtain ⟨v, rfl, hv⟩ | hlost := skipBlanks_append (Nat.lt_succ_self _) hlength hinside
    · exact .inl (by rw [behindBlanks, hv, Option.map_some])
    · refine .inr ⟨fun v hv => by_contra fun hne => ?_, fun _ h => Option.some.inj h ▸ hlost⟩
      have hu : u = v ++ closing := Option.some.inj (hinside.symm.trans (hforward v hv hne))
      have hle := (hu ▸ hlost).length_le
      rw [List.length_append] at hle
      exact absurd hle (by simp [closing])
  | none =>
    refine .inr ⟨fun v hv => by_contra fun hne => ?_, fun u hu => by cases hu⟩
    cases hinside.symm.trans (hforward v hv hne)

/-- Reading in the same way inside the group, and never only what is left behind the parenthesis. -/
structure Sealed (f : List Char → Option (α × List Char)) : Prop where
  append : ∀ s, f (s ++ closing) = (f s).map fun r => (r.1, r.2 ++ closing)
  behind : ∀ s, s <:+ ['$'] → f s = none

theorem behindBlanks_suffix {extended : Bool} {s u : List Char}
    (h : behindBlanks extended s = some u) : u <:+ s := skipBlanks_suffix h

namespace Sealed

theorem blanks {f : List Char → Option (α × List Char)} (hf : Sealed f) (extended : Bool) :
    Sealed fun s => (behindBlanks extended s).bind f where
  append s := by
    obtain heq | ⟨halone, hinside⟩ := behindBlanks_append extended s
    · rw [heq]
      cases behindBlanks extended s with
      | none => rfl
      | some u => exact hf.append u
    · have hnone : (behindBlanks extended s).bind f = none :=
        Option.bind_eq_none_iff.mpr fun u hu =>
          hf.behind u (halone u hu ▸ List.nil_suffix)
      have hnone' : (behindBlanks extended (s ++ closing)).bind f = none :=
        Option.bind_eq_none_iff.mpr fun u hu => hf.behind u (hinside u hu)
      rw [hnone', hnone, Option.map_none]
  behind s hs := Option.bind_eq_none_iff.mpr fun u hu =>
    hf.behind u ((behindBlanks_suffix hu).trans hs)

theorem reading {f : β → List Char → Option (α × List Char)} (hf : ∀ b, Sealed (f b))
    {g : List Char → Option (β × List Char)} (hsuffix : ∀ {s r}, g s = some r → r.2 <:+ s)
    (happend : ∀ s, g (s ++ closing) = (g s).map fun r => (r.1, r.2 ++ closing)) :
    Sealed fun s => (g s).bind fun r => f r.1 r.2 where
  append s := by
    rw [happend]
    cases g s with
    | none => rfl
    | some r => exact (hf r.1).append r.2
  behind s hs := Option.bind_eq_none_iff.mpr fun r hr => (hf r.1).behind r.2 ((hsuffix hr).trans hs)

end Sealed

theorem leastBound_suffix {s : List Char} {r : Nat × List Char} (h : leastBound s = some r) :
    r.2 <:+ s := by
  rw [leastBound] at h
  split at h
  · cases h
    exact List.suffix_refl _
  · exact number?_suffix h

theorem leastBound_append (s : List Char) :
    leastBound (s ++ closing) = (leastBound s).map fun r => (r.1, r.2 ++ closing) := by
  rw [leastBound, leastBound]
  simp only [head?_closing (show ',' ≠ ')' by decide)]
  split
  · rfl
  · exact number?_append s

theorem eq_of_suffix_sign {s : List Char} (h : s <:+ ['$']) : s = ['$'] ∨ s = [] :=
  (List.suffix_cons_iff.mp h).imp_right List.suffix_nil.mp

/-- The upper bound in front of what is read behind it. -/
theorem mostBound_bind (extended : Bool) (least : Nat)
    (f : Option Nat → List Char → Option (α × List Char)) (s : List Char) :
    ((mostBound extended least s).bind fun r => f r.1 r.2) =
      if s.head? = some '\x7d' then f (some least) s
      else if s.head? = some ',' then (behindBlanks extended s.tail).bind fun u =>
        match number? u with
        | some (n, u) => f (if n = maxNumber then none else some n) u
        | none => f none u
      else none := by
  fun_cases mostBound extended least s with
  | case1 s => rfl
  | case2 s =>
    show ((behindBlanks extended s).bind _).bind _ = (behindBlanks extended s).bind _
    rw [Option.bind_assoc]
    refine Option.bind_congr fun u _ => ?_
    cases number? u <;> rfl
  | case3 _ hbrace hcomma =>
    cases s with
    | nil => rfl
    | cons c s =>
      have hc : c ≠ '\x7d' := fun h => hbrace s (by rw [h])
      have hc' : c ≠ ',' := fun h => hcomma s (by rw [h])
      simp [hc, hc']

theorem Sealed.mostBound {f : Option Nat → List Char → Option (α × List Char)}
    (hf : ∀ most, Sealed (f most)) (extended : Bool) (least : Nat) :
    Sealed fun s => (mostBound extended least s).bind fun r => f r.1 r.2 := by
  have hnumber : Sealed fun u => match number? u with
      | some (n, u) => f (if n = maxNumber then none else some n) u
      | none => f none u := by
    constructor
    · intro s
      rw [number?_append]
      cases number? s with
      | none => exact (hf none).append s
      | some r => exact (hf _).append r.2
    · intro s hs
      cases hn : number? s with
      | none => exact (hf none).behind s hs
      | some r => exact (hf _).behind r.2 ((number?_suffix hn).trans hs)
  constructor
  · intro s
    rw [mostBound_bind, mostBound_bind]
    simp only [head?_closing (show '\x7d' ≠ ')' by decide),
      head?_closing (show ',' ≠ ')' by decide)]
    split
    · exact (hf _).append s
    · split
      · rename_i hhead
        have hne : s ≠ [] := by
          rintro rfl
          cases hhead
        rw [tail_append_closing hne]
        exact (hnumber.blanks extended).append s.tail
      · rfl
  · intro s hs
    obtain rfl | rfl := eq_of_suffix_sign hs <;> rfl

/-- The brace behind the bounds of a repetition. -/
def boundsEnd (found : Nat × Option Nat) : List Char → Option ((Nat × Option Nat) × List Char)
  | '\x7d' :: s => some (found, s)
  | _ => none

theorem sealed_boundsEnd (found : Nat × Option Nat) : Sealed (boundsEnd found) := by
  constructor
  · intro s
    fun_cases boundsEnd found s with
    | case1 s => rfl
    | case2 _ hbrace =>
      cases s with
      | nil => rfl
      | cons c s => exact boundsEnd.eq_2 _ _ fun _ h => hbrace s (by rw [(List.cons.inj h).1])
  · intro s hs
    obtain rfl | rfl := eq_of_suffix_sign hs <;> rfl

theorem bounds_eq (extended : Bool) (s : List Char) : bounds extended s =
    (behindBlanks extended s).bind fun s => (leastBound s).bind fun r =>
      (behindBlanks extended r.2).bind fun s => (mostBound extended r.1 s).bind fun r' =>
        (behindBlanks extended r'.2).bind (boundsEnd (r.1, r'.1)) := rfl

theorem sealed_bounds (extended : Bool) : Sealed (bounds extended) := by
  have hend : ∀ least most, Sealed fun s =>
      (behindBlanks extended s).bind (boundsEnd (least, most)) :=
    fun least most => .blanks (sealed_boundsEnd (least, most)) extended
  have hmost : ∀ least, Sealed fun s => (mostBound extended least s).bind fun r' =>
      (behindBlanks extended r'.2).bind (boundsEnd (least, r'.1)) :=
    fun least => .mostBound (hend least) extended least
  rw [funext (bounds_eq extended)]
  exact .blanks (.reading (fun least => .blanks (hmost least) extended) leastBound_suffix
    leastBound_append) extended

theorem mostBound_suffix {extended : Bool} {least : Nat} {s : List Char}
    {r : Option Nat × List Char} (h : mostBound extended least s = some r) : r.2 <:+ s := by
  rw [mostBound.eq_def] at h
  split at h
  · cases h
    exact List.suffix_refl _
  · rename_i s
    obtain ⟨u, hu, h⟩ := Option.bind_eq_some_iff.mp h
    refine .trans ?_ ((behindBlanks_suffix hu).trans (List.suffix_cons _ s))
    cases hn : number? u with
    | none =>
      rw [hn] at h
      cases h
      exact List.suffix_refl _
    | some p =>
      rw [hn] at h
      cases h
      exact number?_suffix hn
  · cases h

theorem bounds_suffix {extended : Bool} {s : List Char} {r : (Nat × Option Nat) × List Char}
    (h : bounds extended s = some r) : r.2 <:+ s := by
  rw [bounds_eq] at h
  simp only [Option.bind_eq_some_iff] at h
  obtain ⟨s₁, h₁, p, h₂, s₃, h₃, p', h₄, s₅, h₅, h⟩ := h
  have hend : r.2 <:+ s₅ := by
    rw [boundsEnd.eq_def] at h
    split at h
    · cases h
      exact List.suffix_cons _ _
    · cases h
  exact hend.trans <| (behindBlanks_suffix h₅).trans <| (mostBound_suffix h₄).trans <|
    (behindBlanks_suffix h₃).trans <| (leastBound_suffix h₂).trans (behindBlanks_suffix h₁)

theorem repetition_append (extended : Bool) (s : List Char) : repetition extended (s ++ closing) =
    ((repetition extended s).1, (repetition extended s).2 ++ closing) := by
  fun_cases repetition extended s with
  | case1 s => rfl
  | case2 s => rfl
  | case3 s => rfl
  | case4 s found u h =>
    rw [List.cons_append, repetition, (sealed_bounds extended).append, h]
    rfl
  | case5 s h =>
    rw [List.cons_append, repetition, (sealed_bounds extended).append, h]
    rfl
  | case6 _ h₁ h₂ h₃ h₄ =>
    cases s with
    | nil => rfl
    | cons c s =>
      refine repetition.eq_5 _ _ (fun _ h => ?_) (fun _ h => ?_) (fun _ h => ?_) fun _ h => ?_
      · exact h₁ s (by rw [(List.cons.inj h).1])
      · exact h₂ s (by rw [(List.cons.inj h).1])
      · exact h₃ s (by rw [(List.cons.inj h).1])
      · exact h₄ s (by rw [(List.cons.inj h).1])

theorem repetition_suffix (extended : Bool) (s : List Char) : (repetition extended s).2 <:+ s := by
  fun_cases repetition extended s with
  | case1 s => exact List.suffix_cons _ s
  | case2 s => exact List.suffix_cons _ s
  | case3 s => exact List.suffix_cons _ s
  | case4 s found u h => exact (bounds_suffix h).trans (List.suffix_cons _ s)
  | case5 s h => exact List.suffix_refl _
  | case6 _ h₁ h₂ h₃ h₄ => exact List.suffix_refl _

theorem repetition?_eq (st : State) : repetition? st =
    some ((repetition st.flags.extended st.rest).1,
      { st with rest := (repetition st.flags.extended st.rest).2 }) := rfl

theorem tame_repetition? : Tame w k repetition? := by
  refine .of_exact (fun {st a st'} h => ?_) fun st _ => ?_
  · cases h
    exact ⟨.ofSuffix (repetition_suffix _ _), rfl⟩
  · have hwide : repetition (w.widen st).flags.extended (w.widen st).rest = _ :=
      repetition_append st.flags.extended st.rest
    rw [repetition?_eq, hwide]
    rfl

theorem tame_repeated (r : Pattern) : Tame w k (repeated r) := by
  refine .seq tame_skip fun _ => .seq tame_repetition? fun found => ?_
  cases found with
  | none => exact .pure r
  | some bounds =>
    have hgreed : ∀ greedy, Tame w k (accept "+" >>= fun b =>
        if b = true then pure (Pattern.atomic (.repeat r bounds.1 bounds.2 greedy))
        else pure (.repeat r bounds.1 bounds.2 greedy)) :=
      fun _ => .seq (tame_accept (by decide)) fun _ => .ite (.pure _) (.pure _)
    have hmark : Tame w k (skip >>= fun _ => accept "?" >>= fun reluctant => get >>= fun st =>
        accept "+" >>= fun b =>
          if b = true then
            pure (Pattern.atomic (.repeat r bounds.1 bounds.2 (reluctant == st.flags.swapGreed)))
          else pure (.repeat r bounds.1 bounds.2 (reluctant == st.flags.swapGreed))) :=
      .seq tame_skip fun _ => .seq (tame_accept (by decide)) fun _ =>
        .get (fun _ => hgreed _) fun _ => rfl
    exact .ite (.seq .failure fun _ => hmark) hmark

theorem tame_piece {atom : Parse Pattern} (h : Tame w 0 atom) : Tame w 0 (piece atom) :=
  h.seq tame_repeated

/-! ## Groups -/

variable {inner : Parse Pattern}

theorem close_bind (f : Parse α) : (close >>= fun _ => f) =
    skip >>= fun _ => accept ")" >>= fun b => if b = true then f else failure := by
  show (skip >>= fun _ => accept ")" >>= fun b => if b = true then pure () else failure) >>= _ = _
  rw [bind_assoc]
  refine bind_congr fun _ => ?_
  rw [bind_assoc]
  refine bind_congr fun b => ?_
  cases b <;> rfl

theorem tame_closeThen {f : Parse α} (hf : Loose w (k + 1) f) :
    Tame w k (close >>= fun _ => f) :=
  close_bind f ▸ .seq tame_skip fun _ => tame_acceptClose hf

theorem tame_close : Tame w k close :=
  .seq tame_skip fun _ => tame_acceptClose (Tame.pure ()).toLoose

theorem tame_inside (h : Tame w 0 inner) : Tame w 0 (inside inner) :=
  h.seq fun _ => .seq tame_close fun _ => .pure _

theorem loose_setFlags (flags : Flags) :
    Loose w k (modify fun st => { st with flags } : Parse Unit) :=
  .of_exact (by rintro st _ _ ⟨⟩; exact { Step.refl k st with }) fun _ _ => rfl

theorem loose_flagSign {before : Flags} {more : Bool → Parse Pattern} (h : Tame w 0 inner)
    (hmore : ∀ on, Tame w 0 (more on)) (on : Bool) (readCount : Nat) (c : Char) :
    Loose w 0 (flagSign inner before on readCount more c) := by
  have hgroup : Tame w 0 (inner >>= fun r => accept ")" >>= fun b =>
      if b = true then (modify fun st => { st with flags := before }) >>= fun _ => pure r
      else failure) :=
    h.seq fun r => tame_acceptClose ((loose_setFlags before).bind (l := 0) fun _ => .pure r)
  unfold flagSign
  split
  · exact (Tame.ite .failure (.pure _)).toLoose
  · exact (Tame.ite (.seq .failure fun _ => hgroup) hgroup).toLoose
  · exact .ite (hmore _).toLoose Tame.failure.toLoose
  · refine .get (fun st => ?_) fun _ => rfl
    split
    · exact (loose_setFlags _).bind (l := 0) fun _ => hmore on
    · exact Tame.failure.toLoose

/-- What flag letters and signs behind blanks lead to. -/
theorem flagGroup_succ (before : Flags) (n readCount : Nat) (on : Bool) :
    flagGroup inner before (n + 1) readCount on = counted skip >>= fun p =>
      reading (flagSign inner before on (readCount + p.2)
        (flagGroup inner before n (readCount + p.2 + 1))) := rfl

theorem tame_flagGroup (h : Tame w 0 inner) (before : Flags) (n readCount : Nat) (on : Bool) :
    Tame w 0 (flagGroup inner before n readCount on) := by
  induction n generalizing readCount on with
  | zero => exact .failure
  | succ n ih =>
    rw [flagGroup_succ]
    exact .seq (tame_counted tame_skip) fun _ =>
      tame_reading_next fun c => (loose_flagSign h (ih _) on _ c).mono (Nat.zero_le _)

theorem flagSign_congr {before : Flags} {more more' : Bool → Parse Pattern} {st : State}
    (h : ∀ on st', st'.rest.length ≤ st.rest.length → more on st' = more' on st')
    (on : Bool) (readCount : Nat) (c : Char) :
    flagSign inner before on readCount more c st =
      flagSign inner before on readCount more' c st := by
  unfold flagSign
  split
  · rfl
  · rfl
  · cases on
    · rfl
    · exact h false st le_rfl
  · have hget (f : State → Parse Pattern) : (get >>= f) st = f st st := rfl
    rw [hget, hget]
    cases st.flags.set? c on with
    | none => rfl
    | some flags => exact h on _ le_rfl

theorem bounded_flagGroup (before : Flags) (readCount : Nat) (on : Bool) :
    Bounded fun n => flagGroup inner before n readCount on := by
  refine bounded_of_guarded (p := fun n i => flagGroup inner before n i.1 i.2)
    (f := fun more i => counted skip >>= fun p =>
      reading (flagSign inner before i.2 (i.1 + p.2) fun on => more (i.1 + p.2 + 1, on)))
    (fun _ _ => rfl) (fun {q q' i st} h => ?_) (readCount, on)
  refine bind_congr_of_le (fun _ => tame_counted tame_skip) fun p st' hle => ?_
  refine reading_congr fun c st'' hlt => ?_
  exact flagSign_congr (fun on st₃ hle' => h _ _ (by omega)) _ _ c

theorem tame_condition (h : Tame w 0 inner) : Tame w 0 (condition inner) := by
  have hname : ∀ relative close, IsNameEnd close →
      Tame w 0 (namedReference relative close >>= fun n => referenceTo n) :=
    fun relative _ hclose => .seq (tame_namedReference relative hclose) fun n => tame_referenceTo n
  refine .seq (tame_accept (by decide)) fun _ => .ite (hname _ _ (by simp [IsNameEnd])) ?_
  refine .seq (tame_accept (by decide)) fun _ => .ite (hname _ _ (by simp [IsNameEnd])) ?_
  exact tame_peek rfl fun _ => .ite (hname _ _ (by simp [IsNameEnd])) h

theorem tame_conditionalGroup (h : Tame w 0 inner) : Tame w 0 (conditionalGroup inner) := by
  refine (tame_condition h).seq fun test => .seq tame_close fun _ => ?_
  refine (tame_counted h).seq fun body => .seq tame_close fun _ => ?_
  exact .ite .failure (.ite (.pure _) (.pure _))

/-! ### Groups that keep what they match -/

theorem tame_openGroup : Tame w 2 openGroup := by
  refine .of_exact (fun {st a st'} h => ?_) fun _ _ => rfl
  cases h
  refine ⟨?_, rfl⟩
  exact {
    rest := List.suffix_refl _
    numberBound := rfl
    references := List.Subset.refl _
    numbered := id
    weight := by
      simp only [State.weight]
      omega }

/-- Notes that leave what is left to read as it is. -/
theorem tame_noteNames (f : List (List Char × Nat) → List (List Char × Nat)) :
    Tame w k (modify fun st => { st with groupNames := f st.groupNames } : Parse Unit) :=
  .of_exact (by rintro st _ _ ⟨⟩; exact ⟨{ Step.refl k st with }, rfl⟩) fun _ _ => rfl

theorem tame_noteExtents (f : List (Nat × Extent) → List (Nat × Extent)) :
    Tame w k (modify fun st => { st with extents := f st.extents } : Parse Unit) :=
  .of_exact (by rintro st _ _ ⟨⟩; exact ⟨{ Step.refl k st with }, rfl⟩) fun _ _ => rfl

theorem tame_nameGroup (index : Nat) {groupName : Option (Parse (List Char))}
    (h : ∀ p ∈ groupName, Tame w 0 p) : Tame w 0 (nameGroup index groupName) := by
  cases groupName with
  | none => exact .pure ()
  | some p => exact (h p rfl).seq fun found => tame_noteNames _

/-- Reading the closing parenthesis pays for one that was read before. -/
theorem weight_close {st st' : State} {u : Unit} (h : close st = some (u, st')) :
    st'.weight + 1 ≤ st.weight := by
  obtain ⟨_, st₁, hskip, h⟩ := bind_eq_some.mp h
  obtain ⟨b, st₂, haccept, h⟩ := bind_eq_some.mp h
  have hle := (step_of_tame (fun _ => tame_skip) hskip).weight
  cases b with
  | false => cases h
  | true =>
    cases h
    obtain ⟨hrest, heq⟩ := accept_eq_true haccept
    rw [heq]
    simp only [State.weight, hrest, List.countP_append] at hle ⊢
    have hclose : ")".toList.countP (· != '$') = 1 := by decide
    omega

/-- The parenthesis that closes the group pays for it, together with the one that opens it. -/
theorem tame_keeping (h : Tame w 0 inner) {groupName : Option (Parse (List Char))}
    (hname : ∀ p ∈ groupName, Tame w 0 p) : Tame w 1 (keeping inner groupName) := by
  have hall : Tame w 2 (keeping inner groupName) :=
    tame_openGroup.bind (l := 0) fun index => (tame_nameGroup index hname).seq fun _ =>
      (tame_inside h).seq fun r => .seq (tame_noteExtents _) fun _ => .pure _
  refine hall.of_weight fun {st a st'} hst => ?_
  obtain ⟨index, st₁, hopen, hst⟩ := bind_eq_some.mp hst
  obtain ⟨_, st₂, hnamed, hst⟩ := bind_eq_some.mp hst
  obtain ⟨r, st₃, hinside, hst⟩ := bind_eq_some.mp hst
  obtain ⟨r', st₄, hinner, hinside⟩ := bind_eq_some.mp hinside
  obtain ⟨u, st₅, hclose, hinside⟩ := bind_eq_some.mp hinside
  cases hinside
  cases hst
  have h₁ := (tame_openGroup.step (w := w) hopen).weight
  have h₂ := ((tame_nameGroup index hname).step hnamed).weight
  have h₃ := (h.step hinner).weight
  have h₄ := weight_close hclose
  show st₃.weight ≤ st.weight + 1
  omega

theorem tame_group (h : Tame w 0 inner) : Tame w 1 (group inner) := by
  have hclose : ∀ k (r : Pattern → Pattern), Tame w k (inside inner >>= fun p => pure (r p)) :=
    fun k r => .mono ((tame_inside h).seq fun _ => .pure _) (Nat.zero_le k)
  refine .seq tame_skip fun _ => ?_
  refine .seq (tame_accept (by decide)) fun _ => .ite (hclose _ _) ?_
  refine .seq (tame_accept (by decide)) fun _ => .ite (hclose _ _) ?_
  refine .seq (tame_accept (by decide)) fun _ => .ite (hclose _ _) ?_
  refine .seq (tame_accept (by decide)) fun _ => .ite (hclose _ _) ?_
  refine .seq (tame_accept (by decide)) fun _ => .ite (tame_keeping h ?_) ?_
  · rintro p ⟨⟩
    exact tame_newName (by simp [IsNameEnd])
  refine .seq (tame_accept (by decide)) fun _ => .ite (tame_keeping h ?_) ?_
  · rintro p ⟨⟩
    exact tame_newName (by simp [IsNameEnd])
  refine .seq (tame_accept (by decide)) fun _ => .ite (tame_keeping h ?_) ?_
  · rintro p ⟨⟩
    exact tame_newName (by simp [IsNameEnd])
  refine .seq (tame_accept (by decide)) fun _ => .ite ?_ ?_
  · exact .seq (tame_namedReference false (by simp [IsNameEnd])) fun n => tame_referenceTo n
  refine .seq (tame_accept (by decide)) fun _ => .ite (hclose _ _) ?_
  refine .seq (tame_accept (by decide)) fun _ =>
    .ite ((tame_conditionalGroup h).mono (Nat.zero_le 1)) ?_
  refine .seq (tame_accept (by decide)) fun _ => .ite ?_ (tame_keeping h fun p hp => by cases hp)
  refine .get (fun st => ?_) fun _ => rfl
  exact (tame_bounded (bounded_flagGroup st.flags 0 true) fun n =>
    tame_flagGroup h st.flags n 0 true).mono (Nat.zero_le 1)

/-! ## Levels -/

theorem tame_atomFrom (h : Tame w 0 inner) (flags : Flags) (c : Char) :
    Loose w (k + charge c) (atomFrom inner flags c) := by
  unfold atomFrom
  split
  · exact (Tame.pure _).toLoose
  · exact (Tame.pure _).toLoose
  · exact (Tame.pure _).toLoose
  · exact ((tame_group h).mono (Nat.le_add_left _ _)).toLoose
  · exact (Tame.seq tame_bracket fun _ => .pure _).toLoose
  · refine (tame_escape.bind (l := 0) fun e => ?_).toLoose
    split
    · exact .pure _
    · exact .pure _
    · exact .pure _
  · exact (Tame.pure _).toLoose

theorem tame_atom (h : Tame w 0 inner) : Tame w k (atom inner) := by
  refine .seq tame_skip fun _ => .get (fun st => ?_) fun _ => rfl
  refine .next (fun c => ['+', '*', '?', '|', ')'].contains c) (fun _ => pure .empty)
    (atomFrom inner st.flags) (fun _ _ => rfl) (fun c s st' _ => ?_) (fun _ => .pure _)
    fun c => tame_atomFrom h st.flags c
  dsimp only
  split <;> rfl

theorem tame_pieces (h : Tame w 0 inner) (n : Nat) : Tame w k (pieces inner n) := by
  induction n with
  | zero => exact .pure []
  | succ n ih =>
    refine .seq (tame_counted (tame_piece (tame_atom h))) fun p => ?_
    exact .ite (.pure _) (ih.bind (l := 0) fun _ => .pure _)

theorem bounded_pieces : Bounded (pieces inner) := by
  refine bounded_of_guarded (p := fun n (_ : Unit) => pieces inner n)
    (f := fun more _ => counted (piece (atom inner)) >>= fun p =>
      if p.2 = 0 then pure [] else more () >>= fun rs =>
        pure (if p.1.isEmpty then rs else p.1 :: rs))
    (fun _ _ => rfl) (fun {q q' i st} hq => ?_) ()
  refine bind_congr_of_eq_some fun p st' hp => ?_
  obtain ⟨r, -, rfl⟩ := counted_eq_some.mp hp
  dsimp only
  split
  · rfl
  · show (q () st').bind _ = (q' () st').bind _
    rw [hq () st' (by omega)]

theorem tame_branch (h : Tame w 0 inner) : Tame w k (branch inner) :=
  (tame_bounded bounded_pieces fun n => tame_pieces h n).bind (l := 0) fun _ => .pure _

theorem tame_moreBranches (h : Tame w 0 inner) (n : Nat) : Tame w k (moreBranches inner n) := by
  induction n generalizing k with
  | zero => exact .pure []
  | succ n ih =>
    refine .seq tame_skip fun _ => .seq (tame_accept (by decide)) fun _ => .ite ?_ (.pure _)
    exact .seq (tame_branch h) fun r => ih.bind (l := 0) fun _ => .pure _

theorem bounded_moreBranches (h : ∀ w, Tame w 0 inner) : Bounded (moreBranches inner) := by
  refine bounded_of_guarded (p := fun n (_ : Unit) => moreBranches inner n)
    (f := fun more _ => skip >>= fun _ => accept "|" >>= fun b =>
      if b = true then branch inner >>= fun r => more () >>= fun rs => pure (r :: rs)
      else pure [])
    (fun _ _ => rfl) (fun {q q' i st} hq => ?_) ()
  refine bind_congr_of_le (fun _ => tame_skip) fun _ st₁ hle₁ => ?_
  refine bind_congr_of_eq_some fun b st₂ hb => ?_
  cases b with
  | false => rfl
  | true =>
    refine bind_congr_of_le (fun w => tame_branch (h w)) fun r st₃ hle₃ => ?_
    have hlt : st₂.rest.length < st₁.rest.length := by
      rw [(accept_eq_true hb).1]
      exact Nat.lt_succ_self _
    show (q () st₃).bind _ = (q' () st₃).bind _
    rw [hq () st₃ (by omega)]

theorem tame_alternatives (h : ∀ w, Tame w 0 inner) (first : Pattern) :
    Tame w k (alternatives inner first) := by
  refine .seq (tame_bounded (bounded_moreBranches h) fun n => tame_moreBranches (h w) n)
    fun others => ?_
  cases others with
  | nil => exact .get (fun _ => .ite .failure (.pure _)) fun _ => rfl
  | cons r rs => exact .pure _

theorem tame_level (h : ∀ w, Tame w 0 inner) : Tame w k (level inner) :=
  .seq (tame_branch (h w)) (tame_alternatives h)

/-- Reading a pattern up to where it ends is the same inside a group as on its own. -/
theorem tame_nested (n : Nat) : Tame w k (nested n) := by
  induction n generalizing w k with
  | zero => exact tame_level fun _ => .failure
  | succ n ih => exact tame_level fun _ => ih

end TreePath.Regex.Parser
