/-
TreePath.Proofs.Regex.Stretches — which stretches of a text a regular pattern matches.

What a regular pattern matches is said along its tree (`Matches`), without steps and threads. The
steps of a pattern lead from the first of them to what is behind the last one along exactly these
stretches (`passage_toSteps`): each form of pattern is a way to put passages together. Making a
pattern simpler changes nothing about what it matches (`matches_simplify`), so the program of a
pattern matches what the pattern does (`matchesAt_of_program?`).
-/
import TreePath.Proofs.Regex.Exploring

namespace TreePath.Regex.Regular

open TreePath.Text (CharSet)

/-! ## Stretches -/

/-- Some number of stretches one after another, each of them in the relation. -/
def Chain (R : Nat → Nat → Prop) : Nat → Nat → Nat → Prop
  | 0, i, j => i = j
  | n + 1, i, k => ∃ j, R i j ∧ Chain R n j k

/-- The pattern matches the stretch of the text between two positions. -/
def Matches (text : Array Char) : Regular → Nat → Nat → Prop
  | empty, i, j => i = j
  | set s, i, j => (∃ c, text[i]? = some c ∧ s.contains c = true) ∧ i + 1 = j
  | edge e, i, j => e.holds text i = true ∧ i = j
  | seq a b, i, k => ∃ j, Matches text a i j ∧ Matches text b j k
  | alt a b, i, j => Matches text a i j ∨ Matches text b i j
  | group _ r, i, j => Matches text r i j
  | «repeat» r least most _, i, j =>
    ∃ n, least ≤ n ∧ (∀ m ∈ most, n ≤ m) ∧ Chain (Matches text r) n i j

/-- The lower bounds of repetitions are not above the upper ones. -/
def Ordered : Regular → Prop
  | empty | set _ | edge _ => True
  | seq a b | alt a b => Ordered a ∧ Ordered b
  | group _ r => Ordered r
  | «repeat» r least most _ => (∀ m ∈ most, least ≤ m) ∧ Ordered r

variable {text : Array Char} {R S : Nat → Nat → Prop}

theorem Chain.congr (h : ∀ i j, R i j ↔ S i j) : ∀ n i j, Chain R n i j ↔ Chain S n i j
  | 0, _, _ => Iff.rfl
  | n + 1, _, _ => exists_congr fun j => and_congr (h _ j) (Chain.congr h n j _)

theorem chain_add {n m i k : Nat} :
    Chain R (n + m) i k ↔ ∃ j, Chain R n i j ∧ Chain R m j k := by
  induction n generalizing i with
  | zero =>
    rw [Nat.zero_add]
    exact ⟨fun h => ⟨i, rfl, h⟩, fun ⟨j, hij, h⟩ => hij ▸ h⟩
  | succ n ih =>
    rw [Nat.succ_add]
    constructor
    · rintro ⟨j', hR, h⟩
      obtain ⟨j, hfront, hback⟩ := ih.mp h
      exact ⟨j, ⟨j', hR, hfront⟩, hback⟩
    · rintro ⟨j, ⟨j', hR, hfront⟩, hback⟩
      exact ⟨j', hR, ih.mpr ⟨j, hfront, hback⟩⟩

namespace Program

variable {p : Program}

/-! ## Runs -/

/-- A search can come from a place to an accepting step at the position `stop`, in some number of
steps. -/
inductive Run (p : Program) (text : Array Char) (stop : Nat) : Nat → Place → Prop where
  | accept {i : Nat} (hstep : p.steps[i]? = some .accept) : Run p text stop 0 (i, stop)
  | next {n : Nat} {a b : Place} (hleads : Leads p text a b) (h : Run p text stop n b) :
    Run p text stop (n + 1) a

theorem Run.reaches {stop n : Nat} {a : Place} (h : Run p text stop n a) :
    ∃ i, p.steps[i]? = some .accept ∧ Reaches p text a (i, stop) := by
  induction h with
  | accept hstep => exact ⟨_, hstep, .refl⟩
  | next hleads _ ih =>
    obtain ⟨i, haccept, hreaches⟩ := ih
    exact ⟨i, haccept, .head hleads hreaches⟩

theorem Reaches.run {i stop : Nat} {a : Place} (haccept : p.steps[i]? = some .accept)
    (h : Reaches p text a (i, stop)) : ∃ n, Run p text stop n a := by
  induction h using Relation.ReflTransGen.head_induction_on with
  | refl => exact ⟨0, .accept haccept⟩
  | head hleads _ ih =>
    obtain ⟨n, hrun⟩ := ih
    exact ⟨n + 1, .next hleads hrun⟩

theorem matchesAt_iff {start stop : Nat} :
    MatchesAt p text start stop ↔ ∃ n, Run p text stop n (0, start) :=
  ⟨fun ⟨_, haccept, hreaches⟩ => Reaches.run haccept hreaches, fun ⟨_, hrun⟩ => hrun.reaches⟩

/-- How a run begins can be told from the step where it does. -/
theorem run_iff {stop n i q : Nat} {step : Step} (hstep : p.steps[i]? = some step)
    (haccept : step ≠ .accept) :
    Run p text stop n (i, q) ↔ ∃ m, n = m + 1 ∧
      ∃ u ∈ ({ step := i, position := q } : Thread).successors text step,
        Run p text stop m u.place := by
  constructor
  · intro h
    cases h with
    | accept hstep' => exact absurd (Option.some.inj (hstep.symm.trans hstep')) haccept
    | next hleads hrun =>
      obtain ⟨u, hu, rfl⟩ := Leads.exists_successor (t := { step := i, position := q }) hstep hleads
      exact ⟨_, rfl, u, hu, hrun⟩
  · rintro ⟨m, rfl, u, hu, hrun⟩
    exact .next (Leads.of_mem_successors (t := { step := i, position := q }) hstep hu) hrun

theorem Run.eq_stop {stop n i q : Nat} (h : Run p text stop n (i, q))
    (hstep : p.steps[i]? = some .accept) : q = stop := by
  cases h with
  | accept => rfl
  | next hleads =>
    obtain ⟨u, hu, -⟩ := Leads.exists_successor (t := { step := i, position := q }) hstep hleads
    cases hu

theorem run_fork {stop n i q : Nat} {d : Int} {onward : Bool}
    (hstep : p.steps[i]? = some (.fork d onward)) :
    Run p text stop n (i, q) ↔ ∃ m, n = m + 1 ∧
      (Run p text stop m (i + 1, q) ∨ Run p text stop m (((i : Int) + d).toNat, q)) := by
  rw [run_iff hstep nofun]
  refine exists_congr fun m => and_congr_right fun _ => ?_
  cases onward with
  | true => simp [Thread.successors, Thread.onward, Thread.jump, Thread.place]
  | false => simp [Thread.successors, Thread.onward, Thread.jump, Thread.place, or_comm]

/-! ## Passages -/

/-- Runs from one step pass another one, having moved along a stretch of the relation; and every
such stretch can be moved along. -/
structure Passage (p : Program) (text : Array Char) (o o' : Nat) (R : Nat → Nat → Prop) : Prop where
  split {stop n i : Nat} (h : Run p text stop n (o, i)) :
    ∃ j m, m ≤ n ∧ R i j ∧ Run p text stop m (o', j)
  extend {stop m i j : Nat} (hR : R i j) (h : Run p text stop m (o', j)) :
    ∃ n, Run p text stop n (o, i)

namespace Passage

variable {o o₁ o' : Nat}

theorem refl (o : Nat) : Passage p text o o Eq where
  split h := ⟨_, _, le_rfl, rfl, h⟩
  extend hR h := ⟨_, hR ▸ h⟩

theorem congr (h : Passage p text o o' R) (hRS : ∀ i j, R i j ↔ S i j) :
    Passage p text o o' S where
  split hrun :=
    have ⟨j, m, hm, hR, hrun⟩ := h.split hrun
    ⟨j, m, hm, (hRS _ j).mp hR, hrun⟩
  extend hS hrun := h.extend ((hRS _ _).mpr hS) hrun

theorem trans (h : Passage p text o o₁ R) (h' : Passage p text o₁ o' S) :
    Passage p text o o' fun i k => ∃ j, R i j ∧ S j k where
  split hrun := by
    obtain ⟨j, m, hm, hR, hrun⟩ := h.split hrun
    obtain ⟨k, l, hl, hS, hrun⟩ := h'.split hrun
    exact ⟨k, l, hl.trans hm, ⟨j, hR, hS⟩, hrun⟩
  extend := by
    rintro _ _ _ _ ⟨j, hR, hS⟩ hrun
    obtain ⟨n, hrun⟩ := h'.extend hS hrun
    exact h.extend hR hrun

theorem trans_eq (h : Passage p text o o₁ R) (h' : Passage p text o₁ o' Eq) :
    Passage p text o o' R :=
  (h.trans h').congr fun _ _ => exists_eq_right

theorem eq_trans (h : Passage p text o o₁ Eq) (h' : Passage p text o₁ o' R) :
    Passage p text o o' R :=
  (h.trans h').congr fun _ _ => exists_eq_left'

/-- One step that is followed by one other. -/
theorem single {step : Step} (hstep : p.steps[o]? = some step) (haccept : step ≠ .accept)
    (h : ∀ i b, (∃ u ∈ ({ step := o, position := i } : Thread).successors text step, u.place = b) ↔
      ∃ j, R i j ∧ b = (o', j)) : Passage p text o o' R where
  split {stop n i} hrun := by
    obtain ⟨m, rfl, u, hu, hrun⟩ := (run_iff hstep haccept).mp hrun
    obtain ⟨j, hR, hplace⟩ := (h i _).mp ⟨u, hu, rfl⟩
    exact ⟨j, m, Nat.le_succ m, hR, hplace ▸ hrun⟩
  extend {stop m i j} hR hrun := by
    obtain ⟨u, hu, hplace⟩ := (h i _).mpr ⟨j, hR, rfl⟩
    exact ⟨m + 1, (run_iff hstep haccept).mpr ⟨m, rfl, u, hu, hplace ▸ hrun⟩⟩

theorem read {s : CharSet} (hstep : p.steps[o]? = some (.read s)) :
    Passage p text o (o + 1) (Matches text (.set s)) := by
  refine single hstep nofun fun i b => ?_
  cases hchar : text[i]? with
  | none => simp [Thread.successors, Matches, hchar]
  | some c =>
    cases hmem : s.contains c with
    | true =>
      simp [Thread.successors, Thread.onward, Thread.place, Matches, hchar, hmem, @eq_comm _ b]
    | false => simp [Thread.successors, Matches, hchar, hmem]

theorem edge {e : Edge} (hstep : p.steps[o]? = some (.edge e)) :
    Passage p text o (o + 1) (Matches text (.edge e)) := by
  refine single hstep nofun fun i b => ?_
  cases hholds : e.holds text i with
  | true => simp [Thread.successors, Thread.onward, Thread.place, Matches, hholds, @eq_comm _ b]
  | false => simp [Thread.successors, Matches, hholds]

theorem goto {d : Int} (hstep : p.steps[o]? = some (.goto d)) (hd : ((o : Int) + d).toNat = o') :
    Passage p text o o' Eq :=
  single hstep nofun fun i b => by
    simp [Thread.successors, Thread.jump, Thread.place, hd, eq_comm]

theorem mark {slot : Nat} (hstep : p.steps[o]? = some (.mark slot)) :
    Passage p text o (o + 1) Eq :=
  single hstep nofun fun i b => by
    simp [Thread.successors, Thread.onward, Thread.place, eq_comm]

/-- Two ways that come together again. -/
theorem fork {d : Int} {onward : Bool} (hstep : p.steps[o]? = some (.fork d onward))
    (hd : ((o : Int) + d).toNat = o₁) (h : Passage p text (o + 1) o' R)
    (h' : Passage p text o₁ o' S) : Passage p text o o' fun i j => R i j ∨ S i j where
  split hrun := by
    obtain ⟨n, rfl, hrun | hrun⟩ := (run_fork hstep).mp hrun
    · obtain ⟨j, m, hm, hR, hrun⟩ := h.split hrun
      exact ⟨j, m, hm.trans (Nat.le_succ n), .inl hR, hrun⟩
    · obtain ⟨j, m, hm, hS, hrun⟩ := h'.split (hd ▸ hrun)
      exact ⟨j, m, hm.trans (Nat.le_succ n), .inr hS, hrun⟩
  extend := by
    rintro _ _ i j (hR | hS) hrun
    · obtain ⟨n, hrun⟩ := h.extend hR hrun
      exact ⟨_, (run_fork hstep).mpr ⟨_, rfl, .inl hrun⟩⟩
    · obtain ⟨n, hrun⟩ := h'.extend hS hrun
      exact ⟨_, (run_fork hstep).mpr ⟨_, rfl, .inr (hd ▸ hrun)⟩⟩

/-- A passage that can be taken again from its end. -/
theorem loop {d : Int} {onward : Bool} (h : Passage p text o o₁ R)
    (hstep : p.steps[o₁]? = some (.fork d onward)) (hd : ((o₁ : Int) + d).toNat = o) :
    Passage p text o (o₁ + 1) fun i j => ∃ n, Chain R (n + 1) i j where
  split {stop n i} hrun := by
    -- The run is shorter each time it comes back.
    induction n using Nat.strong_induction_on generalizing i with
    | _ n ih =>
      obtain ⟨j, m, hm, hR, hrun⟩ := h.split hrun
      obtain ⟨m, rfl, hrun | hrun⟩ := (run_fork hstep).mp hrun
      · exact ⟨j, m, by omega, ⟨0, j, hR, rfl⟩, hrun⟩
      · obtain ⟨k, l, hl, ⟨n', hchain⟩, hrun⟩ := ih m (by omega) (hd ▸ hrun)
        exact ⟨k, l, by omega, ⟨n' + 1, j, hR, hchain⟩, hrun⟩
  extend := by
    rintro stop m i k ⟨n, hchain⟩ hrun
    induction n generalizing i with
    | zero =>
      obtain ⟨j, hR, rfl⟩ := hchain
      exact h.extend hR ((run_fork hstep).mpr ⟨m, rfl, .inl hrun⟩)
    | succ n ih =>
      obtain ⟨j, hR, hchain⟩ := hchain
      obtain ⟨l, hrun⟩ := ih hchain
      exact h.extend hR ((run_fork hstep).mpr ⟨l, rfl, .inr (hd ▸ hrun)⟩)

end Passage

/-! ## Steps of patterns -/

/-- The steps stand in the program, the first of them at the place. -/
def Holds (p : Program) (o : Nat) (s : List Step) : Prop :=
  ∀ i step, s[i]? = some step → p.steps[o + i]? = some step

theorem holds_append {o : Nat} {s t : List Step} :
    p.Holds o (s ++ t) ↔ p.Holds o s ∧ p.Holds (o + s.length) t := by
  constructor
  · intro h
    constructor
    · intro i step hi
      exact h i step (List.getElem?_append_left (List.getElem?_eq_some_iff.mp hi).1 ▸ hi)
    · intro i step hi
      have := h (s.length + i) step
        (by rw [List.getElem?_append_right (Nat.le_add_right ..)]; simpa)
      rwa [← Nat.add_assoc] at this
  · rintro ⟨hs, ht⟩ i step hi
    rcases Nat.lt_or_ge i s.length with hlt | hge
    · exact hs i step (List.getElem?_append_left hlt ▸ hi)
    · rw [List.getElem?_append_right hge] at hi
      have := ht _ step hi
      rwa [Nat.add_assoc, Nat.add_sub_cancel' hge] at this

theorem holds_cons {o : Nat} {step : Step} {s : List Step} :
    p.Holds o (step :: s) ↔ p.steps[o]? = some step ∧ p.Holds (o + 1) s := by
  rw [← List.singleton_append, holds_append]
  refine and_congr_left' ⟨fun h => h 0 step rfl, fun h i step' hi => ?_⟩
  cases i with
  | zero =>
    cases hi
    exact h
  | succ i => cases hi

variable {o : Nat} {one : List Step}

theorem length_copies (n : Nat) (one : List Step) : (copies n one).length = n * one.length := by
  simp [copies]

theorem length_optional (greedy : Bool) (one : List Step) (n : Nat) :
    (optional one greedy n).length = n * (one.length + 1) := by
  induction n with
  | zero => simp [optional]
  | succ n ih =>
    rw [optional, List.length_cons, List.length_append, ih, Nat.succ_mul]
    omega

section

variable (hone : ∀ o, p.Holds o one → Passage p text o (o + one.length) R)

include hone

theorem passage_copies (n : Nat) (h : p.Holds o (copies n one)) :
    Passage p text o (o + (copies n one).length) (Chain R n) := by
  induction n generalizing o with
  | zero => exact .refl o
  | succ n ih =>
    have hcopies : copies (n + 1) one = one ++ copies n one := rfl
    rw [hcopies, holds_append] at h
    rw [hcopies, List.length_append, ← Nat.add_assoc]
    exact (hone o h.1).trans (ih h.2)

theorem passage_optional (greedy : Bool) (n : Nat) (h : p.Holds o (optional one greedy n)) :
    Passage p text o (o + (optional one greedy n).length) fun i j => ∃ m ≤ n, Chain R m i j := by
  induction n generalizing o with
  | zero =>
    refine (Passage.refl o).congr fun i j => ?_
    exact ⟨fun hij => ⟨0, le_rfl, hij⟩, fun ⟨m, hm, hchain⟩ => by
      obtain rfl := Nat.le_zero.mp hm
      exact hchain⟩
  | succ n ih =>
    rw [optional, holds_cons, holds_append] at h
    obtain ⟨hfork, hfirst, hrest⟩ := h
    rw [length_optional, Nat.succ_mul]
    have hway := (hone _ hfirst).trans (ih hrest)
    rw [length_optional, show o + 1 + one.length + n * (one.length + 1)
      = o + (n * (one.length + 1) + (one.length + 1)) by omega] at hway
    have haway : ((o : Int) + (n + 1) * (one.length + 1)).toNat
        = o + (n * (one.length + 1) + (one.length + 1)) := by
      rw [← Nat.succ_mul]
      norm_cast
    refine (Passage.fork hfork haway hway (.refl _)).congr fun i j => ?_
    · constructor
      · rintro (⟨k, hR, m, hm, hchain⟩ | rfl)
        · exact ⟨m + 1, Nat.succ_le_succ hm, k, hR, hchain⟩
        · exact ⟨0, Nat.zero_le _, rfl⟩
      · rintro ⟨m, hm, hchain⟩
        cases m with
        | zero => exact .inr hchain
        | succ m =>
          obtain ⟨k, hR, hchain⟩ := hchain
          exact .inl ⟨k, hR, m, Nat.le_of_succ_le_succ hm, hchain⟩

theorem passage_loop (greedy : Bool) (h : p.Holds o (loop one greedy)) :
    Passage p text o (o + (loop one greedy).length) fun i j => ∃ n, Chain R (n + 1) i j := by
  rw [loop, holds_append, holds_cons] at h
  rw [loop, List.length_append, List.length_singleton, ← Nat.add_assoc]
  exact (hone o h.1).loop h.2.1 (by omega)

theorem passage_bounded (greedy : Bool) {least most : Nat} (hle : least ≤ most)
    (h : p.Holds o (copies least one ++ optional one greedy (most - least))) :
    Passage p text o (o + (copies least one ++ optional one greedy (most - least)).length)
      fun i j => ∃ n, least ≤ n ∧ n ≤ most ∧ Chain R n i j := by
  rw [holds_append] at h
  rw [List.length_append, ← Nat.add_assoc]
  refine ((passage_copies hone least h.1).trans
    (passage_optional hone greedy (most - least) h.2)).congr fun i j => ?_
  constructor
  · rintro ⟨k, hfirst, m, hm, hrest⟩
    exact ⟨least + m, by omega, by omega, chain_add.mpr ⟨k, hfirst, hrest⟩⟩
  · rintro ⟨n, hn, hmost, hchain⟩
    rw [← Nat.add_sub_of_le hn, chain_add] at hchain
    obtain ⟨k, hfirst, hrest⟩ := hchain
    exact ⟨k, hfirst, n - least, by omega, hrest⟩

theorem passage_any (greedy : Bool)
    (h : p.Holds o (.fork (one.length + 2) greedy :: loop one greedy)) :
    Passage p text o (o + (loop one greedy).length + 1) fun i j => ∃ n, Chain R n i j := by
  rw [holds_cons] at h
  have hloop := passage_loop hone greedy h.2
  rw [loop, List.length_append, List.length_singleton] at hloop ⊢
  rw [show o + 1 + (one.length + 1) = o + (one.length + 1) + 1 by omega] at hloop
  refine (Passage.fork h.1 (by omega) hloop (.refl _)).congr fun i j => ?_
  constructor
  · rintro (⟨n, hchain⟩ | rfl)
    · exact ⟨n + 1, hchain⟩
    · exact ⟨0, rfl⟩
  · rintro ⟨n, hchain⟩
    cases n with
    | zero => exact .inr hchain
    | succ n => exact .inl ⟨n, hchain⟩

theorem passage_atLeast (greedy : Bool) (least : Nat)
    (h : p.Holds o (copies least one ++ loop one greedy)) :
    Passage p text o (o + (copies least one ++ loop one greedy).length)
      fun i j => ∃ n, least + 1 ≤ n ∧ Chain R n i j := by
  rw [holds_append] at h
  rw [List.length_append, ← Nat.add_assoc]
  refine ((passage_copies hone least h.1).trans
    (passage_loop hone greedy h.2)).congr fun i j => ?_
  constructor
  · rintro ⟨k, hfirst, n, hrest⟩
    exact ⟨least + (n + 1), by omega, chain_add.mpr ⟨k, hfirst, hrest⟩⟩
  · rintro ⟨n, hn, hchain⟩
    obtain ⟨n, rfl⟩ := Nat.exists_eq_add_of_le hn
    rw [Nat.add_right_comm, Nat.add_assoc, chain_add] at hchain
    obtain ⟨k, hfirst, hrest⟩ := hchain
    exact ⟨k, hfirst, n, hrest⟩

end

/-- **Steps of patterns.** They lead along the stretches that the pattern matches. -/
theorem passage_toSteps {r : Regular} (hr : r.Ordered) (h : p.Holds o r.toSteps) :
    Passage p text o (o + r.toSteps.length) (Matches text r) := by
  induction r generalizing o with
  | empty => exact .refl o
  | set s => exact .read (holds_cons.mp h).1
  | edge e => exact .edge (holds_cons.mp h).1
  | seq a b iha ihb =>
    rw [toSteps, holds_append] at h
    rw [toSteps, List.length_append, ← Nat.add_assoc]
    exact (iha hr.1 h.1).trans (ihb hr.2 h.2)
  | alt a b iha ihb =>
    rw [toSteps, holds_cons, holds_append, holds_cons] at h
    obtain ⟨hfork, hleft, hgoto, hright⟩ := h
    have hlength : (toSteps (alt a b)).length = a.toSteps.length + b.toSteps.length + 2 := by
      simp [toSteps]
      omega
    rw [hlength]
    have hover : Passage p text (o + 1 + a.toSteps.length)
        (o + (a.toSteps.length + b.toSteps.length + 2)) Eq := .goto hgoto (by omega)
    have hleft := (iha hr.1 hleft).trans_eq hover
    have hright := ihb hr.2 hright
    rw [show o + 1 + a.toSteps.length + 1 + b.toSteps.length
      = o + (a.toSteps.length + b.toSteps.length + 2) by omega] at hright
    exact .fork hfork (by omega) hleft hright
  | group number r ih =>
    cases number with
    | none => exact ih hr h
    | some n =>
      rw [toSteps, holds_cons, holds_append, holds_cons] at h
      obtain ⟨hopen, hinside, hclose, -⟩ := h
      have hfront : Passage p text o (o + 1) Eq := .mark hopen
      have hway := (hfront.eq_trans (ih hr hinside)).trans_eq (.mark hclose)
      rw [show o + 1 + r.toSteps.length + 1 = o + (toSteps (group (some n) r)).length by
        simp [toSteps]
        omega] at hway
      exact hway
  | «repeat» r least most greedy ih =>
    have hone (o : Nat) : p.Holds o r.toSteps →
        Passage p text o (o + r.toSteps.length) (Matches text r) := ih hr.2
    cases most with
    | some most =>
      rw [toSteps] at h ⊢
      exact (passage_bounded hone greedy (hr.1 most rfl) h).congr fun i j => by simp [Matches]
    | none =>
      cases least with
      | zero => exact (passage_any hone greedy h).congr fun i j => by simp [Matches]
      | succ least => exact (passage_atLeast hone greedy least h).congr fun i j => by simp [Matches]

end Program

/-! ## Simpler patterns -/

theorem chain_of_still (hR : ∀ i j, R i j → i = j) {n i j : Nat} :
    Chain R n i j ↔ i = j ∧ (0 < n → R i i) := by
  induction n with
  | zero => exact ⟨fun h => ⟨h, nofun⟩, fun h => h.1⟩
  | succ n ih =>
    constructor
    · rintro ⟨k, hk, hchain⟩
      cases hR _ _ hk
      exact ⟨(ih.mp hchain).1, fun _ => hk⟩
    · rintro ⟨rfl, h⟩
      exact ⟨i, h (Nat.succ_pos n), ih.mpr ⟨rfl, fun _ => h (Nat.succ_pos n)⟩⟩

theorem eq_of_consumesNothing {r : Regular} {i j : Nat} (h : r.consumesNothing = true)
    (hmatch : Matches text r i j) : i = j := by
  induction r generalizing i j with
  | empty => exact hmatch
  | set s => cases h
  | edge e => exact hmatch.2
  | seq a b iha ihb =>
    rw [consumesNothing, Bool.and_eq_true] at h
    obtain ⟨k, ha, hb⟩ := hmatch
    exact (iha h.1 ha).trans (ihb h.2 hb)
  | alt a b iha ihb =>
    rw [consumesNothing, Bool.and_eq_true] at h
    exact hmatch.elim (iha h.1) (ihb h.2)
  | group number r ih => exact ih h hmatch
  | «repeat» r least most greedy ih =>
    rw [consumesNothing, Bool.or_eq_true] at h
    obtain ⟨n, -, hmost, hchain⟩ := hmatch
    rcases h with h | h
    · obtain rfl := Nat.le_zero.mp (hmost 0 (by simpa using h))
      exact hchain
    · exact ((chain_of_still fun _ _ => ih h).mp hchain).1

theorem matches_simpleAlt {a b : Regular} {i j : Nat} :
    Matches text (simpleAlt a b) i j ↔ Matches text a i j ∨ Matches text b i j := by
  rw [simpleAlt.eq_def]
  split
  · simp only [Matches, CharSet.contains_union, Bool.or_eq_true, and_or_left, exists_or,
      or_and_right]
  · rfl

theorem ordered_simpleAlt {a b : Regular} (ha : a.Ordered) (hb : b.Ordered) :
    (simpleAlt a b).Ordered := by
  rw [simpleAlt.eq_def]
  split
  · trivial
  · exact ⟨ha, hb⟩

theorem ordered_once {least : Nat} {most : Option Nat} (hbounds : ∀ m ∈ most, least ≤ m) :
    ∀ m ∈ some (min (most.getD 1) 1), min least 1 ≤ m := by
  rintro m ⟨⟩
  cases most with
  | none => exact min_le_right least 1
  | some m => exact min_le_min_right 1 (hbounds m rfl)

/-- What consumes nothing matches as often as wanted if it does once. -/
theorem matches_repeat_still {r : Regular} {least : Nat} {most : Option Nat} {greedy : Bool}
    {i j : Nat} (hstill : r.consumesNothing = true) (hbounds : ∀ m ∈ most, least ≤ m) :
    Matches text (.repeat r (min least 1) (some (min (most.getD 1) 1)) greedy) i j ↔
      Matches text (.repeat r least most greedy) i j := by
  simp only [Matches, chain_of_still fun _ _ => eq_of_consumesNothing hstill]
  constructor
  · rintro ⟨n, hn, -, rfl, h⟩
    exact ⟨least, le_rfl, hbounds, rfl, fun hpos => h (by omega)⟩
  · rintro ⟨n, hn, -, rfl, h⟩
    exact ⟨min least 1, le_rfl, ordered_once hbounds, rfl, fun hpos => h (by omega)⟩

theorem matches_repeat_once {r : Regular} {greedy : Bool} {i j : Nat} :
    Matches text (.repeat r 1 (some 1) greedy) i j ↔ Matches text r i j := by
  constructor
  · rintro ⟨n, hn, hmost, hchain⟩
    obtain rfl := Nat.le_antisymm (hmost 1 rfl) hn
    obtain ⟨k, hr, rfl⟩ := hchain
    exact hr
  · exact fun h => ⟨1, le_rfl, by simp, j, h, rfl⟩

theorem matches_repeat_never {r : Regular} {greedy : Bool} {i j : Nat} :
    Matches text (.repeat r 0 (some 0) greedy) i j ↔ i = j := by
  constructor
  · rintro ⟨n, -, hmost, hchain⟩
    obtain rfl := Nat.le_zero.mp (hmost 0 rfl)
    exact hchain
  · exact fun h => ⟨0, le_rfl, by simp, h⟩

/-- What `simpleRepeat` makes of bounds that are simple already. -/
def repeatOnceAtLeast (r : Regular) (least : Nat) (most : Option Nat) (greedy : Bool) : Regular :=
  if most = some 0 then empty
  else if least = 1 && most = some 1 then r
  else «repeat» r least most greedy

theorem simpleRepeat_eq (r : Regular) (least : Nat) (most : Option Nat) (greedy : Bool) :
    simpleRepeat r least most greedy =
      if r.consumesNothing then
        repeatOnceAtLeast r (min least 1) (some (min (most.getD 1) 1)) greedy
      else repeatOnceAtLeast r least most greedy := by
  unfold simpleRepeat
  cases r.consumesNothing <;> rfl

theorem matches_repeatOnceAtLeast {r : Regular} {least : Nat} {most : Option Nat} {greedy : Bool}
    {i j : Nat} (hbounds : ∀ m ∈ most, least ≤ m) :
    Matches text (repeatOnceAtLeast r least most greedy) i j ↔
      Matches text (.repeat r least most greedy) i j := by
  rw [repeatOnceAtLeast]
  split
  · subst most
    obtain rfl := Nat.le_zero.mp (hbounds 0 rfl)
    exact matches_repeat_never.symm
  · split
    · rename_i h
      simp only [Bool.and_eq_true, decide_eq_true_eq] at h
      obtain ⟨rfl, rfl⟩ := h
      exact matches_repeat_once.symm
    · rfl

theorem matches_simpleRepeat {r : Regular} {least : Nat} {most : Option Nat} {greedy : Bool}
    {i j : Nat} (hbounds : ∀ m ∈ most, least ≤ m) :
    Matches text (simpleRepeat r least most greedy) i j ↔
      Matches text (.repeat r least most greedy) i j := by
  rw [simpleRepeat_eq]
  split
  · rw [matches_repeatOnceAtLeast (ordered_once hbounds), matches_repeat_still ‹_› hbounds]
  · exact matches_repeatOnceAtLeast hbounds

theorem ordered_simpleRepeat {r : Regular} {least : Nat} {most : Option Nat} {greedy : Bool}
    (hbounds : ∀ m ∈ most, least ≤ m) (hr : r.Ordered) :
    (simpleRepeat r least most greedy).Ordered := by
  have hordered : ∀ {least most}, (∀ m ∈ most, least ≤ m) →
      (repeatOnceAtLeast r least most greedy).Ordered := by
    intro least most hbounds
    rw [repeatOnceAtLeast]
    split
    · trivial
    · split
      · exact hr
      · exact ⟨hbounds, hr⟩
  rw [simpleRepeat_eq]
  split
  · exact hordered (ordered_once hbounds)
  · exact hordered hbounds

/-- **Simpler patterns.** They match what the pattern does. -/
theorem matches_simplify {r : Regular} (hr : r.Ordered) :
    r.simplify.Ordered ∧ ∀ i j, Matches text r.simplify i j ↔ Matches text r i j := by
  induction r with
  | empty | set | edge => exact ⟨trivial, fun _ _ => Iff.rfl⟩
  | seq a b iha ihb =>
    obtain ⟨ha, hmatches⟩ := iha hr.1
    obtain ⟨hb, hmatches'⟩ := ihb hr.2
    exact ⟨⟨ha, hb⟩, fun i j => exists_congr fun k => and_congr (hmatches i k) (hmatches' k j)⟩
  | alt a b iha ihb =>
    obtain ⟨ha, hmatches⟩ := iha hr.1
    obtain ⟨hb, hmatches'⟩ := ihb hr.2
    exact ⟨ordered_simpleAlt ha hb, fun i j =>
      matches_simpleAlt.trans (or_congr (hmatches i j) (hmatches' i j))⟩
  | group number r ih => cases number <;> exact ih hr
  | «repeat» r least most greedy ih =>
    obtain ⟨hsimple, hmatches⟩ := ih hr.2
    refine ⟨ordered_simpleRepeat hr.1 hsimple, fun i j => (matches_simpleRepeat hr.1).trans ?_⟩
    exact exists_congr fun n => and_congr_right fun _ => and_congr_right fun _ =>
      Chain.congr hmatches n i j

/-- **Programs.** The program of a pattern matches what the pattern does. -/
theorem matchesAt_of_program? {r : Regular} {p : Program} (hr : r.Ordered)
    (h : r.program? = some p) (start stop : Nat) :
    p.MatchesAt text start stop ↔ Matches text r start stop := by
  obtain ⟨hsimple, hmatches⟩ : r.simplify.Ordered ∧
      ∀ i j, Matches text r.simplify i j ↔ Matches text r i j := matches_simplify hr
  rw [program?] at h
  split at h
  · cases h
    have hsteps : Program.Holds ⟨(r.simplify.toSteps ++ [Step.accept]).toArray⟩ 0
        (r.simplify.toSteps ++ [.accept]) := by
      intro i step hi
      simpa using hi
    rw [Program.holds_append, Program.holds_cons] at hsteps
    have hway : Program.Passage _ text _ _ _ := Program.passage_toSteps hsimple hsteps.1
    rw [Program.matchesAt_iff, ← hmatches]
    constructor
    · rintro ⟨n, hrun⟩
      obtain ⟨j, m, -, hmatch, hrun⟩ := hway.split hrun
      exact hrun.eq_stop hsteps.2.1 ▸ hmatch
    · intro hmatch
      exact hway.extend hmatch (.accept hsteps.2.1)
  · cases h

end TreePath.Regex.Regular
