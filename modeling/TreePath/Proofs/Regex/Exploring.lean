/-
TreePath.Proofs.Regex.Exploring — what searches with regular patterns find.

A search looks at places, a step of the program at a position of the text, and goes on from each one
to those it leads to (`Leads`). What it finds can be reached (`explore_eq_some`). When it finds
nothing, what it has looked at is closed: each place leads only to others that it has looked at, and
none of them accepts (`Closed.explore`). The bound on the number of threads is never met before
that, because a thread is dropped or looks at a place for the first time, and no place has more than
two successors. So a search finds the first place where the pattern matches, if there is one
(`search?_eq_some`, `search?_eq_none`).

Steps that do not move need nothing of the text but its ends, and in the empty text all of its ends
are at one place. A pattern that matches no character somewhere therefore matches the empty text
(`MatchesAt.empty`).
-/
import Mathlib.Logic.Relation
import Mathlib.Order.Interval.Finset.Nat
import TreePath.Regex.Regular.Program

namespace TreePath.Regex.Regular.Program

open TreePath.Text (CharSet)

/-! ## Places -/

/-- The number of a step, and a position of the text. -/
abbrev Place := Nat × Nat

/-- Where a thread is. -/
def Thread.place (t : Thread) : Place := (t.step, t.position)

/-- A place from which a search goes on to another one. -/
inductive Leads (p : Program) (text : Array Char) : Place → Place → Prop where
  | read {i q : Nat} {s : CharSet} {c : Char} (hstep : p.steps[i]? = some (.read s))
      (hchar : text[q]? = some c) (hmem : s.contains c = true) :
      Leads p text (i, q) (i + 1, q + 1)
  | edge {i q : Nat} {e : Edge} (hstep : p.steps[i]? = some (.edge e))
      (hholds : e.holds text q = true) : Leads p text (i, q) (i + 1, q)
  | forkOnward {i q : Nat} {d : Int} {onward : Bool}
      (hstep : p.steps[i]? = some (.fork d onward)) : Leads p text (i, q) (i + 1, q)
  | forkAway {i q : Nat} {d : Int} {onward : Bool}
      (hstep : p.steps[i]? = some (.fork d onward)) :
      Leads p text (i, q) (((i : Int) + d).toNat, q)
  | goto {i q : Nat} {d : Int} (hstep : p.steps[i]? = some (.goto d)) :
      Leads p text (i, q) (((i : Int) + d).toNat, q)
  | mark {i q slot : Nat} (hstep : p.steps[i]? = some (.mark slot)) :
      Leads p text (i, q) (i + 1, q)

/-- A place that a search can come to from another one. -/
abbrev Reaches (p : Program) (text : Array Char) : Place → Place → Prop :=
  Relation.ReflTransGen (Leads p text)

/-- The pattern matches the stretch between two positions. -/
def MatchesAt (p : Program) (text : Array Char) (start stop : Nat) : Prop :=
  ∃ i, p.steps[i]? = some .accept ∧ Reaches p text (0, start) (i, stop)

variable {p : Program} {text : Array Char} {a b : Place}

namespace Leads

theorem step_lt (h : Leads p text a b) : a.1 < p.steps.size := by
  cases h with
  | read hstep | edge hstep | forkOnward hstep | forkAway hstep | goto hstep | mark hstep =>
    exact (Array.getElem?_eq_some_iff.mp hstep).1

theorem position_le (h : Leads p text a b) : a.2 ≤ b.2 := by
  cases h with
  | read => exact Nat.le_succ _
  | _ => exact Nat.le_refl _

theorem le_size (h : Leads p text a b) (ha : a.2 ≤ text.size) : b.2 ≤ text.size := by
  cases h with
  | read hstep hchar => exact (Array.getElem?_eq_some_iff.mp hchar).1
  | _ => exact ha

end Leads

/-! Threads also carry what they have noted; where they go on depends on their places alone. -/

/-- A thread goes on only to places that its place leads to. -/
theorem Leads.of_mem_successors {t u : Thread} {step : Step} (hstep : p.steps[t.step]? = some step)
    (hu : u ∈ t.successors text step) : Leads p text t.place u.place := by
  cases step with
  | read s =>
    simp only [Thread.successors] at hu
    cases hchar : text[t.position]? with
    | none => simp [hchar] at hu
    | some c =>
      rw [hchar] at hu
      simp only at hu
      split at hu
      · cases List.mem_singleton.mp hu
        exact .read hstep hchar ‹_›
      · cases hu
  | edge e =>
    simp only [Thread.successors] at hu
    split at hu
    · cases List.mem_singleton.mp hu
      exact .edge hstep ‹_›
    · cases hu
  | fork d onward =>
    cases onward with
    | true =>
      rcases List.mem_pair.mp hu with rfl | rfl
      · exact .forkOnward hstep
      · exact .forkAway hstep
    | false =>
      rcases List.mem_pair.mp hu with rfl | rfl
      · exact .forkAway hstep
      · exact .forkOnward hstep
  | goto d =>
    cases List.mem_singleton.mp hu
    exact .goto hstep
  | mark slot =>
    cases List.mem_singleton.mp hu
    exact .mark hstep
  | accept => cases hu

/-- A thread goes on to every place that its place leads to. -/
theorem Leads.exists_successor {t : Thread} {step : Step} (hstep : p.steps[t.step]? = some step)
    (h : Leads p text t.place b) : ∃ u ∈ t.successors text step, u.place = b := by
  obtain ⟨i, q, marks⟩ := t
  cases h with
  | read hstep' hchar hmem =>
    cases hstep.symm.trans hstep'
    exact ⟨⟨i + 1, q + 1, marks⟩, by simp [Thread.successors, Thread.onward, hchar, hmem], rfl⟩
  | edge hstep' hholds =>
    cases hstep.symm.trans hstep'
    exact ⟨⟨i + 1, q, marks⟩, by simp [Thread.successors, Thread.onward, hholds], rfl⟩
  | @forkOnward _ _ d onward hstep' =>
    cases hstep.symm.trans hstep'
    exact ⟨⟨i + 1, q, marks⟩, by cases onward <;> simp [Thread.successors, Thread.onward], rfl⟩
  | @forkAway _ _ d onward hstep' =>
    cases hstep.symm.trans hstep'
    exact ⟨(⟨i, q, marks⟩ : Thread).jump d, by cases onward <;> simp [Thread.successors], rfl⟩
  | goto hstep' =>
    cases hstep.symm.trans hstep'
    exact ⟨_, List.mem_singleton_self _, rfl⟩
  | mark hstep' =>
    cases hstep.symm.trans hstep'
    exact ⟨_, List.mem_singleton_self _, rfl⟩

theorem length_successors_le (text : Array Char) (t : Thread) (step : Step) :
    (t.successors text step).length ≤ 2 := by
  cases step with
  | read s =>
    simp only [Thread.successors]
    split
    · split <;> simp
    · simp
  | edge e =>
    simp only [Thread.successors]
    split <;> simp
  | fork d onward => cases onward <;> exact Nat.le_refl 2
  | goto d => exact Nat.le_succ 1
  | mark slot => exact Nat.le_succ 1
  | accept => exact Nat.zero_le 2

/-! ## What is found can be reached -/

/-- A thread that is accepted comes from one that waited. -/
theorem explore_eq_some {n : Nat} {seen seen' : Seen} {waiting : List Thread} {t : Thread}
    (h : p.explore text n seen waiting = (some t, seen')) :
    p.steps[t.step]? = some .accept ∧ ∃ u ∈ waiting, Reaches p text u.place t.place := by
  induction n generalizing seen waiting with
  | zero => cases h
  | succ n ih =>
    cases waiting with
    | nil => cases h
    | cons u rest =>
      have hrest : ∀ {seen : Seen}, p.explore text n seen rest = (some t, seen') →
          p.steps[t.step]? = some .accept ∧ ∃ v ∈ u :: rest, Reaches p text v.place t.place :=
        fun h => (ih h).imp_right fun ⟨v, hv, hreaches⟩ => ⟨v, List.mem_cons_of_mem _ hv, hreaches⟩
      rw [explore] at h
      split at h
      · exact hrest h
      · split at h
        · cases h
          exact ⟨‹_›, t, List.mem_cons_self, .refl⟩
        · rename_i step _ hstep
          obtain ⟨haccept, v, hv, hreaches⟩ := ih h
          refine ⟨haccept, ?_⟩
          rcases List.mem_append.mp hv with hv | hv
          · exact ⟨u, List.mem_cons_self, hreaches.head (.of_mem_successors hstep hv)⟩
          · exact ⟨v, List.mem_cons_of_mem _ hv, hreaches⟩
        · exact hrest h

/-! ## What has been looked at -/

/-- The number under which a search notes a place. -/
def key (p : Program) (a : Place) : Nat := a.2 * p.steps.size + a.1

/-- The place is one of the program and has been looked at. -/
def Looked (p : Program) (seen : Seen) (a : Place) : Prop :=
  a.1 < p.steps.size ∧ seen.contains (p.key a) = true

theorem key_inj (ha : a.1 < p.steps.size) (hb : b.1 < p.steps.size) (h : p.key a = p.key b) :
    a = b := by
  have hpos : 0 < p.steps.size := Nat.zero_lt_of_lt ha
  have hstep : a.1 = b.1 := by
    have := congrArg (· % p.steps.size) h
    simpa only [key, Nat.mul_add_mod_self_right, Nat.mod_eq_of_lt ha, Nat.mod_eq_of_lt hb]
      using this
  have hposition : a.2 = b.2 := by
    rw [key, key, hstep, Nat.add_right_cancel_iff] at h
    exact Nat.eq_of_mul_eq_mul_right hpos h
  exact Prod.ext hstep hposition

theorem key_lt (ha : a.1 < p.steps.size) (hposition : a.2 ≤ text.size) :
    p.key a < p.steps.size * (text.size + 1) := by
  calc p.key a < a.2 * p.steps.size + p.steps.size := Nat.add_lt_add_left ha _
    _ = p.steps.size * (a.2 + 1) := by rw [Nat.mul_succ, Nat.mul_comm]
    _ ≤ p.steps.size * (text.size + 1) := Nat.mul_le_mul_left _ (Nat.succ_le_succ hposition)

theorem contains_insert {seen : Seen} {k l : Nat} :
    (seen.insert k).contains l = true ↔ k = l ∨ seen.contains l = true := by
  rw [Std.TreeSet.contains_insert, Bool.or_eq_true, beq_iff_eq, Nat.compare_eq_eq]

theorem looked_insert {seen : Seen} (hb : b.1 < p.steps.size) :
    p.Looked (seen.insert (p.key b)) a ↔ a = b ∨ p.Looked seen a := by
  constructor
  · rintro ⟨ha, h⟩
    exact (contains_insert.mp h).imp (fun h => (key_inj hb ha h).symm) fun h => ⟨ha, h⟩
  · rintro (rfl | ⟨ha, h⟩)
    · exact ⟨hb, contains_insert.mpr (.inl rfl)⟩
    · exact ⟨ha, contains_insert.mpr (.inr h)⟩

/-- How many places of the text have not been looked at. A search that goes on has fewer of them or
fewer threads. -/
def unseen (p : Program) (text : Array Char) (seen : Seen) : Nat :=
  ((Finset.range (p.steps.size * (text.size + 1))).filter fun k => seen.contains k = false).card

theorem unseen_insert_lt {seen : Seen} {k : Nat} (hk : k < p.steps.size * (text.size + 1))
    (hseen : seen.contains k = false) : p.unseen text (seen.insert k) < p.unseen text seen := by
  refine Finset.card_lt_card (Finset.ssubset_iff_of_subset ?_ |>.mpr ⟨k, ?_, ?_⟩)
  · refine Finset.monotone_filter_right _ fun l _ hl => ?_
    rw [← Bool.not_eq_true] at hl ⊢
    exact fun h => hl (contains_insert.mpr (.inr h))
  · exact Finset.mem_filter.mpr ⟨Finset.mem_range.mpr hk, hseen⟩
  · rw [Finset.mem_filter, not_and, Bool.not_eq_false]
    exact fun _ => contains_insert.mpr (.inl rfl)

theorem unseen_le (p : Program) (text : Array Char) (seen : Seen) :
    p.unseen text seen ≤ p.steps.size * (text.size + 1) :=
  (Finset.card_filter_le _ _).trans_eq (Finset.card_range _)

/-! ## What is not found cannot be reached -/

/-- What has been looked at does not accept, and leads only to what has been looked at or waits to
be. -/
structure Closed (p : Program) (text : Array Char) (seen : Seen) (waiting : List Thread) :
    Prop where
  next {a b : Place} : p.Looked seen a → Leads p text a b → b.1 < p.steps.size →
    p.Looked seen b ∨ ∃ t ∈ waiting, t.place = b
  refuses {a : Place} : p.Looked seen a → p.steps[a.1]? ≠ some .accept

namespace Closed

variable {seen seen' : Seen} {waiting rest : List Thread} {t : Thread}

/-- A thread that need not be looked at is dropped. -/
theorem drop (h : Closed p text seen (t :: rest))
    (ht : t.step < p.steps.size → p.Looked seen t.place) : Closed p text seen rest where
  next ha hleads hb := by
    rcases h.next ha hleads hb with hb | ⟨u, hu, rfl⟩
    · exact .inl hb
    · rcases List.mem_cons.mp hu with rfl | hu
      · exact .inl (ht hb)
      · exact .inr ⟨u, hu, rfl⟩
  refuses := h.refuses

/-- A thread that is looked at makes room for those it goes on as. -/
theorem insert {step : Step} (h : Closed p text seen (t :: rest))
    (hstep : p.steps[t.step]? = some step) (haccept : step ≠ .accept) :
    Closed p text (seen.insert (p.key t.place)) (t.successors text step ++ rest) := by
  have ht : t.place.1 < p.steps.size := (Array.getElem?_eq_some_iff.mp hstep).1
  refine ⟨fun {a b} ha hleads hb => ?_, fun {a} ha => ?_⟩
  · rcases (looked_insert ht).mp ha with rfl | ha
    · obtain ⟨u, hu, rfl⟩ := hleads.exists_successor hstep
      exact .inr ⟨u, List.mem_append_left _ hu, rfl⟩
    · rcases h.next ha hleads hb with hb | ⟨u, hu, rfl⟩
      · exact .inl ((looked_insert ht).mpr (.inr hb))
      · rcases List.mem_cons.mp hu with rfl | hu
        · exact .inl ((looked_insert ht).mpr (.inl rfl))
        · exact .inr ⟨u, List.mem_append_right _ hu, rfl⟩
  · rcases (looked_insert ht).mp ha with rfl | ha
    · exact fun h => haccept (Option.some.inj (hstep.symm.trans h))
    · exact h.refuses ha

/-- What has been looked at once nothing waits any more leads nowhere. -/
theorem not_reaches_accept {a b : Place} (h : Closed p text seen []) (ha : p.Looked seen a)
    (hreaches : Reaches p text a b) : p.steps[b.1]? ≠ some .accept := by
  have hlooked : b.1 < p.steps.size → p.Looked seen b := by
    induction hreaches with
    | refl => exact fun _ => ha
    | tail hreaches hleads ih =>
      intro hb
      rcases h.next (ih hleads.step_lt) hleads hb with hb | ⟨_, ht, _⟩
      · exact hb
      · cases ht
  intro haccept
  exact h.refuses (hlooked (Array.getElem?_eq_some_iff.mp haccept).1) haccept

end Closed

/-- A search has found nothing: all that waited has been looked at, and it leads nowhere else. -/
structure Exhausted (p : Program) (text : Array Char) (seen seen' : Seen) (waiting : List Thread) :
    Prop where
  closed : Closed p text seen' []
  keeps {a : Place} : p.Looked seen a → p.Looked seen' a
  looked {t : Thread} : t ∈ waiting → t.step < p.steps.size → p.Looked seen' t.place

namespace Exhausted

variable {seen seen' : Seen} {waiting rest : List Thread} {t : Thread}

theorem nil (h : Closed p text seen []) : Exhausted p text seen seen [] :=
  ⟨h, fun ha => ha, fun ht => absurd ht List.not_mem_nil⟩

theorem cons (h : Exhausted p text seen seen' rest)
    (ht : t.step < p.steps.size → p.Looked seen' t.place) :
    Exhausted p text seen seen' (t :: rest) where
  closed := h.closed
  keeps := h.keeps
  looked hu hlt := by
    rcases List.mem_cons.mp hu with rfl | hu
    · exact ht hlt
    · exact h.looked hu hlt

/-- What went on as other threads has been looked at first. -/
theorem of_insert {more : List Thread} (ht : t.step < p.steps.size)
    (h : Exhausted p text (seen.insert (p.key t.place)) seen' (more ++ rest)) :
    Exhausted p text seen seen' (t :: rest) :=
  have hrest : Exhausted p text seen seen' rest :=
    { closed := h.closed
      keeps := fun ha => h.keeps ((looked_insert ht).mpr (.inr ha))
      looked := fun hu => h.looked (List.mem_append_right _ hu) }
  hrest.cons fun _ => h.keeps ((looked_insert ht).mpr (.inl rfl))

end Exhausted

variable {seen seen' : Seen} {waiting : List Thread}

/-- A search that finds nothing has looked at everything, if it may follow enough threads. -/
theorem Closed.explore {n : Nat} (h : Closed p text seen waiting)
    (hn : waiting.length + 2 * p.unseen text seen ≤ n)
    (hpositions : ∀ t ∈ waiting, t.position ≤ text.size)
    (hnone : p.explore text n seen waiting = (none, seen')) :
    Exhausted p text seen seen' waiting := by
  -- Each round drops a thread, or looks at a new place and adds at most one thread.
  induction n generalizing seen waiting with
  | zero =>
    obtain rfl : waiting = [] := List.length_eq_zero_iff.mp (by omega)
    cases hnone
    exact .nil h
  | succ n ih =>
    cases waiting with
    | nil =>
      cases hnone
      exact .nil h
    | cons t rest =>
      have hrest : ∀ u ∈ rest, u.position ≤ text.size := fun u hu =>
        hpositions u (List.mem_cons_of_mem _ hu)
      rw [List.length_cons] at hn
      have hdrop (ht : t.step < p.steps.size → p.Looked seen t.place)
          (hnone : p.explore text n seen rest = (none, seen')) :
          Exhausted p text seen seen' (t :: rest) :=
        have hleft := ih (h.drop ht) (by omega) hrest hnone
        hleft.cons fun hlt => hleft.keeps (ht hlt)
      rw [Program.explore] at hnone
      split at hnone
      · exact hdrop (fun ht => ⟨ht, ‹_›⟩) hnone
      · rename_i hnew
        split at hnone
        · cases hnone
        · rename_i step haccept hstep
          have ht : t.step < p.steps.size := (Array.getElem?_eq_some_iff.mp hstep).1
          have hposition := hpositions t List.mem_cons_self
          have hfuel := unseen_insert_lt (key_lt (a := t.place) ht hposition)
            (Bool.eq_false_iff.mpr hnew)
          have hlength := length_successors_le text t step
          refine .of_insert ht (ih (h.insert hstep haccept) ?_ ?_ hnone)
          · rw [List.length_append]
            omega
          · intro u hu
            rcases List.mem_append.mp hu with hu | hu
            · exact (Leads.of_mem_successors hstep hu).le_size hposition
            · exact hrest u hu
        · rename_i hstep
          refine hdrop (fun ht => absurd ht ?_) hnone
          exact Nat.not_lt.mpr (Array.getElem?_eq_none_iff.mp hstep)

/-! ## Where a match begins -/

theorem Reaches.step_lt (h : Reaches p text a b) (haccept : p.steps[b.1]? = some .accept) :
    a.1 < p.steps.size := by
  rcases Relation.ReflTransGen.cases_head h with rfl | ⟨c, hleads, _⟩
  · exact (Array.getElem?_eq_some_iff.mp haccept).1
  · exact hleads.step_lt

/-- Nothing that has been looked at needs the new thread. -/
theorem Closed.add {t : Thread} (h : Closed p text seen []) : Closed p text seen [t] where
  next ha hleads hb := (h.next ha hleads hb).imp_right fun ⟨_, ht, _⟩ => absurd ht List.not_mem_nil
  refuses := h.refuses

theorem not_looked_empty (a : Place) : ¬ p.Looked ∅ a := by
  rintro ⟨-, h⟩
  rw [Std.TreeSet.contains_emptyc] at h
  cases h

theorem closed_empty : Closed p text ∅ [] where
  next ha := absurd ha (not_looked_empty _)
  refuses ha := absurd ha (not_looked_empty _)

/-- Nothing is found at a position: the pattern does not match there. -/
theorem not_matchesAt {start : Nat} (h : Closed p text seen []) (hstart : start ≤ text.size)
    (hnone : p.explore text (p.searchBound text) seen [{ step := 0, position := start }] =
      (none, seen')) :
    Closed p text seen' [] ∧ ∀ stop, ¬ MatchesAt p text start stop := by
  have hbound : 1 + 2 * p.unseen text seen ≤ p.searchBound text := by
    have := unseen_le p text seen
    rw [searchBound, Nat.mul_assoc]
    omega
  have hexhausted := h.add.explore hbound (fun t ht => List.mem_singleton.mp ht ▸ hstart) hnone
  refine ⟨hexhausted.closed, fun stop ⟨i, haccept, hreaches⟩ => ?_⟩
  have hlooked := hexhausted.looked List.mem_cons_self (Reaches.step_lt hreaches haccept)
  exact hexhausted.closed.not_reaches_accept hlooked hreaches haccept

theorem searchFrom_eq_some {n start s : Nat} {t : Thread} (hclosed : Closed p text seen [])
    (hn : start + n ≤ text.size + 1) (h : p.searchFrom text n start seen = some (s, t)) :
    start ≤ s ∧ s < start + n ∧ MatchesAt p text s t.position ∧
      ∀ s', start ≤ s' → s' < s → ∀ stop, ¬ MatchesAt p text s' stop := by
  induction n generalizing start seen with
  | zero => cases h
  | succ n ih =>
    rw [searchFrom] at h
    split at h
    · rename_i hfound
      cases h
      obtain ⟨haccept, u, hu, hreaches⟩ := explore_eq_some hfound
      cases List.mem_singleton.mp hu
      refine ⟨Nat.le_refl _, by omega, ⟨_, haccept, hreaches⟩, fun s' hle hlt => ?_⟩
      omega
    · rename_i hnone
      obtain ⟨hclosed', hnot⟩ := not_matchesAt hclosed (by omega) hnone
      obtain ⟨hle, hlt, hmatch, hfirst⟩ := ih hclosed' (by omega) h
      refine ⟨by omega, by omega, hmatch, fun s' hs hlt stop => ?_⟩
      rcases Nat.eq_or_lt_of_le hs with rfl | hs
      · exact hnot stop
      · exact hfirst s' hs hlt stop

theorem searchFrom_eq_none {n start : Nat} (hclosed : Closed p text seen [])
    (hn : start + n ≤ text.size + 1) (h : p.searchFrom text n start seen = none) :
    ∀ s, start ≤ s → s < start + n → ∀ stop, ¬ MatchesAt p text s stop := by
  induction n generalizing start seen with
  | zero =>
    intro s hle hlt
    omega
  | succ n ih =>
    rw [searchFrom] at h
    split at h
    · cases h
    · rename_i hnone
      obtain ⟨hclosed', hnot⟩ := not_matchesAt hclosed (by omega) hnone
      intro s hle hlt stop
      rcases Nat.eq_or_lt_of_le hle with rfl | hle
      · exact hnot stop
      · exact ih hclosed' (by omega) h s hle (by omega) stop

/-- **The first match.** What a search finds is a match, and the pattern matches at no position in
front of it. -/
theorem search?_eq_some {position start : Nat} {t : Thread} (hposition : position ≤ text.size)
    (h : p.search? text position = some (start, t)) :
    position ≤ start ∧ start ≤ text.size ∧ MatchesAt p text start t.position ∧
      ∀ s, position ≤ s → s < start → ∀ stop, ¬ MatchesAt p text s stop := by
  obtain ⟨hle, hlt, hmatch⟩ := searchFrom_eq_some closed_empty (by omega) h
  exact ⟨hle, by omega, hmatch⟩

/-- **No match.** A search that finds nothing stands for a pattern that matches nowhere behind the
position. -/
theorem search?_eq_none {position : Nat} (hposition : position ≤ text.size)
    (h : p.search? text position = none) :
    ∀ s, position ≤ s → s ≤ text.size → ∀ stop, ¬ MatchesAt p text s stop :=
  fun s hle hs => searchFrom_eq_none closed_empty (by omega) h s hle (by omega)

/-! ## Where a match ends -/

variable {start stop : Nat}

theorem Reaches.position_le (h : Reaches p text a b) : a.2 ≤ b.2 := by
  induction h with
  | refl => exact Nat.le_refl _
  | tail _ hleads ih => exact ih.trans hleads.position_le

theorem Reaches.le_size (h : Reaches p text a b) (ha : a.2 ≤ text.size) : b.2 ≤ text.size := by
  induction h with
  | refl => exact ha
  | tail _ hleads ih => exact hleads.le_size ih

theorem MatchesAt.start_le (h : MatchesAt p text start stop) : start ≤ stop :=
  have ⟨_, _, hreaches⟩ := h
  Reaches.position_le hreaches

theorem MatchesAt.stop_le (h : MatchesAt p text start stop) (hstart : start ≤ text.size) :
    stop ≤ text.size :=
  have ⟨_, _, hreaches⟩ := h
  Reaches.le_size hreaches hstart

/-! ## Matches without characters -/

/-- The empty text begins and ends at its only position, and so does its only line. -/
theorem holds_empty (e : Edge) : e.holds #[] 0 = true := by
  cases e <;> rfl

theorem Leads.of_still (h : Leads p text a b) (hstill : a.2 = b.2) :
    Leads p #[] (a.1, 0) (b.1, 0) := by
  cases h with
  | read => exact absurd hstill (Nat.ne_of_lt (Nat.lt_succ_self _))
  | edge hstep => exact .edge hstep (holds_empty _)
  | forkOnward hstep => exact .forkOnward hstep
  | forkAway hstep => exact .forkAway hstep
  | goto hstep => exact .goto hstep
  | mark hstep => exact .mark hstep

theorem Reaches.of_still (h : Reaches p text a b) (hstill : a.2 = b.2) :
    Reaches p #[] (a.1, 0) (b.1, 0) := by
  induction h with
  | refl => exact .refl
  | tail hreaches hleads ih =>
    have hle := Reaches.position_le hreaches
    have hle' := hleads.position_le
    exact .tail (ih (by omega)) (hleads.of_still (by omega))

/-- **Matches without characters.** A pattern that matches no character at some position of some
text matches the empty text. -/
theorem MatchesAt.empty (h : MatchesAt p text start start) : MatchesAt p #[] 0 0 :=
  have ⟨i, haccept, hreaches⟩ := h
  ⟨i, haccept, Reaches.of_still hreaches rfl⟩

/-- A pattern that is not found in the empty text matches at least one character. -/
theorem MatchesAt.start_lt (h : MatchesAt p text start stop) (hempty : p.search? #[] 0 = none) :
    start < stop := by
  refine Nat.lt_of_le_of_ne h.start_le ?_
  rintro rfl
  exact search?_eq_none (Nat.le_refl 0) hempty 0 (Nat.le_refl 0) (Nat.le_refl 0) 0 h.empty

end TreePath.Regex.Regular.Program
