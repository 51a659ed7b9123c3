/-
TreePath.Proofs.Library.Extremes — the least and the greatest of a sequence of values.

Both functions go through the values with the best one so far, and a value takes its place only if
it is better, so that the first of several equal ones is kept. A comparison fails only between two
primitive types, and the best one so far is of the primitive type of all values before it; so the
function fails exactly if there are two primitive types (`extreme_eq_error_iff`). If all values lie
on one scale, the best one so far is not beaten by any value gone through, and beats all that stand
in front of it (`Leads`). Each step keeps that (`Leads.step`), and at the end it is said of all
values, for the least one as for the greatest (`minimum_maximum`).
-/
import TreePath.Proofs.Atomic.Preorder
import TreePath.Proofs.Library.Calls
import TreePath.Proofs.Library.Soundness

namespace TreePath.Library

open AtomicValue (Scale order)

variable {wanted : Ordering} {values seen : List AtomicValue} {best m v : AtomicValue}

/-! ## Extremes -/

/-- No value beats this one, all of them being comparable with it. -/
def Unbeaten (wanted : Ordering) (values : List AtomicValue) (m : AtomicValue) : Prop :=
  ∀ x ∈ values, ∃ o, m.compare x = .ok o ∧ o ≠ wanted.swap

/-- The first value that no value beats. -/
def IsExtreme (wanted : Ordering) (values : List AtomicValue) (m : AtomicValue) : Prop :=
  Unbeaten wanted values m ∧
    ∃ before after, values = before ++ m :: after ∧ ∀ u ∈ before, ¬ Unbeaten wanted values u

/-- The values are of one primitive type, and no address is mixed with values of another type. -/
structure Uniform (values : List AtomicValue) : Prop where
  primitive : ∀ a ∈ values, ∀ b ∈ values, a.type.primitive = b.type.primitive
  addresses : (∀ v ∈ values, v.type ≠ .ipV4Address ∧ v.type ≠ .ipV6Address) ∨
    ∀ a ∈ values, ∀ b ∈ values, a.type = b.type

/-- Such values lie on one scale. -/
theorem Uniform.exists_scale (h : Uniform values) :
    ∃ s : Scale, ∀ a ∈ values, ∀ b ∈ values, s.Orders a b := by
  by_cases haddress : ∃ v ∈ values, v.type = .ipV4Address ∨ v.type = .ipV6Address
  · obtain ⟨v, hv, hkind⟩ := haddress
    obtain ⟨s, hs⟩ := AtomicValue.exists_scale_of_addresses hkind
    have htype : ∀ a ∈ values, a.type = v.type := by
      rcases h.addresses with hnone | hone
      · rcases hkind with hkind | hkind
        · exact absurd hkind (hnone v hv).1
        · exact absurd hkind (hnone v hv).2
      · exact fun a ha => hone a ha v hv
    exact ⟨s, fun a ha b hb => hs a b (htype a ha) (htype b hb)⟩
  · cases values with
    | nil =>
      obtain ⟨s, -⟩ := AtomicValue.exists_scale .string
      exact ⟨s, fun a ha => absurd ha List.not_mem_nil⟩
    | cons v rest =>
      obtain ⟨s, hs⟩ := AtomicValue.exists_scale v.type.primitive
      have hprimitive := fun a ha => h.primitive a ha v List.mem_cons_self
      exact ⟨s, fun a ha b hb => hs a b (hprimitive a ha) (hprimitive b hb) fun hmis =>
        haddress ⟨a, ha, hmis.1.2⟩⟩

/-! ## Failures -/

/-- A later value takes the place of the best one only within its primitive type. -/
theorem extremeFrom_eq_error_iff (wanted : Ordering) (rest : List AtomicValue)
    (best : AtomicValue) : (∃ e, extremeFrom wanted best rest = .error e) ↔
      ∃ v ∈ rest, v.type.primitive ≠ best.type.primitive := by
  induction rest generalizing best with
  | nil => simp [extremeFrom]
  | cons v rest ih =>
    rw [extremeFrom]
    by_cases h : v.type.primitive = best.type.primitive
    · rw [AtomicValue.compare_eq_ok h]
      have hbest : (if order v best == wanted then v else best).type.primitive =
          best.type.primitive := by
        split
        · exact h
        · rfl
      simp only [bind, Except.bind, ih, hbest, List.exists_mem_cons_iff, h, ne_eq, not_true,
        false_or]
    · rw [AtomicValue.compare, if_neg h]
      exact iff_of_true ⟨_, rfl⟩ ⟨v, List.mem_cons_self, h⟩

theorem code_of_extremeFrom {rest : List AtomicValue} {e : Error}
    (h : extremeFrom wanted best rest = .error e) : e.code = .wrongType := by
  induction rest generalizing best with
  | nil => cases h
  | cons v rest ih =>
    rw [extremeFrom] at h
    by_cases hprimitive : v.type.primitive = best.type.primitive
    · rw [AtomicValue.compare_eq_ok hprimitive] at h
      exact ih h
    · rw [AtomicValue.compare, if_neg hprimitive] at h
      cases h
      rfl

theorem extreme_eq_error_iff (wanted : Ordering) (values : List AtomicValue) :
    (∃ e, extreme wanted values = .error e) ↔
      ∃ a ∈ values, ∃ b ∈ values, a.type.primitive ≠ b.type.primitive := by
  cases values with
  | nil => simp [extreme]
  | cons v rest =>
    have hfrom : (∃ e, extreme wanted (v :: rest) = .error e) ↔
        ∃ e, extremeFrom wanted v rest = .error e := by
      rw [extreme]
      cases extremeFrom wanted v rest <;> simp [bind, Except.bind, pure, Except.pure]
    rw [hfrom, extremeFrom_eq_error_iff]
    constructor
    · rintro ⟨w, hw, hne⟩
      exact ⟨w, List.mem_cons_of_mem v hw, v, List.mem_cons_self, hne⟩
    · rintro ⟨a, ha, b, hb, hne⟩
      -- one of the two is not of the primitive type of the first value
      by_contra hnone
      push Not at hnone
      have hsame : ∀ w ∈ v :: rest, w.type.primitive = v.type.primitive :=
        List.forall_mem_cons.mpr ⟨rfl, hnone⟩
      exact hne ((hsame a ha).trans (hsame b hb).symm)

theorem code_of_extreme {e : Error} (h : extreme wanted values = .error e) :
    e.code = .wrongType := by
  cases values with
  | nil => cases h
  | cons v rest =>
    rw [extreme] at h
    cases hfrom : extremeFrom wanted v rest with
    | ok w => rw [hfrom] at h; cases h
    | error e' =>
      rw [hfrom] at h
      cases h
      exact code_of_extremeFrom hfrom

/-! ## The best value so far -/

/-- What beats a value beats all that the value is not beaten by. -/
theorem better_trans {s : Scale} {a b c : AtomicValue} (hw : wanted ≠ .eq) (hab : s.Orders a b)
    (hbc : s.Orders b c) (hac : s.Orders a c) (h : order a b = wanted) (h' : order c b ≠ wanted) :
    order a c = wanted := by
  have := s.trans
  rw [hbc.swap, hbc.order_eq] at h'
  rw [hab.order_eq] at h
  rw [hac.order_eq]
  cases wanted with
  | lt =>
    refine Std.TransCmp.lt_of_lt_of_isLE h ?_
    revert h'
    cases s.compare (s.measure b) (s.measure c) <;> simp
  | eq => exact absurd rfl hw
  | gt =>
    refine Std.TransCmp.gt_of_gt_of_isGE h ?_
    revert h'
    cases s.compare (s.measure b) (s.measure c) <;> simp

/-- The best of the values gone through: none of them beats it, and it beats those in front. -/
structure Leads (wanted : Ordering) (seen : List AtomicValue) (best : AtomicValue) : Prop where
  unbeaten : ∀ u ∈ seen, order u best ≠ wanted
  front : ∃ before after, seen = before ++ best :: after ∧ ∀ u ∈ before, order best u = wanted

theorem Leads.mem (h : Leads wanted seen best) : best ∈ seen := by
  obtain ⟨before, after, rfl, -⟩ := h.front
  exact List.mem_append_right before List.mem_cons_self

theorem swap_ne_self (hw : wanted ≠ .eq) : wanted.swap ≠ wanted := by
  cases wanted with
  | eq => exact absurd rfl hw
  | lt | gt => decide

/-- The next value takes the place of the best one if it beats it. -/
theorem Leads.step (hw : wanted ≠ .eq) {s : Scale}
    (hs : ∀ a ∈ seen ++ [v], ∀ b ∈ seen ++ [v], s.Orders a b) (h : Leads wanted seen best) :
    Leads wanted (seen ++ [v]) (if order v best == wanted then v else best) := by
  have hseen : ∀ u ∈ seen, u ∈ seen ++ [v] := fun u => List.mem_append_left [v]
  have hv : v ∈ seen ++ [v] := List.mem_append_right seen List.mem_cons_self
  have hself := (hs v hv v hv).self
  split
  · rename_i hbeats
    have hbeats : order v best = wanted := eq_of_beq hbeats
    have hall : ∀ u ∈ seen, order v u = wanted := fun u hu =>
      better_trans hw (hs v hv best (hseen best h.mem)) (hs best (hseen best h.mem) u (hseen u hu))
        (hs v hv u (hseen u hu)) hbeats (h.unbeaten u hu)
    refine ⟨fun u hu => ?_, seen, [], rfl, hall⟩
    rcases List.mem_append.mp hu with hu | hu
    · rw [(hs v hv u (hseen u hu)).swap, hall u hu]
      exact swap_ne_self hw
    · rw [List.mem_singleton.mp hu, hself]
      exact hw.symm
  · rename_i hnot
    obtain ⟨before, after, rfl, hbefore⟩ := h.front
    refine ⟨fun u hu => ?_, before, after ++ [v], by simp, hbefore⟩
    rcases List.mem_append.mp hu with hu | hu
    · exact h.unbeaten u hu
    · rw [List.mem_singleton.mp hu]
      simpa using hnot

/-- **On one scale the best value of a part becomes the best of all.** -/
theorem exists_extremeFrom (hw : wanted ≠ .eq) {s : Scale} {rest : List AtomicValue}
    (hprimitive : ∀ a ∈ seen ++ rest, ∀ b ∈ seen ++ rest, a.type.primitive = b.type.primitive)
    (hs : ∀ a ∈ seen ++ rest, ∀ b ∈ seen ++ rest, s.Orders a b) (h : Leads wanted seen best) :
    ∃ m, extremeFrom wanted best rest = .ok m ∧ Leads wanted (seen ++ rest) m := by
  induction rest generalizing seen best with
  | nil => exact ⟨best, rfl, by rwa [List.append_nil]⟩
  | cons v rest ih =>
    have hassoc : seen ++ v :: rest = (seen ++ [v]) ++ rest := by simp
    rw [hassoc] at hprimitive hs ⊢
    have hpart : ∀ u ∈ seen ++ [v], u ∈ (seen ++ [v]) ++ rest := fun u => List.mem_append_left rest
    have hv := hpart v (List.mem_append_right seen List.mem_cons_self)
    have hbest := hpart best (List.mem_append_left [v] h.mem)
    have hstep := h.step hw fun a ha b hb => hs a (hpart a ha) b (hpart b hb)
    obtain ⟨m, hm, hleads⟩ := ih hprimitive hs hstep
    refine ⟨m, ?_, hleads⟩
    rw [extremeFrom, AtomicValue.compare_eq_ok (hprimitive v hv best hbest)]
    exact hm

/-- What leads all values is the first that none of them beats. -/
theorem Leads.isExtreme {s : Scale}
    (hprimitive : ∀ a ∈ values, ∀ b ∈ values, a.type.primitive = b.type.primitive)
    (hs : ∀ a ∈ values, ∀ b ∈ values, s.Orders a b) (h : Leads wanted values m) :
    IsExtreme wanted values m := by
  have hswap : ∀ a ∈ values, ∀ b ∈ values, order a b = (order b a).swap := fun a ha b hb =>
    (hs b hb a ha).swap
  obtain ⟨before, after, hsplit, hbefore⟩ := h.front
  refine ⟨fun x hx => ⟨_, AtomicValue.compare_eq_ok (hprimitive m h.mem x hx), fun heq => ?_⟩,
    before, after, hsplit, fun u hu hunbeaten => ?_⟩
  · rw [hswap m h.mem x hx, Ordering.swap_inj] at heq
    exact h.unbeaten x hx heq
  · have hmem : u ∈ values := hsplit ▸ List.mem_append_left _ hu
    obtain ⟨o, ho, hne⟩ := hunbeaten m h.mem
    rw [AtomicValue.compare_eq_ok (hprimitive u hmem m h.mem)] at ho
    cases ho
    exact hne (by rw [hswap u hmem m h.mem, hbefore u hu])

/-- The first value that none beats is what the search gives. -/
theorem exists_extreme (hw : wanted ≠ .eq) (h : Uniform values) (hne : values ≠ []) :
    ∃ m, extreme wanted values = .ok [.atomic m] ∧ IsExtreme wanted values m := by
  obtain ⟨s, hs⟩ := h.exists_scale
  cases values with
  | nil => exact absurd rfl hne
  | cons v rest =>
    have hstart : Leads wanted [v] v := by
      refine ⟨fun u hu => ?_, [], [], rfl, fun u hu => absurd hu List.not_mem_nil⟩
      rw [List.mem_singleton.mp hu, (hs v List.mem_cons_self v List.mem_cons_self).self]
      exact hw.symm
    obtain ⟨m, hm, hleads⟩ := exists_extremeFrom hw (s := s) h.primitive hs hstart
    refine ⟨m, ?_, hleads.isExtreme h.primitive hs⟩
    rw [extreme, hm]
    rfl

/-! ## Calls -/

/-- A function that gives the extreme of its values. -/
def extremeEntry (name : String) (handler : Plain) : Entry :=
  pureEntry name [Library.values] anyAtomic .zeroOrOne handler

theorem answers_extreme {name : String} {handler : Plain} {i : FunctionId} {site : CallSite}
    (h : entries[i]? = some (extremeEntry name handler))
    (hhandler : handler site [values.map .atomic] = extreme wanted values) :
    Answers name site [values.map .atomic] (extreme wanted values) := by
  have hadmits := admits_values name anyAtomic .zeroOrOne handler i values
  have hyields := yields_extreme wanted values
  cases hextreme : extreme wanted values with
  | ok r =>
    rw [hextreme] at hhandler hyields
    exact Gives.of_entry (e := extremeEntry name handler) h hadmits hhandler hyields
  | error e =>
    rw [hextreme] at hhandler
    exact .of_failure (e := extremeEntry name handler) h hadmits hhandler

/-- What a function answers to values if it looks for an extreme: nothing without values; a failure
exactly if two of the values are of different primitive types; and the first value that no other one
beats, if the values lie on one scale. -/
structure Selects (name : String) (wanted : Ordering) (site : CallSite)
    (values : List AtomicValue) : Prop where
  nothing : values = [] → Gives name site [values.map .atomic] []
  fails_iff : (∃ e, Answers name site [values.map .atomic] (.error e) ∧ e.code = .wrongType) ↔
    ∃ a ∈ values, ∃ b ∈ values, a.type.primitive ≠ b.type.primitive
  gives_iff : (∃ r, Gives name site [values.map .atomic] r) ↔
    ∀ a ∈ values, ∀ b ∈ values, a.type.primitive = b.type.primitive
  first : Uniform values → values ≠ [] →
    ∃ m, Gives name site [values.map .atomic] [.atomic m] ∧ IsExtreme wanted values m

theorem Selects.of_answers {name : String} {site : CallSite} (hw : wanted ≠ .eq)
    (h : Answers name site [values.map .atomic] (extreme wanted values)) :
    Selects name wanted site values where
  nothing hnil := by
    subst hnil
    exact h
  fails_iff := by
    rw [← extreme_eq_error_iff wanted]
    constructor
    · rintro ⟨e, he, -⟩
      exact ⟨e, h.unique he⟩
    · rintro ⟨e, he⟩
      exact ⟨e, he ▸ h, code_of_extreme he⟩
  gives_iff := by
    have hiff : (∃ r, Gives name site [values.map .atomic] r) ↔
        ¬ ∃ e, extreme wanted values = .error e := by
      cases hextreme : extreme wanted values with
      | ok r =>
        rw [hextreme] at h
        simpa using ⟨r, h⟩
      | error e =>
        rw [hextreme] at h
        refine iff_of_false ?_ (by simp)
        rintro ⟨r, hr⟩
        cases h.unique hr
    rw [hiff, extreme_eq_error_iff]
    push Not
    rfl
  first huniform hne := by
    obtain ⟨m, hm, hextreme⟩ := exists_extreme hw huniform hne
    rw [hm] at h
    exact ⟨m, h, hextreme⟩

/-- **The least and the greatest value.** Both functions give nothing for no values, and fail
exactly if two of the values are of different primitive types. Otherwise they give the first value
than which no other one is less, or greater, unless an address is among values of another type. -/
theorem minimum_maximum (site : CallSite) (values : List AtomicValue) :
    Selects "min" .lt site values ∧ Selects "max" .gt site values := by
  constructor
  · have hentry : entries[31]? = some (extremeEntry "min" minimum) := rfl
    refine .of_answers (by decide) (answers_extreme hentry ?_)
    show extreme .lt (Sequence.atomics (values.map .atomic)) = _
    rw [Sequence.atomics_map_atomic]
  · have hentry : entries[32]? = some (extremeEntry "max" maximum) := rfl
    refine .of_answers (by decide) (answers_extreme hentry ?_)
    show extreme .gt (Sequence.atomics (values.map .atomic)) = _
    rw [Sequence.atomics_map_atomic]

end TreePath.Library
