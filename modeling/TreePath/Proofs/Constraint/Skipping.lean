/-
TreePath.Proofs.Constraint.Skipping — validating without the constraints below a level.

Checks of skipped constraints are left out, and so are their observations (`observed_filter`). The
findings of the others stay as they are where the keys that they are about were not first entered
by a skipped constraint (`account_atLeast`). Otherwise an item that was a duplicate is the first one
now, so there are fewer findings, and as many only if this happens nowhere
(`first_of_length_account_eq`). References are the other way round: the fewer keys, the more of them
lead nowhere.
-/
import TreePath.Proofs.Constraint.Keys
import TreePath.Proofs.Constraint.Report

namespace TreePath.Validation

variable {level : Level} {o : Observation} {os rest : List Observation} {seen seen' : SeenKeys}
  {k : KeyTable × Key}

/-! ## Observations at or above a level -/

/-- The observations of the constraints that are not skipped. -/
def atLeast (level : Level) (os : List Observation) : List Observation :=
  os.filter fun o => level ≤ o.constraint.level

/-- The findings at or above the level. -/
def findingsAtLeast (level : Level) (fs : List Finding) : List Finding :=
  fs.filter fun f => level ≤ f.level

@[simp] theorem mem_atLeast :
    o ∈ atLeast level os ↔ o ∈ os ∧ level ≤ o.constraint.level := by
  simp [atLeast]

@[simp] theorem mem_findingsAtLeast {f : Finding} {fs : List Finding} :
    f ∈ findingsAtLeast level fs ↔ f ∈ fs ∧ level ≤ f.level := by
  simp [findingsAtLeast]

theorem atLeast_cons_of_le (h : level ≤ o.constraint.level) (rest : List Observation) :
    atLeast level (o :: rest) = o :: atLeast level rest :=
  List.filter_cons_of_pos (decide_eq_true h)

theorem atLeast_cons_of_not_le (h : ¬ level ≤ o.constraint.level) (rest : List Observation) :
    atLeast level (o :: rest) = atLeast level rest :=
  List.filter_cons_of_neg (by simpa using h)

theorem atLeast_append (os os' : List Observation) :
    atLeast level (os ++ os') = atLeast level os ++ atLeast level os' :=
  List.filter_append os os'

theorem findingsAtLeast_append (fs fs' : List Finding) :
    findingsAtLeast level (fs ++ fs') = findingsAtLeast level fs ++ findingsAtLeast level fs' :=
  List.filter_append fs fs'

/-- What an observation reports is of its level. -/
theorem findingsAtLeast_reported (seen : SeenKeys) (o : Observation) (fs : List Finding) :
    findingsAtLeast level ((reported? seen o).toList ++ fs)
      = if level ≤ o.constraint.level then (reported? seen o).toList ++ findingsAtLeast level fs
        else findingsAtLeast level fs := by
  have hlevel : ∀ f ∈ (reported? seen o).toList, f.level = o.constraint.level := by
    intro f hf
    obtain ⟨message, rfl⟩ := exists_of_mem_reported hf
    rfl
  rw [findingsAtLeast_append]
  split
  · rename_i hle
    have hkept : findingsAtLeast level (reported? seen o).toList = (reported? seen o).toList :=
      List.filter_eq_self.mpr fun f hf => by rw [hlevel f hf]; exact decide_eq_true hle
    rw [hkept]
  · rename_i hle
    have hskipped : findingsAtLeast level (reported? seen o).toList = [] :=
      List.filter_eq_nil_iff.mpr fun f hf => by rw [hlevel f hf]; simpa using hle
    rw [hskipped, List.nil_append]

/-! ## Skipped checks -/

theorem debug_le (level : Level) : Level.debug ≤ level := Nat.zero_le _

/-- Raising the level leaves out checks. -/
theorem checks_eq_filter (a : Attachments) (options options' : ValidationOptions)
    (h : options.leastLevel = .debug) (document : Node) :
    checks a options' document
      = (checks a options document).filter fun p => options'.leastLevel ≤ p.2.level := by
  rw [checks, checks, List.filter_flatMap]
  congr 1
  funext n
  rw [List.filter_map, List.filter_filter]
  congr 1
  refine List.filter_congr fun c _ => ?_
  rw [h]
  simp [debug_le]

/-- What the checks at or above the level observe is what all of them observe there. -/
theorem observed_filter {ctx : Context} (checks : List (Node × Constraint)) (level : Level) :
    observed ctx (checks.filter fun p => level ≤ p.2.level)
      = atLeast level (observed ctx checks) := by
  induction checks with
  | nil => rfl
  | cons p rest ih =>
    have hcons : observed ctx (p :: rest) = (outcome ctx p).observations ++ observed ctx rest := rfl
    have hconstraint : ∀ o ∈ (outcome ctx p).observations, o.constraint = p.2 :=
      fun o ho => (Constraint.sees_of_observe ho).1
    rw [hcons, atLeast_append, List.filter_cons]
    by_cases hle : level ≤ p.2.level
    · have hkept : atLeast level (outcome ctx p).observations
          = (outcome ctx p).observations :=
        List.filter_eq_self.mpr fun o ho => by rw [hconstraint o ho]; exact decide_eq_true hle
      rw [if_pos (decide_eq_true hle), hkept, ← ih]
      rfl
    · have hskipped : atLeast level (outcome ctx p).observations = [] :=
        List.filter_eq_nil_iff.mpr fun o ho => by rw [hconstraint o ho]; simpa using hle
      rw [if_neg (by simpa using hle), hskipped, ← ih]
      rfl

/-! ## Accounting without skipped constraints -/

/-- What is reported does not change where the key has been seen at the same place before. -/
theorem filter_reported_eq {q : Finding → Bool}
    (h : ∀ k, o.enters k = true →
      seen'.lookup k = seen.lookup k ∨ ∀ message, q (o.finding message) = false) :
    (reported? seen' o).toList.filter q = (reported? seen o).toList.filter q := by
  by_cases hq : ∀ message, q (o.finding message) = false
  · have hnil : ∀ seen, (reported? seen o).toList.filter q = [] := by
      intro seen
      rw [List.filter_eq_nil_iff]
      intro f hf
      obtain ⟨message, rfl⟩ := exists_of_mem_reported hf
      simp [hq message]
    rw [hnil, hnil]
  · rw [reported?.eq_def, reported?.eq_def]
    cases hsight : o.sight with
    | violation message => rfl
    | reference index key => rfl
    | entry table key =>
      have hsame := (h (table, key) (Observation.enters_iff.mpr hsight)).resolve_right hq
      simp only
      rw [hsame]

/-- Accounting for the observations at or above a level gives the findings at or above it, as far as
they are about keys (`W`) that were entered first at or above the level. Of findings about other
keys `q` does not speak. -/
theorem account_atLeast {q : Finding → Bool} {W : KeyTable × Key → Prop}
    (hq : ∀ o ∈ os, level ≤ o.constraint.level → ∀ k, o.enters k = true →
      W k ∨ ∀ message, q (o.finding message) = false)
    (hfirst : ∀ k, W k → seen.lookup k = none →
      ∀ first ∈ firstItem? os k, level ≤ first.constraint.level)
    (hseen : ∀ k, W k → seen'.lookup k = seen.lookup k) :
    (account seen' (atLeast level os)).1.filter q
      = (findingsAtLeast level (account seen os).1).filter q := by
  induction os generalizing seen seen' with
  | nil => rfl
  | cons o rest ih =>
    have hqrest := fun o' (ho' : o' ∈ rest) => hq o' (List.mem_cons_of_mem o ho')
    have hfirst' : ∀ k, W k → (seen.after o).lookup k = none →
        ∀ first ∈ firstItem? rest k, level ≤ first.constraint.level := by
      intro k hk hnone first hmem
      rw [SeenKeys.lookup_after] at hnone
      split at hnone
      · cases hnone
      · rename_i hnot
        refine hfirst k hk hnone first ?_
        rw [firstItem?_cons, if_neg hnot]
        exact hmem
    rw [account_cons, findingsAtLeast_reported]
    by_cases hle : level ≤ o.constraint.level
    · have hseen' : ∀ k, W k → (seen'.after o).lookup k = (seen.after o).lookup k := by
        intro k hk
        rw [SeenKeys.lookup_after, SeenKeys.lookup_after, hseen k hk]
      have hreported : (reported? seen' o).toList.filter q = (reported? seen o).toList.filter q :=
        filter_reported_eq fun k hk => (hq o List.mem_cons_self hle k hk).imp_left (hseen k)
      rw [atLeast_cons_of_le hle, account_cons, if_pos hle, List.filter_append, List.filter_append,
        hreported, ih hqrest hfirst' hseen']
    · -- a key that matters was not entered first by a skipped constraint
      have hseen' : ∀ k, W k → seen'.lookup k = (seen.after o).lookup k := by
        intro k hk
        rw [SeenKeys.lookup_after, hseen k hk]
        split
        · rename_i henters
          cases hnone : seen.lookup k with
          | some first => rfl
          | none =>
            refine absurd (hfirst k hk hnone o ?_) hle
            rw [firstItem?_cons, if_pos henters]
            rfl
        · rfl
      rw [atLeast_cons_of_not_le hle, if_neg hle, ih hqrest hfirst' hseen']

/-- Without the skipped constraints there are no more findings at or above the level. -/
theorem length_account_atLeast_le (h : SeenKeys.Within seen' seen) :
    (account seen' (atLeast level os)).1.length
      ≤ (findingsAtLeast level (account seen os).1).length := by
  induction os generalizing seen seen' with
  | nil => exact Nat.le_refl _
  | cons o rest ih =>
    rw [account_cons, findingsAtLeast_reported]
    by_cases hle : level ≤ o.constraint.level
    · rw [atLeast_cons_of_le hle, account_cons, if_pos hle, List.length_append, List.length_append]
      exact Nat.add_le_add (h.length_reported_le o) (ih (h.after o))
    · rw [atLeast_cons_of_not_le hle, if_neg hle]
      exact ih (h.after_right o)

/-- If there are as many, then every key that is entered at or above the level is first entered
there. -/
theorem first_of_length_account_eq (h : SeenKeys.Within seen' seen)
    (hlen : (account seen' (atLeast level os)).1.length
      = (findingsAtLeast level (account seen os).1).length)
    (hk : seen'.lookup k = none) (ho : o ∈ os) (hlevel : level ≤ o.constraint.level)
    (henters : o.enters k = true) :
    seen.lookup k = none ∧ ∀ first ∈ firstItem? os k, level ≤ first.constraint.level := by
  induction os generalizing seen seen' with
  | nil => exact absurd ho List.not_mem_nil
  | cons p rest ih =>
    rw [account_cons, findingsAtLeast_reported] at hlen
    by_cases hle : level ≤ p.constraint.level
    · rw [atLeast_cons_of_le hle, account_cons, if_pos hle, List.length_append,
        List.length_append] at hlen
      have hreported := h.length_reported_le p
      have hrest : (account (seen'.after p) (atLeast level rest)).1.length
          ≤ (findingsAtLeast level (account (seen.after p) rest).1).length :=
        length_account_atLeast_le (h.after p)
      by_cases hp : p.enters k = true
      · -- the key is new without the skipped constraints, so it is new with them
        refine ⟨lookup_eq_none_of_length_reported_eq (by omega) hp hk, fun first hfirst => ?_⟩
        rw [firstItem?_cons, if_pos hp] at hfirst
        cases hfirst
        exact hle
      · have hmem : o ∈ rest :=
          (List.mem_cons.mp ho).resolve_left fun heq => hp (heq ▸ henters)
        have hnone := ih (h.after p) (by omega)
          (by rw [SeenKeys.lookup_after, if_neg hp]; exact hk) hmem
        rw [SeenKeys.lookup_after, if_neg hp] at hnone
        rw [firstItem?_cons, if_neg hp]
        exact hnone
    · rw [atLeast_cons_of_not_le hle, if_neg hle] at hlen
      have hmem : o ∈ rest := (List.mem_cons.mp ho).resolve_left fun heq => hle (heq ▸ hlevel)
      have hnone := ih (h.after_right p) hlen hk hmem
      rw [SeenKeys.lookup_after] at hnone
      split at hnone
      · cases hnone.1
      · rename_i hp
        rw [firstItem?_cons, if_neg hp]
        exact hnone

/-- If accounting finds the same, every key that is entered at or above the level is first entered
there. -/
theorem first_of_account_eq
    (h : (account [] (atLeast level os)).1 = findingsAtLeast level (account [] os).1) (ho : o ∈ os)
    (hlevel : level ≤ o.constraint.level) (henters : o.enters k = true) :
    ∀ first ∈ firstItem? os k, level ≤ first.constraint.level :=
  (first_of_length_account_eq (fun _ h => h) (congrArg List.length h) rfl ho hlevel henters).2

/-! ## Missing keys without skipped constraints -/

/-- What was entered at or above the level was entered. -/
theorem account_atLeast_within (os : List Observation) :
    SeenKeys.Within (account [] (atLeast level os)).2 (account [] os).2 := by
  intro k hk
  rw [isSome_lookup_account_nil] at hk ⊢
  obtain ⟨o, ho, henters⟩ := hk
  exact ⟨o, (mem_atLeast.mp ho).1, henters⟩

/-- Without the skipped constraints no fewer keys are missing. -/
theorem isSome_missing?_atLeast (h : (missing? (account [] os).2 o).isSome = true) :
    (missing? (account [] (atLeast level os)).2 o).isSome = true := by
  obtain ⟨name, key, hsight, hnone⟩ := (isSome_missing? _ o).mp h
  refine (isSome_missing? _ o).mpr ⟨name, key, hsight, ?_⟩
  rw [← Option.not_isSome_iff_eq_none] at hnone ⊢
  exact fun hsome => hnone (account_atLeast_within os _ hsome)

/-- The findings about missing keys are of the levels of the references. -/
theorem references_atLeast {ctx : Context} {keys : SeenKeys} {found : List Finding}
    (h : references ctx keys os = found.map .ok) :
    references ctx keys (atLeast level os) = (findingsAtLeast level found).map .ok := by
  induction os generalizing found with
  | nil =>
    cases found with
    | nil => rfl
    | cons f fs => cases h
  | cons o rest ih =>
    cases hmissing : missing? keys o with
    | none =>
      have hskip : ∀ os, references ctx keys (o :: os) = references ctx keys os := fun os => by
        simp [references, hmissing]
      rw [hskip] at h
      by_cases hle : level ≤ o.constraint.level
      · rw [atLeast_cons_of_le hle, hskip, ih h]
      · rw [atLeast_cons_of_not_le hle, ih h]
    | some k =>
      have hcons : ∀ os, references ctx keys (o :: os)
          = missingFinding ctx o k :: references ctx keys os := fun os => by
        simp [references, hmissing]
      rw [hcons] at h
      cases found with
      | nil => cases h
      | cons f fs =>
        obtain ⟨hf, hfs⟩ := List.cons_eq_cons.mp h
        have hlevel : f.level = o.constraint.level := by
          obtain ⟨message, rfl⟩ := exists_of_missingFinding hf
          rfl
        rw [findingsAtLeast, List.filter_cons, hlevel]
        by_cases hle : level ≤ o.constraint.level
        · rw [atLeast_cons_of_le hle, hcons, ih hfs, hf, if_pos (decide_eq_true hle)]
          rfl
        · rw [atLeast_cons_of_not_le hle, ih hfs, if_neg (by simpa using hle)]
          rfl

/-- If no fewer elements are of the narrower kind, then all that are of the wider kind are. -/
theorem forall_of_countP_eq {α : Type} {p q : α → Bool} {l : List α}
    (h : ∀ a, p a = true → q a = true) (hcount : l.countP p = l.countP q) :
    ∀ a ∈ l, q a = true → p a = true := by
  have hboth : l.filter (fun a => p a && q a) = l.filter p := by
    refine List.filter_congr fun a _ => ?_
    cases hp : p a with
    | false => rfl
    | true => rw [h a hp]; rfl
  have hlen : ((l.filter q).filter p).length = (l.filter q).length := by
    rw [List.filter_filter, hboth, ← List.countP_eq_length_filter, hcount,
      List.countP_eq_length_filter]
  intro a ha hq
  exact List.length_filter_eq_length_iff.mp hlen a (List.mem_filter.mpr ⟨ha, hq⟩)

/-- If resolving finds the same, a key that is entered and that a reference at or above the level
looks up is entered there as well. -/
theorem exists_enters_of_references_eq {ctx : Context}
    (h : references ctx (account [] os).2 (atLeast level os)
      = references ctx (account [] (atLeast level os)).2 (atLeast level os))
    (ho : o ∈ atLeast level os) {name : String} {key : Key} (hsight : o.sight = .reference name key)
    (hfound : ((account [] os).2.lookup (.index name, key)).isSome) :
    ∃ o' ∈ atLeast level os, o'.enters (.index name, key) = true := by
  have hlen := congrArg List.length h
  simp only [references, List.length_filterMap_eq_countP, Option.isSome_map] at hlen
  rw [← isSome_lookup_account_nil]
  by_contra hnone
  have hmissing := (isSome_missing? _ o).mpr
    ⟨name, key, hsight, Option.not_isSome_iff_eq_none.mp hnone⟩
  -- the key is missing for as many references as before, so it was missing before
  have hbefore := forall_of_countP_eq (fun _ => isSome_missing?_atLeast) hlen o ho hmissing
  obtain ⟨name', key', hsight', hnone'⟩ := (isSome_missing? _ o).mp hbefore
  rw [hsight] at hsight'
  cases hsight'
  rw [hnone'] at hfound
  cases hfound

end TreePath.Validation
