/-
TreePath.Proofs.Function.Registration — no number of arguments ever has two functions of one name.

The check for an overlap is made on the smallest arities alone; it is exact (`overlap_iff`), and the
arity that a refusal names is one that both functions accept (`accepts_of_overlap`). What a registry
is can then be said by the list of its functions: each name has those of them that have the name
(`Consistent.overloads_eq`), in an order that depends on nothing else. Adding a function preserves
this (`Consistent.register`), so registries with the same functions find the same
(`Consistent.resolve_congr`), in whatever order they were added.

Adding in place makes room for a name before it looks for an overlap, and sorts the functions of the
name again afterwards (`registerInPlace`). It comes to the same (`Consistent.registerInPlace_eq`): a
function is refused only if its name has functions already, so no room is left empty.
-/
import Mathlib.Data.List.Pairwise
import TreePath.Proofs.Function.Registry

namespace TreePath

/-! ## Numbers of arguments -/

/-- Some number of arguments is accepted by both functions. -/
def Function.Clashes (f g : Function) : Prop :=
  ∃ n, f.acceptsArity n = true ∧ g.acceptsArity n = true

/-- The functions do not stand in each other's way. -/
def Function.Apart (f g : Function) : Prop := f.name = g.name → ¬ f.Clashes g

theorem Function.Clashes.symm {f g : Function} (h : f.Clashes g) : g.Clashes f :=
  h.imp fun _ ⟨hf, hg⟩ => ⟨hg, hf⟩

theorem Function.Apart.symm {f g : Function} (h : f.Apart g) : g.Apart f :=
  fun hname hclash => h hname.symm hclash.symm

instance : Std.Symm Function.Apart := ⟨fun _ _ => Function.Apart.symm⟩

namespace Registry

/-- The larger of the two arities is accepted by both. -/
theorem accepts_of_overlap {f g : Function} (h : overlap f g = true) :
    f.acceptsArity (max f.arity g.arity) = true ∧ g.acceptsArity (max f.arity g.arity) = true := by
  have hle := Nat.le_max_left f.arity g.arity
  have hle' := Nat.le_max_right f.arity g.arity
  unfold overlap at h
  unfold Function.acceptsArity
  cases hf : f.isUnbounded <;> cases hg : g.isUnbounded <;> simp_all

/-- **The check for an overlap is exact.** -/
theorem overlap_iff {f g : Function} : overlap f g = true ↔ f.Clashes g := by
  refine ⟨fun h => ⟨_, accepts_of_overlap h⟩, ?_⟩
  rintro ⟨n, hf, hg⟩
  unfold Function.acceptsArity at hf hg
  unfold overlap
  cases hfu : f.isUnbounded <;> cases hgu : g.isUnbounded <;> simp_all

/-! ## The order of overloads -/

theorem comesBefore_asymm {f g : Function} (h : comesBefore f g = true) :
    comesBefore g f = false := by
  unfold comesBefore at h ⊢
  cases hf : f.isUnbounded <;> cases hg : g.isUnbounded <;> simp_all <;> omega

theorem comesBefore_trans {f g k : Function} (h : comesBefore f g = true)
    (h' : comesBefore g k = true) : comesBefore f k = true := by
  unfold comesBefore at h h' ⊢
  cases hf : f.isUnbounded <;> cases hg : g.isUnbounded <;> cases hk : k.isUnbounded <;>
    simp_all <;> omega

/-- Functions that have no order accept a common number of arguments. -/
theorem overlap_of_unordered {f g : Function} (h : comesBefore f g = false)
    (h' : comesBefore g f = false) : overlap f g = true := by
  unfold comesBefore at h h'
  unfold overlap
  cases hf : f.isUnbounded <;> cases hg : g.isUnbounded <;> simp_all
  -- two bounded functions without an order have the same arity
  omega

/-- The functions are in their order. -/
def Sorted (fs : List Function) : Prop := fs.Pairwise fun f g => comesBefore f g = true

/-- Lists in order with the same functions are equal. -/
theorem Sorted.eq_of_perm {fs gs : List Function} (hf : Sorted fs) (hg : Sorted gs)
    (h : fs.Perm gs) : fs = gs := by
  refine List.Perm.eq_of_pairwise (fun f g _ _ hfg hgf => ?_) hf hg h
  rw [comesBefore_asymm hfg] at hgf
  cases hgf

/-- Different functions of a list in order have an order. -/
theorem Sorted.ordered {fs : List Function} (h : Sorted fs) {f g : Function} (hf : f ∈ fs)
    (hg : g ∈ fs) (hne : f ≠ g) : comesBefore f g = true ∨ comesBefore g f = true := by
  let Ordered (f g : Function) : Prop := comesBefore f g = true ∨ comesBefore g f = true
  have : Std.Symm Ordered := ⟨fun _ _ => Or.symm⟩
  have hordered : fs.Pairwise Ordered := h.imp Or.inl
  exact hordered.forall hf hg hne

theorem perm_insertOverload (f : Function) :
    ∀ fs : List Function, (insertOverload f fs).Perm (f :: fs)
  | [] => .refl _
  | g :: rest => by
      rw [insertOverload]
      split
      · exact .refl _
      · exact ((perm_insertOverload f rest).cons g).trans (.swap f g rest)

theorem Sorted.insertOverload {f : Function} :
    ∀ {fs : List Function}, Sorted fs → (∀ g ∈ fs, overlap g f = false) →
      Sorted (insertOverload f fs)
  | [], _, _ => List.pairwise_singleton _ _
  | g :: rest, hsorted, hnone => by
      obtain ⟨hg, hrest⟩ := List.pairwise_cons.mp hsorted
      rw [Registry.insertOverload]
      split
      · rename_i hfg
        refine List.pairwise_cons.mpr ⟨fun k hk => ?_, hsorted⟩
        rcases List.mem_cons.mp hk with rfl | hk
        · exact hfg
        · exact comesBefore_trans hfg (hg k hk)
      · rename_i hfg
        have hgf : comesBefore g f = true := by
          by_contra hgf
          have hoverlap := overlap_of_unordered (Bool.eq_false_iff.mpr hgf)
            (Bool.eq_false_iff.mpr hfg)
          rw [hnone g List.mem_cons_self] at hoverlap
          cases hoverlap
        have hlater := Sorted.insertOverload hrest fun k hk => hnone k (List.mem_cons_of_mem g hk)
        refine List.pairwise_cons.mpr ⟨fun k hk => ?_, hlater⟩
        rcases List.mem_cons.mp ((perm_insertOverload f rest).mem_iff.mp hk) with rfl | hk
        · exact hgf
        · exact hg k hk

/-! ## The functions of a name -/

theorem map_fst_update (name : Name) (change : List Function → List Function) :
    ∀ entries : List (Name × List Function), (update name change entries).map Prod.fst
      = if name ∈ entries.map Prod.fst then entries.map Prod.fst
        else entries.map Prod.fst ++ [name]
  | [] => rfl
  | (n, fs) :: rest => by
      rw [update]
      by_cases hn : n = name
      · simp [hn]
      · have hne : name ≠ n := Ne.symm hn
        simp only [hn, if_false, List.map_cons, map_fst_update name change rest, List.mem_cons, hne,
          false_or]
        split <;> rfl

/-- What stands under a name afterwards is what stood there before, or what it was changed to. -/
theorem mem_update {name : Name} {change : List Function → List Function}
    {e : Name × List Function} :
    ∀ {entries : List (Name × List Function)}, e ∈ update name change entries →
      e ∈ entries ∨ e = (name, change []) ∨ ∃ fs, (name, fs) ∈ entries ∧ e = (name, change fs)
  | [], h => .inr (.inl (List.mem_singleton.mp h))
  | (n, fs) :: rest, h => by
      rw [update] at h
      split at h
      · rename_i hn
        subst hn
        rcases List.mem_cons.mp h with rfl | h
        · exact .inr (.inr ⟨fs, List.mem_cons_self, rfl⟩)
        · exact .inl (List.mem_cons_of_mem _ h)
      · rcases List.mem_cons.mp h with rfl | h
        · exact .inl List.mem_cons_self
        · rcases mem_update h with hrest | hnew | ⟨gs, hgs, rfl⟩
          · exact .inl (List.mem_cons_of_mem _ hrest)
          · exact .inr (.inl hnew)
          · exact .inr (.inr ⟨gs, List.mem_cons_of_mem _ hgs, rfl⟩)

theorem perm_flatMap_update (name : Name) (f : Function) :
    ∀ entries : List (Name × List Function),
      ((update name (insertOverload f) entries).flatMap (·.2)).Perm (f :: entries.flatMap (·.2))
  | [] => .refl _
  | (n, fs) :: rest => by
      rw [update]
      split
      · exact (perm_insertOverload f fs).append_right _
      · exact ((perm_flatMap_update name f rest).append_left fs).trans List.perm_middle

theorem update_congr {name : Name} {change change' : List Function → List Function} :
    ∀ {entries : List (Name × List Function)},
      change ((entries.lookup name).getD []) = change' ((entries.lookup name).getD []) →
        update name change entries = update name change' entries
  | [], h => by
      rw [List.lookup_nil, Option.getD_none] at h
      rw [update, update, h]
  | (n, fs) :: rest, h => by
      rw [update, update]
      by_cases hn : n = name
      · subst hn
        rw [List.lookup_cons_self, Option.getD_some] at h
        rw [if_pos rfl, if_pos rfl, h]
      · rw [List.lookup_cons, beq_false_of_ne (Ne.symm hn)] at h
        rw [if_neg hn, if_neg hn, update_congr h]

/-- Room for a name that is there already makes no difference. -/
theorem update_id {name : Name} {fs : List Function} :
    ∀ {entries : List (Name × List Function)}, entries.lookup name = some fs →
      update name id entries = entries
  | (n, gs) :: rest, h => by
      rw [update]
      by_cases hn : n = name
      · rw [if_pos hn, id]
      · rw [List.lookup_cons, beq_false_of_ne (Ne.symm hn)] at h
        rw [if_neg hn, update_id h]

/-- Room that was made for a name is used by what is done to the name next. -/
theorem update_update_id (name : Name) (change : List Function → List Function) :
    ∀ entries : List (Name × List Function),
      update name change (update name id entries) = update name change entries
  | [] => by simp [update]
  | (n, fs) :: rest => by
      by_cases hn : n = name
      · simp [update, hn]
      · simp [update, hn, update_update_id name change rest]

theorem getD_lookup_update_id (name : Name) :
    ∀ entries : List (Name × List Function),
      ((update name id entries).lookup name).getD [] = (entries.lookup name).getD []
  | [] => by simp [update]
  | (n, fs) :: rest => by
      by_cases hn : n = name
      · simp [update, hn]
      · have hne := beq_false_of_ne (Ne.symm hn)
        simp [update, hn, List.lookup_cons, hne, getD_lookup_update_id name rest]

/-- Where names are not repeated and functions stand under their names, those under a name are all
that have it. -/
theorem getD_lookup_eq_filter (name : Name) :
    ∀ {entries : List (Name × List Function)}, (entries.map Prod.fst).Nodup →
      (∀ e ∈ entries, ∀ f ∈ e.2, f.name = e.1) →
        (entries.lookup name).getD [] = (entries.flatMap (·.2)).filter (·.name = name)
  | [], _, _ => rfl
  | (n, fs) :: rest, hnodup, hnamed => by
      obtain ⟨hn, hnodup⟩ := List.nodup_cons.mp hnodup
      obtain ⟨hfs, hnamed⟩ := List.forall_mem_cons.mp hnamed
      rw [List.flatMap_cons, List.filter_append]
      by_cases hname : n = name
      · subst hname
        have hfirst : fs.filter (·.name = n) = fs :=
          List.filter_eq_self.mpr fun f hf => decide_eq_true (hfs f hf)
        have hlater : (rest.flatMap (·.2)).filter (·.name = n) = [] := by
          refine List.filter_eq_nil_iff.mpr fun f hf => ?_
          obtain ⟨e, he, hf⟩ := List.mem_flatMap.mp hf
          rw [decide_eq_true_iff, hnamed e he f hf]
          intro heq
          have hmem : e.1 ∈ rest.map Prod.fst := List.mem_map_of_mem he
          exact hn (heq ▸ hmem)
        rw [List.lookup_cons_self, Option.getD_some, hfirst, hlater, List.append_nil]
      · have hfirst : fs.filter (·.name = name) = [] :=
          List.filter_eq_nil_iff.mpr fun f hf => by simp [hfs f hf, hname]
        rw [List.lookup_cons, beq_false_of_ne (Ne.symm hname), hfirst, List.nil_append]
        exact getD_lookup_eq_filter name hnodup hnamed

/-! ## Consistent registries -/

/-- What holds of every registry that was built by adding functions. -/
structure Consistent (r : Registry) : Prop where
  nodup : (r.entries.map Prod.fst).Nodup
  named : ∀ e ∈ r.entries, ∀ f ∈ e.2, f.name = e.1
  inhabited : ∀ e ∈ r.entries, e.2 ≠ []
  sorted : ∀ e ∈ r.entries, Sorted e.2
  apart : r.functions.Pairwise Function.Apart

theorem consistent_empty : Registry.empty.Consistent where
  nodup := List.nodup_nil
  named _ he := absurd he List.not_mem_nil
  inhabited _ he := absurd he List.not_mem_nil
  sorted _ he := absurd he List.not_mem_nil
  apart := .nil

namespace Consistent

variable {r r' : Registry} {f g : Function} {name : Name}

/-- **The functions of a name are all that have it.** -/
theorem overloads_eq (h : r.Consistent) (name : Name) :
    r.overloads name = r.functions.filter (·.name = name) :=
  getD_lookup_eq_filter name h.nodup h.named

theorem mem_overloads_iff (h : r.Consistent) :
    f ∈ r.overloads name ↔ f ∈ r.functions ∧ f.name = name := by
  rw [h.overloads_eq, List.mem_filter, decide_eq_true_iff]

/-- Two functions of one name that accept a number of arguments are one function. -/
theorem eq_of_accepts (h : r.Consistent) (hf : f ∈ r.functions) (hg : g ∈ r.functions)
    (hname : f.name = g.name) {n : Nat} (hfn : f.acceptsArity n = true)
    (hgn : g.acceptsArity n = true) : f = g := by
  by_contra hne
  exact h.apart.forall hf hg hne hname ⟨n, hfn, hgn⟩

theorem sorted_overloads (h : r.Consistent) (name : Name) : Sorted (r.overloads name) := by
  rw [overloads]
  cases hlookup : r.entries.lookup name with
  | none => exact .nil
  | some fs =>
    obtain ⟨l₁, l₂, heq, -⟩ := List.lookup_eq_some_iff.mp hlookup
    exact h.sorted (name, fs) (by rw [heq]; simp)

/-- A name that has no functions is not there. -/
theorem lookup_eq (h : r.Consistent) (name : Name) :
    r.entries.lookup name = if r.overloads name = [] then none else some (r.overloads name) := by
  rw [overloads]
  cases hlookup : r.entries.lookup name with
  | none => rfl
  | some fs =>
    obtain ⟨l₁, l₂, heq, -⟩ := List.lookup_eq_some_iff.mp hlookup
    have hne : fs ≠ [] := h.inhabited (name, fs) (by rw [heq]; simp)
    rw [Option.getD_some, if_neg hne]

theorem overlap_eq_false_iff (h : r.Consistent) :
    (∀ g ∈ r.overloads f.name, overlap g f = false) ↔ ∀ g ∈ r.functions, g.Apart f := by
  simp only [h.mem_overloads_iff, Function.Apart, ← overlap_iff, Bool.not_eq_true, and_imp]

/-! ## Adding one function -/

/-- **One step.** A function that is added is one more function, apart from all others, and the
registry stays consistent. -/
theorem register (h : r.Consistent) (hr : r.register f = .ok r') :
    r'.Consistent ∧ r'.functions.Perm (f :: r.functions) ∧ ∀ g ∈ r.functions, g.Apart f := by
  rw [Registry.register] at hr
  split at hr
  · cases hr
  · rename_i hnone
    cases hr
    have hoverlap : ∀ g ∈ r.overloads f.name, overlap g f = false := by
      simpa only [List.find?_eq_none, Bool.not_eq_true] using hnone
    have hperm := perm_flatMap_update f.name f r.entries
    have hapart := h.overlap_eq_false_iff.mp hoverlap
    have hunder : ∀ fs, (f.name, fs) ∈ r.entries → ∀ g ∈ fs, overlap g f = false :=
      fun fs hfs g hg => hoverlap g (h.mem_overloads_iff.mpr
        ⟨List.mem_flatMap.mpr ⟨_, hfs, hg⟩, h.named _ hfs g hg⟩)
    refine ⟨⟨?_, fun e he => ?_, fun e he => ?_, fun e he => ?_, ?_⟩, hperm, hapart⟩
    · rw [map_fst_update]
      split
      · exact h.nodup
      · rename_i hnew
        refine List.nodup_append.mpr ⟨h.nodup, List.pairwise_singleton _ _, fun n hn m hm hnm => ?_⟩
        rw [List.mem_singleton.mp hm] at hnm
        exact hnew (hnm ▸ hn)
    · rcases mem_update he with he | rfl | ⟨fs, hfs, rfl⟩
      · exact h.named e he
      · intro g hg
        rw [List.mem_singleton.mp hg]
      · intro g hg
        rcases mem_of_mem_insertOverload hg with rfl | hg
        · rfl
        · exact h.named _ hfs g hg
    · rcases mem_update he with he | rfl | ⟨fs, -, rfl⟩
      · exact h.inhabited e he
      · exact List.cons_ne_nil _ _
      · intro hnil
        have hlength := (perm_insertOverload f fs).length_eq
        have hnone : insertOverload f fs = [] := hnil
        rw [hnone] at hlength
        cases hlength
    · rcases mem_update he with he | rfl | ⟨fs, hfs, rfl⟩
      · exact h.sorted e he
      · exact List.pairwise_singleton _ _
      · exact (h.sorted _ hfs).insertOverload (hunder fs hfs)
    · refine (hperm.pairwise_iff fun {f g} => Function.Apart.symm).mpr ?_
      exact List.pairwise_cons.mpr ⟨fun g hg => (hapart g hg).symm, h.apart⟩

/-- A function is refused because of another one of its name, and for a number of arguments that
both accept. -/
theorem exists_clash (h : r.Consistent) {a : Ambiguity} (hr : r.register f = .error a) :
    a.name = f.name ∧ ∃ g ∈ r.functions, g.name = f.name ∧
      g.acceptsArity a.arity = true ∧ f.acceptsArity a.arity = true := by
  rw [Registry.register] at hr
  split at hr
  · rename_i g hfind
    cases hr
    obtain ⟨hmem, hname⟩ := h.mem_overloads_iff.mp (List.mem_of_find?_eq_some hfind)
    exact ⟨rfl, g, hmem, hname,
      accepts_of_overlap (List.find?_some (p := fun g => overlap g f) hfind)⟩
  · cases hr

/-- What stands apart from all functions is not refused. -/
theorem exists_register (h : r.Consistent) (hf : ∀ g ∈ r.functions, g.Apart f) :
    ∃ r', r.register f = .ok r' := by
  rw [Registry.register]
  have hnone : ((r.overloads f.name).find? fun g => overlap g f) = none := by
    simpa only [List.find?_eq_none, Bool.not_eq_true] using h.overlap_eq_false_iff.mpr hf
  rw [hnone]
  exact ⟨_, rfl⟩

/-! ## Finding functions -/

/-- **What is found depends on the functions alone**, not on the order in which they were added. -/
theorem resolve_congr (h : r.Consistent) (h' : r'.Consistent)
    (hperm : r.functions.Perm r'.functions) (name : Name) (n : Nat) :
    r.resolve name n = r'.resolve name n := by
  have hsame : r.overloads name = r'.overloads name := by
    refine (h.sorted_overloads name).eq_of_perm (h'.sorted_overloads name) ?_
    rw [h.overloads_eq, h'.overloads_eq]
    exact hperm.filter _
  rw [resolve, resolve, h.lookup_eq, h'.lookup_eq, hsame]

theorem resolve_eq_ok (h : r.Consistent) {n : Nat} (hr : r.resolve name n = .ok f) :
    f ∈ r.functions ∧ f.name = name ∧ f.acceptsArity n = true := by
  have hfunction := mem_of_resolve hr
  rw [resolve, h.lookup_eq] at hr
  split at hr
  · cases hr
  · rename_i fs hlookup
    split at hlookup
    · cases hlookup
    · cases hlookup
      split at hr
      · rename_i hfind
        cases hr
        have hmem := h.mem_overloads_iff.mp (List.mem_of_find?_eq_some hfind)
        exact ⟨hmem.1, hmem.2, hfunction.2⟩
      · cases hr

theorem resolve_eq_error (h : r.Consistent) {n : Nat} {e : ResolveError}
    (hr : r.resolve name n = .error e) (hf : f ∈ r.functions) (hname : f.name = name) :
    f.acceptsArity n = false := by
  have hmem : f ∈ r.overloads name := h.mem_overloads_iff.mpr ⟨hf, hname⟩
  rw [resolve, h.lookup_eq, if_neg (List.ne_nil_of_mem hmem)] at hr
  simp only at hr
  split at hr
  · cases hr
  · rename_i hnone
    exact Bool.not_eq_true _ ▸ List.find?_eq_none.mp hnone f hmem

/-! ## Adding functions in order -/

/-- **A run.** All of the functions are in the registry that they make. -/
theorem registerEach :
    ∀ {fs : List Function} {r r' : Registry}, r.Consistent →
      fs.foldlM Registry.register r = .ok r' →
        r'.Consistent ∧ r'.functions.Perm (fs ++ r.functions)
  | [], r, r', h, hr => by
      cases hr
      exact ⟨h, .refl _⟩
  | f :: fs, r, r', h, hr => by
      rw [List.foldlM_cons] at hr
      cases hf : r.register f with
      | error a => rw [hf] at hr; cases hr
      | ok r₁ =>
        rw [hf] at hr
        obtain ⟨h₁, hperm₁, -⟩ := h.register hf
        obtain ⟨h', hperm⟩ := registerEach h₁ hr
        exact ⟨h', hperm.trans ((hperm₁.append_left fs).trans List.perm_middle)⟩

/-- Functions that stand apart can be added one after another. -/
theorem exists_registerEach :
    ∀ {fs : List Function} {r : Registry}, r.Consistent →
      (fs ++ r.functions).Pairwise Function.Apart →
        ∃ r', fs.foldlM Registry.register r = .ok r'
  | [], r, _, _ => ⟨r, rfl⟩
  | f :: fs, r, h, hapart => by
      obtain ⟨hf, hrest⟩ := List.pairwise_cons.mp hapart
      obtain ⟨r₁, hr₁⟩ := h.exists_register fun g hg => (hf g (List.mem_append_right fs hg)).symm
      obtain ⟨h₁, hperm₁, -⟩ := h.register hr₁
      have hall : (fs ++ r₁.functions).Pairwise Function.Apart :=
        (((hperm₁.append_left fs).trans List.perm_middle).pairwise_iff
          fun {f g} => Function.Apart.symm).mpr hapart
      obtain ⟨r', hr'⟩ := exists_registerEach h₁ hall
      refine ⟨r', ?_⟩
      rw [List.foldlM_cons, hr₁]
      exact hr'

theorem registerAll {calls : List Function} {r : Registry} (h : r.Consistent) :
    (r.registerAll calls).Consistent := by
  induction calls generalizing r with
  | nil => exact h
  | cons f calls ih =>
    rw [Registry.registerAll, List.foldl_cons, ← Registry.registerAll]
    cases hf : r.register f with
    | error a => exact ih h
    | ok r' => exact ih (h.register hf).1

end Consistent

/-! ## Adding in place -/

/-- Adds a function by changing the registry. Room is made for its name first; a function that is
not refused comes behind the others of its name, and they are sorted again. -/
def registerInPlace (r : Registry) (f : Function) : Option Ambiguity × Registry :=
  let opened : Registry := ⟨update f.name id r.entries⟩
  match (opened.overloads f.name).find? fun g => overlap g f with
  | some g => (some ⟨f.name, max g.arity f.arity⟩, opened)
  | none =>
    let sort (fs : List Function) := (fs ++ [f]).mergeSort fun g k => !comesBefore k g
    (none, ⟨update f.name sort opened.entries⟩)

/-- Sorting goes by what does not come later. -/
theorem pairwise_mergeSort (fs : List Function) :
    (fs.mergeSort fun f g => !comesBefore g f).Pairwise fun f g => (!comesBefore g f) = true := by
  have htrans : ∀ a b c : Function, (!comesBefore b a) = true → (!comesBefore c b) = true →
      (!comesBefore c a) = true := by
    intro a b c hab hbc
    unfold comesBefore at hab hbc ⊢
    cases ha : a.isUnbounded <;> cases hb : b.isUnbounded <;> cases hc : c.isUnbounded <;>
      simp_all <;> omega
  have htotal : ∀ a b : Function, ((!comesBefore b a) || !comesBefore a b) = true := by
    intro a b
    cases hab : comesBefore b a with
    | false => rfl
    | true => rw [comesBefore_asymm hab]; rfl
  exact List.pairwise_mergeSort htrans htotal fs

/-- Sorting again puts the last function in its place. -/
theorem Sorted.mergeSort_eq {fs : List Function} {f : Function} (h : Sorted fs)
    (hnone : ∀ g ∈ fs, overlap g f = false) :
    (fs ++ [f]).mergeSort (fun g k => !comesBefore k g) = Registry.insertOverload f fs := by
  have hinsert := h.insertOverload hnone
  have hperm : ((fs ++ [f]).mergeSort fun g k => !comesBefore k g).Perm
      (Registry.insertOverload f fs) :=
    (List.mergeSort_perm _ _).trans
      (List.perm_append_comm.trans (perm_insertOverload f fs).symm)
  refine List.Perm.eq_of_pairwise (fun a b ha hb hab hba => ?_) (pairwise_mergeSort _)
    (hinsert.imp fun {a b} hab => by rw [comesBefore_asymm hab]; rfl) hperm
  by_contra hne
  rcases hinsert.ordered (hperm.mem_iff.mp ha) hb hne with hlt | hlt
  · rw [hlt] at hba
    cases hba
  · rw [hlt] at hab
    cases hab

/-- **Adding in place is adding.** What is refused leaves nothing behind. -/
theorem Consistent.registerInPlace_eq {r : Registry} (h : r.Consistent) (f : Function) :
    r.registerInPlace f = match r.register f with
      | .ok r' => (none, r')
      | .error a => (some a, r) := by
  have hroom : (Registry.mk (update f.name id r.entries)).overloads f.name = r.overloads f.name :=
    getD_lookup_update_id f.name r.entries
  unfold registerInPlace Registry.register
  simp only [hroom]
  cases hfind : (r.overloads f.name).find? fun g => overlap g f with
  | some g =>
    have hmem := List.mem_of_find?_eq_some hfind
    have hlookup := h.lookup_eq f.name
    rw [if_neg (List.ne_nil_of_mem hmem)] at hlookup
    simp only [update_id hlookup]
  | none =>
    have hoverlap : ∀ g ∈ r.overloads f.name, overlap g f = false := by
      simpa only [List.find?_eq_none, Bool.not_eq_true] using hfind
    simp only [update_update_id]
    rw [update_congr]
    exact (h.sorted_overloads f.name).mergeSort_eq hoverlap

theorem foldl_registerInPlace {calls : List Function} {r : Registry} (h : r.Consistent) :
    calls.foldl (fun r f => (r.registerInPlace f).2) r = r.registerAll calls := by
  induction calls generalizing r with
  | nil => rfl
  | cons f calls ih =>
    rw [List.foldl_cons, h.registerInPlace_eq, Registry.registerAll, List.foldl_cons,
      ← Registry.registerAll]
    cases hf : r.register f with
    | error a => exact ih h
    | ok r' => exact ih (h.register hf).1

/-- **Registration.** After any calls, some of them refused, no two functions of one name accept one
number of arguments. The next function is refused exactly if one of its name accepts a number of
arguments that it accepts; the refusal names such a number and leaves the registry as it is, and
otherwise the function is one more of the registry. A name and a number of arguments find the one
function that has the name and accepts the number, if there is one. Functions that can all be added
in one order can be added in every order, and the same is found afterwards. -/
theorem registration_history (calls : List Function) :
    let r := Registry.empty.registerAll calls
    calls.foldl (fun r f => (r.registerInPlace f).2) Registry.empty = r ∧
    (r.functions.Pairwise fun f g => f.name = g.name → ¬ f.Clashes g) ∧
    (∀ f : Function, match r.register f with
      | .error a => r.registerInPlace f = (some a, r) ∧ a.name = f.name ∧
          ∃ g ∈ r.functions, g.name = f.name ∧
            g.acceptsArity a.arity = true ∧ f.acceptsArity a.arity = true
      | .ok r' => r.registerInPlace f = (none, r') ∧ r'.functions.Perm (f :: r.functions) ∧
          ∀ g ∈ r.functions, g.name = f.name → ¬ g.Clashes f) ∧
    (∀ (name : Name) (n : Nat), match r.resolve name n with
      | .ok f => ∀ g, g ∈ r.functions ∧ g.name = name ∧ g.acceptsArity n = true ↔ g = f
      | .error _ => ∀ g ∈ r.functions, g.name = name → g.acceptsArity n = false) ∧
    ∀ (fs gs : List Function) (r₁ : Registry), fs.Perm gs →
      fs.foldlM Registry.register r = .ok r₁ →
      ∃ r₂, gs.foldlM Registry.register r = .ok r₂ ∧
        ∀ name n, r₂.resolve name n = r₁.resolve name n := by
  intro r
  have h : r.Consistent := consistent_empty.registerAll
  refine ⟨foldl_registerInPlace consistent_empty, h.apart, fun f => ?_, fun name n => ?_, ?_⟩
  · rw [h.registerInPlace_eq]
    cases hr : r.register f with
    | error a => exact ⟨rfl, h.exists_clash hr⟩
    | ok r' => exact ⟨rfl, (h.register hr).2⟩
  · cases hr : r.resolve name n with
    | error e => exact fun f hf hname => h.resolve_eq_error hr hf hname
    | ok f =>
      obtain ⟨hf, hname, hn⟩ := h.resolve_eq_ok hr
      refine fun g => ⟨fun ⟨hg, hgname, hgn⟩ => ?_, ?_⟩
      · exact h.eq_of_accepts hg hf (hgname.trans hname.symm) hgn hn
      · rintro rfl
        exact ⟨hf, hname, hn⟩
  · intro fs gs r₁ hperm hr₁
    obtain ⟨h₁, hfunctions⟩ := h.registerEach hr₁
    have hall : (gs ++ r.functions).Perm r₁.functions :=
      (hperm.symm.append_right _).trans hfunctions.symm
    obtain ⟨r₂, hr₂⟩ := h.exists_registerEach
      ((hall.pairwise_iff fun {f g} => Function.Apart.symm).mpr h₁.apart)
    obtain ⟨h₂, hfunctions₂⟩ := h.registerEach hr₂
    exact ⟨r₂, hr₂, h₂.resolve_congr h₁ (hfunctions₂.trans hall)⟩

/-- Joins at least, or exactly, a number of strings. -/
def joining (id : FunctionId) (count : Nat) (unbounded : Bool) : Function where
  id
  name := ⟨none, "join"⟩
  parameters := List.replicate count ⟨"part", ⟨.atomic .string, .one⟩⟩
  result := ⟨.atomic .string, .one⟩
  properties := { unbounded }
  handler _ args := .done (.ok (.ofString (String.join (args.flatten.map Item.stringValue))))

/-- Three or more strings can be joined, so four cannot be added. One and two can, in either
order. -/
theorem registration_history_of_joining :
    let r := Registry.empty.registerAll [joining 0 3 true, joining 1 4 false]
    r.registerInPlace (joining 1 4 false) = (some ⟨⟨none, "join"⟩, 4⟩, r) ∧
    ∃ r₂, [joining 3 2 false, joining 2 1 false].foldlM Registry.register r = .ok r₂ ∧
      r₂.resolve ⟨none, "join"⟩ 1 = .ok (joining 2 1 false) ∧
      r₂.resolve ⟨none, "join"⟩ 7 = .ok (joining 0 3 true) := by
  obtain ⟨-, -, hregister, -, horder⟩ :=
    registration_history [joining 0 3 true, joining 1 4 false]
  obtain ⟨r₂, hr₂, hsame⟩ := horder [joining 2 1 false, joining 3 2 false] _ _
    (.swap _ _ []) rfl
  exact ⟨(hregister (joining 1 4 false)).1, r₂, hr₂, hsame _ 1, hsame _ 7⟩

end Registry

end TreePath
