/-
TreePath.Proofs.Tree.Arrangement — flags and children stand under their names.

A list of named values keeps one value per name, the last one (`NamedList.mem_ofList`). So every
flag of a node has an index of its own, every group of children has one, and within a group the
positions count up from 1. `Tree.Arranged` says so for a whole tree, and every tree that the program
builds is arranged (`Tree.Built.arranged`). In an arranged tree the steps below one node increase,
flags first (`Tree.Arranged.pairwise_step`), so no two of them are the same.
-/
import TreePath.Proofs.Tree.KeyOrder
import Mathlib.Data.List.Induction
import Mathlib.Data.List.Nodup
import Mathlib.Data.List.Pairwise

namespace TreePath

/-! ## One value per name -/

namespace NamedList

variable {α : Type}

theorem map_fst_insert (name : String) (a : α) :
    ∀ l : List (String × α), (insert name a l).map (·.1)
      = if name ∈ l.map (·.1) then l.map (·.1) else l.map (·.1) ++ [name]
  | [] => rfl
  | (n, b) :: rest => by
      rw [insert]
      by_cases h : n = name
      · simp [h]
      · have ih := map_fst_insert name a rest
        rw [if_neg h, List.map_cons, ih]
        by_cases hmem : name ∈ rest.map (·.1)
        · simp [hmem]
        · have hne : name ≠ n := fun heq => h heq.symm
          rw [if_neg hmem, if_neg (by simpa [hne] using hmem)]
          rfl

theorem nodup_insert {name : String} {a : α} {l : List (String × α)}
    (h : (l.map (·.1)).Nodup) : ((insert name a l).map (·.1)).Nodup := by
  rw [map_fst_insert]
  split
  · exact h
  · rename_i hmem
    exact List.nodup_append.mpr ⟨h, List.nodup_singleton name, by
      intro x hx y hy
      rw [List.mem_singleton.mp hy]
      exact fun heq => hmem (heq ▸ hx)⟩

theorem mem_insert {name m : String} {a c : α} :
    ∀ {l : List (String × α)}, (l.map (·.1)).Nodup →
      ((m, c) ∈ insert name a l ↔ if m = name then c = a else (m, c) ∈ l)
  | [], _ => by
      rw [insert]
      by_cases h : m = name <;> simp [h]
  | (n, b) :: rest, hnodup => by
      obtain ⟨hnot, hrest⟩ := List.nodup_cons.mp hnodup
      have hout : ∀ c, (n, c) ∉ rest := fun c hc => hnot (List.mem_map.mpr ⟨_, hc, rfl⟩)
      rw [insert]
      by_cases h : n = name
      · subst h
        rw [if_pos rfl, List.mem_cons]
        by_cases hm : m = n
        · subst hm
          simp [hout]
        · simp [hm]
      · rw [if_neg h, List.mem_cons, mem_insert hrest]
        by_cases hm : m = name
        · subst hm
          have hne : m ≠ n := fun heq => h heq.symm
          simp [hne]
        · simp [hm, List.mem_cons]

theorem ofList_concat (items : List (String × α)) (name : String) (a : α) :
    ofList (items ++ [(name, a)]) = insert name a (ofList items) := by
  simp [ofList, List.foldl_append]

theorem nodup_ofList (items : List (String × α)) : ((ofList items).map (·.1)).Nodup := by
  induction items using List.reverseRecOn with
  | nil => exact List.nodup_nil
  | append_singleton items e ih =>
    obtain ⟨name, a⟩ := e
    rw [ofList_concat]
    exact nodup_insert ih

/-- A name has the value that it was given last. -/
theorem mem_ofList {m : String} {c : α} {items : List (String × α)} :
    (m, c) ∈ ofList items ↔ items.reverse.lookup m = some c := by
  induction items using List.reverseRecOn with
  | nil => simp [ofList]
  | append_singleton items e ih =>
    obtain ⟨name, a⟩ := e
    rw [ofList_concat, mem_insert (nodup_ofList items), List.reverse_append,
      List.reverse_singleton, List.singleton_append, List.lookup_cons]
    by_cases h : m = name
    · subst h
      simp [eq_comm]
    · have hb : (m == name) = false := by simpa using h
      rw [if_neg h, hb]
      exact ih

theorem mem_of_mem_ofList {e : String × α} {items : List (String × α)} (h : e ∈ ofList items) :
    e ∈ items := by
  obtain ⟨m, c⟩ := e
  have hlookup := mem_ofList.mp h
  obtain ⟨l₁, l₂, heq, -⟩ := List.lookup_eq_some_iff.mp hlookup
  rw [← List.mem_reverse, heq]
  simp

end NamedList

namespace Tree

@[simp] theorem step_withStep (t : Tree) (step : Step) : (t.withStep step).step = step := by
  cases t
  rfl

@[simp] theorem label_withStep (t : Tree) (step : Step) : (t.withStep step).label = t.label := by
  cases t
  rfl

@[simp] theorem name_withStep (t : Tree) (step : Step) : (t.withStep step).name = t.name :=
  congrArg Label.name (label_withStep t step)

@[simp] theorem kind_withStep (t : Tree) (step : Step) : (t.withStep step).kind = t.kind :=
  congrArg Label.kind (label_withStep t step)

@[simp] theorem position_withStep (t : Tree) (step : Step) :
    (t.withStep step).position = t.position :=
  congrArg Label.position (label_withStep t step)

@[simp] theorem flags_withStep (t : Tree) (step : Step) : (t.withStep step).flags = t.flags := by
  cases t
  rfl

@[simp] theorem children_withStep (t : Tree) (step : Step) :
    (t.withStep step).children = t.children := by
  cases t
  rfl

/-! ## Arranged trees -/

/-- A flag of the name; flags have nothing below them. -/
structure IsFlag (name : String) (t : Tree) : Prop where
  name_eq : t.name = name
  kind_eq : t.kind = .flag
  flags_eq : t.flags = []
  children_eq : t.children = []

/-- The children of one name, of which there is one at least. -/
structure Siblings (name : String) (ts : List Tree) : Prop where
  ne_nil : ts ≠ []
  name_eq : ∀ t ∈ ts, t.name = name
  kind_ne : ∀ t ∈ ts, t.kind ≠ .flag
  positions : ts.map Tree.position = List.range' 1 ts.length

/-- Flags and children stand under their names, all the way down. -/
inductive Arranged : Tree → Prop where
  | mk {label : Label} {step : Step} {flags : List (String × Tree)}
      {children : List (String × List Tree)} :
      (∀ e ∈ flags, e.2.IsFlag e.1) →
      (∀ e ∈ children, Siblings e.1 e.2) →
      (∀ e ∈ children, ∀ t ∈ e.2, Arranged t) →
      Arranged (.mk label step (arrangeFlags flags) (arrangeChildren children))

theorem Arranged.withStep {t : Tree} (h : t.Arranged) (step : Step) :
    (t.withStep step).Arranged := by
  cases h with
  | mk hflags hgroups hchildren => exact .mk hflags hgroups hchildren

theorem Arranged.withBaseUri {t : Tree} (h : t.Arranged) (uri : Option String) :
    (t.withBaseUri uri).Arranged := by
  cases h with
  | mk hflags hgroups hchildren => exact .mk hflags hgroups hchildren

theorem IsFlag.arranged {name : String} {t : Tree} (h : t.IsFlag name) : t.Arranged := by
  obtain ⟨label, step, flags, children⟩ := t
  obtain rfl : flags = [] := h.flags_eq
  obtain rfl : children = [] := h.children_eq
  exact @Arranged.mk label step [] [] (fun _ he => absurd he List.not_mem_nil)
    (fun _ he => absurd he List.not_mem_nil) fun _ he => absurd he List.not_mem_nil

/-! ## Flags and children by their places -/

/-- A flag has its index as its step. -/
theorem getElem?_of_mem_arrangeFlags {items : List (String × Tree)} {t : Tree}
    (h : t ∈ arrangeFlags items) :
    ∃ (i : Nat) (name : String) (u : Tree), (NamedList.ofList items)[i]? = some (name, u) ∧
      t = u.withStep (0, i) := by
  obtain ⟨⟨⟨name, u⟩, i⟩, hu, rfl⟩ := List.mem_map.mp h
  exact ⟨i, name, u, List.mk_mem_zipIdx_iff_getElem?.mp hu, rfl⟩

/-- A child has the number of its group and its position as its step. -/
theorem getElem?_of_mem_arrangeChildren {items : List (String × List Tree)} {t : Tree}
    (h : t ∈ arrangeChildren items) :
    ∃ (i : Nat) (name : String) (group : List Tree),
      (NamedList.ofList items)[i]? = some (name, group) ∧
        ∃ u ∈ group, t = u.withStep (i + 1, u.position) := by
  obtain ⟨⟨⟨name, group⟩, i⟩, hgroup, hmem⟩ := List.mem_flatMap.mp h
  obtain ⟨u, hu, rfl⟩ := List.mem_map.mp hmem
  exact ⟨i, name, group, List.mk_mem_zipIdx_iff_getElem?.mp hgroup, u, hu, rfl⟩

theorem Arranged.isFlag_of_mem {t f : Tree} (h : t.Arranged) (hf : f ∈ t.flags) :
    f.IsFlag f.name := by
  cases h with
  | mk hflags _ _ =>
    obtain ⟨i, name, u, hu, rfl⟩ := getElem?_of_mem_arrangeFlags hf
    have hflag := hflags _ (NamedList.mem_of_mem_ofList (List.mem_of_getElem? hu))
    exact ⟨rfl, by simpa using hflag.kind_eq, by simpa using hflag.flags_eq,
      by simpa using hflag.children_eq⟩

theorem Arranged.kind_ne_flag {t c : Tree} (h : t.Arranged) (hc : c ∈ t.children) :
    c.kind ≠ .flag := by
  cases h with
  | mk _ hgroups _ =>
    obtain ⟨i, name, group, hgroup, u, hu, rfl⟩ := getElem?_of_mem_arrangeChildren hc
    rw [kind_withStep]
    exact (hgroups _ (NamedList.mem_of_mem_ofList (List.mem_of_getElem? hgroup))).kind_ne u hu

theorem Arranged.of_mem {t c : Tree} (h : t.Arranged) (hc : c ∈ t.flags ++ t.children) :
    c.Arranged := by
  rcases List.mem_append.mp hc with hc | hc
  · exact (h.isFlag_of_mem hc).arranged
  · cases h with
    | mk _ _ hchildren =>
      obtain ⟨i, name, group, hgroup, u, hu, rfl⟩ := getElem?_of_mem_arrangeChildren hc
      exact (hchildren _ (NamedList.mem_of_mem_ofList (List.mem_of_getElem? hgroup)) u
        hu).withStep _

/-! ## Steps of flags and children -/

theorem pairwise_zipIdx {α : Type} (l : List α) :
    l.zipIdx.Pairwise fun a b => a.2 < b.2 := by
  rw [← List.pairwise_map (f := Prod.snd) (R := (· < ·)), List.zipIdx_map_snd]
  exact List.pairwise_lt_range'

theorem pairwise_arrangeFlags (items : List (String × Tree)) :
    (arrangeFlags items).Pairwise fun a b => Step.compare a.step b.step = .lt := by
  refine List.pairwise_map.mpr ((pairwise_zipIdx _).imp ?_)
  rintro ⟨⟨_, u⟩, i⟩ ⟨⟨_, u'⟩, j⟩ hij
  simp only [step_withStep]
  exact Step.compare_eq_lt.mpr (.inr ⟨rfl, hij⟩)

/-- Within a group the positions increase, and from group to group the numbers. -/
theorem pairwise_arrangeChildren {items : List (String × List Tree)}
    (h : ∀ e ∈ items, Siblings e.1 e.2) :
    (arrangeChildren items).Pairwise fun a b => Step.compare a.step b.step = .lt := by
  refine List.pairwise_flatMap.mpr ⟨?_, ?_⟩
  · rintro ⟨⟨name, group⟩, i⟩ hmem
    have hgroup := h _ (NamedList.mem_of_mem_ofList (List.fst_mem_of_mem_zipIdx hmem))
    have hpositions : group.Pairwise fun a b => a.position < b.position := by
      rw [← List.pairwise_map (f := Tree.position) (R := (· < ·)), hgroup.positions]
      exact List.pairwise_lt_range'
    refine List.pairwise_map.mpr (hpositions.imp fun {a b} hab => ?_)
    simp only [step_withStep]
    exact Step.compare_eq_lt.mpr (.inr ⟨rfl, hab⟩)
  · refine (pairwise_zipIdx _).imp ?_
    rintro ⟨⟨n, g⟩, i⟩ ⟨⟨n', g'⟩, j⟩ hij a ha b hb
    obtain ⟨u, _, rfl⟩ := List.mem_map.mp ha
    obtain ⟨u', _, rfl⟩ := List.mem_map.mp hb
    simp only [step_withStep]
    exact Step.compare_eq_lt.mpr (.inl (Nat.succ_lt_succ hij))

/-- **The steps below a node increase, flags first.** -/
theorem Arranged.pairwise_step {t : Tree} (h : t.Arranged) :
    (t.flags ++ t.children).Pairwise fun a b => Step.compare a.step b.step = .lt := by
  cases h with
  | mk _ hgroups _ =>
    refine List.pairwise_append.mpr
      ⟨pairwise_arrangeFlags _, pairwise_arrangeChildren hgroups, fun a ha b hb => ?_⟩
    obtain ⟨i, _, u, _, rfl⟩ := getElem?_of_mem_arrangeFlags ha
    obtain ⟨j, _, _, _, u', _, rfl⟩ := getElem?_of_mem_arrangeChildren hb
    simp only [step_withStep]
    exact Step.compare_eq_lt.mpr (.inl (Nat.succ_pos j))

/-- The step decides which flag or child it is. -/
theorem Arranged.eq_of_step_eq {t a b : Tree} (h : t.Arranged) (ha : a ∈ t.flags ++ t.children)
    (hb : b ∈ t.flags ++ t.children) (hstep : a.step = b.step) : a = b := by
  have hnodup : ((t.flags ++ t.children).map Tree.step).Nodup :=
    List.pairwise_map.mpr (h.pairwise_step.imp Step.ne_of_compare_eq_lt)
  exact List.inj_on_of_nodup_map hnodup ha hb hstep

/-! ## Trees that are built -/

/-- What `ofFlags` arranges. -/
def flagItems (ofSchema : Bool) (b : Option Binding) (declared : List FlagInstance) :
    List (String × Tree) :=
  declared.filterMap fun i =>
    let name := i.effectiveName
    let value := b.bind (·.flag? name)
    if value.isNone && !ofSchema then none
    else
      let label : Label :=
        { kind := .flag, name, definition := .flag i.definition, value, ofSchema }
      some (name, mk label (0, 0) [] [])

theorem ofFlags_eq (ofSchema : Bool) (b : Option Binding) (declared : List FlagInstance) :
    ofFlags ofSchema b declared = arrangeFlags (flagItems ofSchema b declared) := rfl

theorem isFlag_of_mem_flagItems {ofSchema : Bool} {b : Option Binding}
    {declared : List FlagInstance} {e : String × Tree} (h : e ∈ flagItems ofSchema b declared) :
    e.2.IsFlag e.1 := by
  obtain ⟨i, _, hi⟩ := List.mem_filterMap.mp h
  simp only at hi
  split at hi
  · cases hi
  · cases hi
    exact ⟨rfl, rfl, rfl, rfl⟩

theorem arranged_ofField (ofSchema : Bool) (name : String) (d : FieldDefinition)
    (b : Option Binding) (position : Nat) : (ofField ofSchema name d b position).Arranged :=
  @Arranged.mk _ _ _ [] (fun _ => isFlag_of_mem_flagItems)
    (fun _ h => absurd h List.not_mem_nil) fun _ h => absurd h List.not_mem_nil

/-- The trees of an instance are siblings, numbered from 1 on. -/
theorem siblings_mapIdx {name : String} {f : Nat → Option Binding → Tree}
    (hname : ∀ i b, (f i b).name = name) (hkind : ∀ i b, (f i b).kind ≠ .flag)
    (hposition : ∀ i b, (f i b).position = i + 1) {l : List (Option Binding)}
    (hne : l.mapIdx f ≠ []) : Siblings name (l.mapIdx f) where
  ne_nil := hne
  name_eq t ht := by
    obtain ⟨i, hi, rfl⟩ := List.mem_mapIdx.mp ht
    exact hname _ _
  kind_ne t ht := by
    obtain ⟨i, hi, rfl⟩ := List.mem_mapIdx.mp ht
    exact hkind _ _
  positions := by
    refine List.ext_getElem (by simp) fun i _ _ => ?_
    simp [hposition, Nat.add_comm]

mutual

theorem arranged_ofInstance (ofSchema : Bool) (b : Option Binding) :
    ∀ i : ModelInstance, ofInstance ofSchema b i ≠ [] →
      Siblings i.effectiveName (ofInstance ofSchema b i) ∧
        ∀ t ∈ ofInstance ofSchema b i, t.Arranged
  | .field useName d, hne => by
      rw [ofInstance] at hne ⊢
      refine ⟨siblings_mapIdx ?_ ?_ ?_ hne, fun t ht => ?_⟩
      · exact fun _ _ => rfl
      · exact fun _ _ => by nofun
      · exact fun _ _ => rfl
      · obtain ⟨i, hi, rfl⟩ := List.mem_mapIdx.mp ht
        exact arranged_ofField _ _ _ _ _
  | .assembly useName d model, hne => by
      rw [ofInstance] at hne ⊢
      refine ⟨siblings_mapIdx ?_ ?_ ?_ hne, fun t ht => ?_⟩
      · exact fun _ _ => rfl
      · exact fun _ _ => by nofun
      · exact fun _ _ => rfl
      · obtain ⟨i, hi, rfl⟩ := List.mem_mapIdx.mp ht
        exact .mk (fun _ => isFlag_of_mem_flagItems)
          (fun e he => (arranged_ofModel ofSchema _ model e he).1)
          fun e he => (arranged_ofModel ofSchema _ model e he).2

theorem arranged_ofModel (ofSchema : Bool) (b : Option Binding) :
    ∀ (model : List ModelInstance), ∀ e ∈ ofModel ofSchema b model,
      Siblings e.1 e.2 ∧ ∀ t ∈ e.2, t.Arranged
  | [], e, he => absurd he List.not_mem_nil
  | i :: rest, e, he => by
      rw [ofModel] at he
      split at he
      · exact arranged_ofModel ofSchema b rest e he
      · rename_i hne
        rcases List.mem_cons.mp he with rfl | he
        · exact arranged_ofInstance ofSchema b i fun h => hne (by rw [h]; rfl)
        · exact arranged_ofModel ofSchema b rest e he

end

theorem arranged_ofAssembly (ofSchema : Bool) (name : String) (d : AssemblyDefinition)
    (b : Option Binding) : (ofAssembly ofSchema name d b).Arranged :=
  .mk (fun _ => isFlag_of_mem_flagItems)
    (fun e he => (arranged_ofModel ofSchema b d.model e he).1)
    fun e he => (arranged_ofModel ofSchema b d.model e he).2

theorem arranged_ofRoot (ofSchema : Bool) (root : AssemblyDefinition) (b : Option Binding)
    (uri : Option String) : (ofRoot ofSchema root b uri).Arranged := by
  refine @Arranged.mk _ _ [] _ (fun _ h => absurd h List.not_mem_nil) (fun e he => ?_)
    fun e he t ht => ?_
  · rw [List.mem_singleton.mp he]
    refine ⟨List.cons_ne_nil _ _, fun t ht => ?_, fun t ht => ?_, rfl⟩
    all_goals rw [List.mem_singleton.mp ht]
    · rfl
    · nofun
  · rw [List.mem_singleton.mp he] at ht
    rw [List.mem_singleton.mp ht]
    exact arranged_ofAssembly _ _ _ _

/-- The trees that the program builds. -/
inductive Built : Tree → Prop where
  | document (root : AssemblyDefinition) (b : Binding) (uri : Option String) :
      Built (Tree.document root b uri)
  | schemaDocument (root : AssemblyDefinition) : Built (Tree.schemaDocument root)
  | detachedAssembly (d : AssemblyDefinition) (b : Binding) (uri : Option String) :
      Built (Tree.detachedAssembly d b uri)
  | detachedField (d : FieldDefinition) (b : Binding) (uri : Option String) :
      Built (Tree.detachedField d b uri)

/-- **Every tree that the program builds is arranged.** -/
theorem Built.arranged {t : Tree} (h : t.Built) : t.Arranged := by
  cases h with
  | document root b uri => exact arranged_ofRoot _ _ _ _
  | schemaDocument root => exact arranged_ofRoot _ _ _ _
  | detachedAssembly d b uri => exact (arranged_ofAssembly _ _ _ _).withBaseUri uri
  | detachedField d b uri => exact (arranged_ofField _ _ _ _ _).withBaseUri uri

end Tree

end TreePath
