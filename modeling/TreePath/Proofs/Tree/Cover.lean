/-
TreePath.Proofs.Tree.Cover — the tree of a schema covers the trees of its documents.

One tree covers another (`Tree.CoveredBy`) if every node of the other has one with the same name and
definition in its place, all the way down. A document may lack what the schema declares, and may
have several children where the schema has one, but it has nothing else. The point that needs care
is repeated names: of several instances of one name the last one decides the definition. Whether
something is bound depends on the name alone, so in a document such instances are all there or all
missing, and the last one of the schema is the last one of the document too
(`NamedList.mem_ofList_of_present`).
-/
import TreePath.Proofs.Tree.Arrangement

namespace TreePath

/-! ## Leaving out names -/

namespace NamedList

variable {ι α β : Type}

theorem lookup_filter_present {present : String → Bool} {m : String} {a : α}
    {items : List (String × α)}
    (h : (items.filter fun e => present e.1).lookup m = some a) : items.lookup m = some a := by
  induction items with
  | nil => exact h
  | cons e rest ih =>
    obtain ⟨n, b⟩ := e
    by_cases hm : m = n
    · subst hm
      by_cases hp : present m = true
      · simpa [hp] using h
      · have hnone : (rest.filter fun e => present e.1).lookup m = none := by
          rw [List.lookup_eq_none_iff]
          intro e he
          have hpe := (List.mem_filter.mp he).2
          have hne : m ≠ e.1 := fun heq => hp (heq ▸ hpe)
          simpa using hne
        simp [hp, hnone] at h
    · have hb : (m == n) = false := by simpa using hm
      rw [List.lookup_cons, hb]
      refine ih ?_
      by_cases hp : present n = true
      · simpa [hp, List.lookup_cons, hb] using h
      · simpa [hp] using h

/-- What is found under a name belongs to one element, whatever the elements are listed with. -/
theorem lookup_map_with {name : ι → String} {f : ι → α} (g : ι → β) {m : String} {a : α}
    {l : List ι} (h : (l.map fun i => (name i, f i)).lookup m = some a) :
    ∃ i ∈ l, f i = a ∧ (l.map fun i => (name i, g i)).lookup m = some (g i) := by
  induction l with
  | nil => simp at h
  | cons i rest ih =>
    by_cases hm : m = name i
    · subst hm
      refine ⟨i, List.mem_cons_self, ?_, by simp⟩
      simpa using h
    · have hb : (m == name i) = false := by simpa using hm
      rw [List.map_cons, List.lookup_cons, hb] at h
      obtain ⟨j, hj, hf, hg⟩ := ih h
      refine ⟨j, List.mem_cons_of_mem i hj, hf, ?_⟩
      rw [List.map_cons, List.lookup_cons, hb]
      exact hg

/-- Leaving out some of the names does not change which element the other names stand for. -/
theorem mem_ofList_of_present (present : String → Bool) {name : ι → String} {f : ι → α}
    (g : ι → β) {l : List ι} {m : String} {a : α}
    (h : (m, a) ∈ ofList ((l.map fun i => (name i, f i)).filter fun e => present e.1)) :
    ∃ i ∈ l, f i = a ∧ (m, g i) ∈ ofList (l.map fun i => (name i, g i)) := by
  rw [mem_ofList, ← List.filter_reverse] at h
  have hall := lookup_filter_present h
  rw [← List.map_reverse] at hall
  obtain ⟨i, hi, hf, hg⟩ := lookup_map_with g hall
  refine ⟨i, List.mem_reverse.mp hi, hf, mem_ofList.mpr ?_⟩
  rw [← List.map_reverse]
  exact hg

end NamedList

namespace Tree

/-! ## Covering -/

mutual

/-- Every node of the first tree has one in the second that has its name and definition, below one
that has those of its parent. -/
def CoveredBy : Tree → Tree → Prop
  | mk label _ flags children, u =>
    label.kind = u.kind ∧ label.name = u.name ∧ label.definition = u.label.definition ∧
      AllCoveredBy flags u.flags ∧ AllCoveredBy children u.children

/-- Every one of the first trees is covered by one of the second. -/
def AllCoveredBy : List Tree → List Tree → Prop
  | [], _ => True
  | t :: rest, us => (∃ u ∈ us, t.CoveredBy u) ∧ AllCoveredBy rest us

end

theorem allCoveredBy_iff {ts us : List Tree} :
    AllCoveredBy ts us ↔ ∀ t ∈ ts, ∃ u ∈ us, t.CoveredBy u := by
  induction ts with
  | nil => simp [AllCoveredBy]
  | cons t rest ih => simp [AllCoveredBy, ih]

theorem coveredBy_iff {t u : Tree} :
    t.CoveredBy u ↔ t.kind = u.kind ∧ t.name = u.name ∧
      t.label.definition = u.label.definition ∧
      (∀ c ∈ t.flags, ∃ d ∈ u.flags, c.CoveredBy d) ∧
      (∀ c ∈ t.children, ∃ d ∈ u.children, c.CoveredBy d) := by
  cases t with
  | mk label step flags children =>
    simp only [CoveredBy, allCoveredBy_iff]
    rfl

namespace CoveredBy

variable {t u : Tree}

theorem kind (h : t.CoveredBy u) : t.kind = u.kind := (coveredBy_iff.mp h).1

theorem name (h : t.CoveredBy u) : t.name = u.name := (coveredBy_iff.mp h).2.1

theorem definition (h : t.CoveredBy u) : t.label.definition = u.label.definition :=
  (coveredBy_iff.mp h).2.2.1

theorem flags (h : t.CoveredBy u) {c : Tree} (hc : c ∈ t.flags) : ∃ d ∈ u.flags, c.CoveredBy d :=
  (coveredBy_iff.mp h).2.2.2.1 c hc

theorem children (h : t.CoveredBy u) {c : Tree} (hc : c ∈ t.children) :
    ∃ d ∈ u.children, c.CoveredBy d :=
  (coveredBy_iff.mp h).2.2.2.2 c hc

/-- Where a tree stands among its siblings is of no account. -/
theorem withStep (h : t.CoveredBy u) (s s' : Step) : (t.withStep s).CoveredBy (u.withStep s') := by
  cases t
  cases u
  exact h

end CoveredBy

/-! ## Arranged flags and children -/

theorem exists_mem_arrangeFlags {items : List (String × Tree)} {name : String} {u : Tree}
    (h : (name, u) ∈ NamedList.ofList items) : ∃ s, u.withStep s ∈ arrangeFlags items := by
  obtain ⟨i, hi⟩ := List.getElem?_of_mem h
  exact ⟨(0, i), List.mem_map.mpr ⟨_, List.mk_mem_zipIdx_iff_getElem?.mpr hi, rfl⟩⟩

theorem exists_mem_arrangeChildren {items : List (String × List Tree)} {name : String}
    {group : List Tree} (h : (name, group) ∈ NamedList.ofList items) {u : Tree} (hu : u ∈ group) :
    ∃ s, u.withStep s ∈ arrangeChildren items := by
  obtain ⟨i, hi⟩ := List.getElem?_of_mem h
  exact ⟨(i + 1, u.position), List.mem_flatMap.mpr
    ⟨_, List.mk_mem_zipIdx_iff_getElem?.mpr hi, List.mem_map.mpr ⟨u, hu, rfl⟩⟩⟩

/-! ## Flags -/

/-- The tree of a flag, whether or not it has a value. -/
def flagTree (ofSchema : Bool) (b : Option Binding) (i : FlagInstance) : Tree :=
  mk { kind := .flag, name := i.effectiveName, definition := .flag i.definition,
       value := b.bind (·.flag? i.effectiveName), ofSchema } (0, 0) [] []

/-- A document has the flags whose names are bound; a schema has all. -/
theorem flagItems_eq (ofSchema : Bool) (b : Option Binding) (declared : List FlagInstance) :
    flagItems ofSchema b declared
      = (declared.map fun i => (i.effectiveName, flagTree ofSchema b i)).filter
          fun e => ofSchema || (b.bind (·.flag? e.1)).isSome := by
  induction declared with
  | nil => rfl
  | cons i rest ih =>
    rw [flagItems] at ih ⊢
    rw [List.filterMap_cons, ih, List.map_cons, List.filter_cons]
    cases ofSchema <;> cases h : b.bind (·.flag? i.effectiveName) <;> simp [flagTree, h]

theorem coveredBy_ofFlags (b : Option Binding) (declared : List FlagInstance) :
    ∀ t ∈ ofFlags false b declared, ∃ u ∈ ofFlags true none declared, t.CoveredBy u := by
  intro t ht
  rw [ofFlags_eq, flagItems_eq] at ht
  obtain ⟨k, name, t₀, hk, rfl⟩ := getElem?_of_mem_arrangeFlags ht
  obtain ⟨i, -, rfl, hschema⟩ :=
    NamedList.mem_ofList_of_present (fun n => false || (b.bind (·.flag? n)).isSome)
      (flagTree true none) (List.mem_of_getElem? hk)
  have hitems : flagItems true none declared
      = declared.map fun i => (i.effectiveName, flagTree true none i) := by
    rw [flagItems_eq]
    simp
  rw [← hitems] at hschema
  obtain ⟨s', hs'⟩ := exists_mem_arrangeFlags hschema
  refine ⟨_, hs', .withStep ?_ _ s'⟩
  exact coveredBy_iff.mpr ⟨rfl, rfl, rfl, by simp [flagTree, Tree.flags],
    by simp [flagTree, Tree.children]⟩

/-! ## Children -/

theorem isEmpty_ofInstance (ofSchema : Bool) (b : Option Binding) (i : ModelInstance) :
    (ofInstance ofSchema b i).isEmpty = (boundTo ofSchema b i.effectiveName).isEmpty := by
  have hmapIdx : ∀ (f : Nat → Option Binding → Tree) (l : List (Option Binding)),
      (l.mapIdx f).isEmpty = l.isEmpty := by
    intro f l
    cases l <;> simp
  cases i with
  | field useName d =>
    rw [ofInstance, hmapIdx]
    rfl
  | assembly useName d model =>
    rw [ofInstance, hmapIdx]
    rfl

/-- A document has the instances whose names are bound; a schema has all. -/
theorem ofModel_eq (ofSchema : Bool) (b : Option Binding) (model : List ModelInstance) :
    ofModel ofSchema b model
      = (model.map fun i => (i.effectiveName, ofInstance ofSchema b i)).filter
          fun e => !(boundTo ofSchema b e.1).isEmpty := by
  induction model with
  | nil => rfl
  | cons i rest ih =>
    rw [ofModel, List.map_cons, List.filter_cons, isEmpty_ofInstance, ih]
    cases (boundTo ofSchema b i.effectiveName).isEmpty <;> simp

/-- The children are covered if those of every single instance are. -/
theorem coveredBy_arrangeChildren {b : Option Binding} {model : List ModelInstance}
    (h : ∀ i ∈ model, ∀ t ∈ ofInstance false b i, ∃ u ∈ ofInstance true none i, t.CoveredBy u) :
    ∀ t ∈ arrangeChildren (ofModel false b model),
      ∃ u ∈ arrangeChildren (ofModel true none model), t.CoveredBy u := by
  intro t ht
  rw [ofModel_eq] at ht
  obtain ⟨k, name, group, hk, t₀, ht₀, rfl⟩ := getElem?_of_mem_arrangeChildren ht
  obtain ⟨i, hi, rfl, hschema⟩ :=
    NamedList.mem_ofList_of_present (fun n => !(boundTo false b n).isEmpty)
      (ofInstance true none) (List.mem_of_getElem? hk)
  obtain ⟨u, hu, hcover⟩ := h i hi t₀ ht₀
  have hitems : ofModel true none model
      = model.map fun i => (i.effectiveName, ofInstance true none i) := by
    rw [ofModel_eq]
    simp [boundTo]
  rw [← hitems] at hschema
  obtain ⟨s', hs'⟩ := exists_mem_arrangeChildren hschema hu
  exact ⟨_, hs', hcover.withStep _ s'⟩

mutual

/-- The objects bound to an instance are covered by the one node that a schema has for it. -/
theorem coveredBy_ofInstance : ∀ (i : ModelInstance) (b : Option Binding),
    ∀ t ∈ ofInstance false b i, ∃ u ∈ ofInstance true none i, t.CoveredBy u
  | .field useName d, b, t, ht => by
      rw [ofInstance] at ht
      obtain ⟨j, hj, rfl⟩ := List.mem_mapIdx.mp ht
      rw [ofInstance]
      refine ⟨_, List.mem_cons_self, coveredBy_iff.mpr ⟨rfl, rfl, rfl, ?_, ?_⟩⟩
      · exact coveredBy_ofFlags _ d.flags
      · exact fun c hc => absurd hc List.not_mem_nil
  | .assembly useName d model, b, t, ht => by
      rw [ofInstance] at ht
      obtain ⟨j, hj, rfl⟩ := List.mem_mapIdx.mp ht
      rw [ofInstance]
      refine ⟨_, List.mem_cons_self, coveredBy_iff.mpr ⟨rfl, rfl, rfl, ?_, ?_⟩⟩
      · exact coveredBy_ofFlags _ d.flags
      · exact coveredBy_arrangeChildren (coveredBy_ofModel model _)

theorem coveredBy_ofModel : ∀ (model : List ModelInstance) (b : Option Binding), ∀ i ∈ model,
    ∀ t ∈ ofInstance false b i, ∃ u ∈ ofInstance true none i, t.CoveredBy u
  | [], _, _, hi => absurd hi List.not_mem_nil
  | i :: rest, b, j, hj => by
      rcases List.mem_cons.mp hj with heq | hj
      · rw [heq]
        exact coveredBy_ofInstance i b
      · exact coveredBy_ofModel rest b j hj

end

/-! ## Documents -/

theorem coveredBy_ofAssembly (name : String) (d : AssemblyDefinition) (b : Option Binding) :
    (ofAssembly false name d b).CoveredBy (ofAssembly true name d none) :=
  coveredBy_iff.mpr ⟨rfl, rfl, rfl, coveredBy_ofFlags b d.head.flags,
    coveredBy_arrangeChildren (coveredBy_ofModel d.model b)⟩

/-- **The tree of a schema covers every document of its root.** -/
theorem document_coveredBy_schemaDocument (root : AssemblyDefinition) (b : Binding)
    (uri : Option String) : (document root b uri).CoveredBy (schemaDocument root) := by
  refine coveredBy_iff.mpr ⟨rfl, rfl, rfl, fun c hc => absurd hc List.not_mem_nil, ?_⟩
  intro t ht
  obtain ⟨k, name, group, hk, t₀, ht₀, rfl⟩ := getElem?_of_mem_arrangeChildren ht
  cases List.mem_singleton.mp (List.mem_of_getElem? hk)
  cases List.mem_singleton.mp ht₀
  have hitem : (root.rootName, [ofAssembly true root.rootName root none])
      ∈ NamedList.ofList [(root.rootName, [ofAssembly true root.rootName root none])] :=
    List.mem_singleton.mpr rfl
  obtain ⟨s', hs'⟩ := exists_mem_arrangeChildren hitem (List.mem_singleton.mpr rfl)
  exact ⟨_, hs', (coveredBy_ofAssembly root.rootName root (some b)).withStep _ s'⟩

end Tree

end TreePath
