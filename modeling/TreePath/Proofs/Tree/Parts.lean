/-
TreePath.Proofs.Tree.Parts — what stands below the root of a tree.

Below a root there are flags with nothing below them, fields with flags only, and assemblies with
flags and children. `Tree.Part` says so for a tree and all that is below it, and everything below
the root of a tree that the program builds is such a part (`Tree.Built.part_of_mem`). So a field
has no children, wherever it stands (`Node.Within.children_of_field`).
-/
import TreePath.Proofs.Tree.Place

namespace TreePath

namespace Tree

/-- A flag, a field or an assembly, and the same all the way down. -/
inductive Part : Tree → Prop where
  | flag {name : String} {t : Tree} : t.IsFlag name → Part t
  | field {label : Label} {step : Step} {flags : List Tree} : label.kind = .field →
      (∀ f ∈ flags, Part f) → Part (.mk label step flags [])
  | assembly {label : Label} {step : Step} {flags children : List Tree} : label.kind = .assembly →
      (∀ c ∈ flags ++ children, Part c) → Part (.mk label step flags children)

namespace Part

variable {t c : Tree}

theorem kind_ne (h : t.Part) : t.kind ≠ .document := by
  intro hkind
  cases h with
  | flag hflag => cases hkind.symm.trans hflag.kind_eq
  | field hfield _ => cases hkind.symm.trans hfield
  | assembly hassembly _ => cases hkind.symm.trans hassembly

/-- Only assemblies have children. -/
theorem children_of_ne (h : t.Part) (hkind : t.kind ≠ .assembly) : t.children = [] := by
  cases h with
  | flag hflag => exact hflag.children_eq
  | field _ _ => rfl
  | assembly hassembly _ => exact absurd hassembly hkind

theorem of_mem (h : t.Part) (hc : c ∈ t.flags ++ t.children) : c.Part := by
  cases h with
  | flag hflag =>
    rw [hflag.flags_eq, hflag.children_eq] at hc
    exact absurd hc List.not_mem_nil
  | field _ hbelow => exact hbelow c ((List.mem_append.mp hc).resolve_right List.not_mem_nil)
  | assembly _ hbelow => exact hbelow c hc

theorem withStep (h : t.Part) (step : Step) : (t.withStep step).Part := by
  cases h with
  | @flag name _ hflag =>
    have hstep : (t.withStep step).IsFlag name := ⟨by simpa using hflag.name_eq,
      by simpa using hflag.kind_eq, by simpa using hflag.flags_eq, by simpa using hflag.children_eq⟩
    exact .flag hstep
  | field hfield hbelow => exact .field hfield hbelow
  | assembly hassembly hbelow => exact .assembly hassembly hbelow

end Part

/-! ## Trees that are built -/

theorem part_of_mem_arrangeFlags {items : List (String × Tree)}
    (h : ∀ e ∈ items, e.2.IsFlag e.1) : ∀ t ∈ arrangeFlags items, t.Part := by
  intro t ht
  obtain ⟨i, name, u, hu, rfl⟩ := getElem?_of_mem_arrangeFlags ht
  have hflag := h _ (NamedList.mem_of_mem_ofList (List.mem_of_getElem? hu))
  exact (Part.flag hflag).withStep _

theorem part_of_mem_arrangeChildren {items : List (String × List Tree)}
    (h : ∀ e ∈ items, ∀ t ∈ e.2, t.Part) : ∀ t ∈ arrangeChildren items, t.Part := by
  intro t ht
  obtain ⟨i, name, group, hgroup, u, hu, rfl⟩ := getElem?_of_mem_arrangeChildren ht
  exact (h _ (NamedList.mem_of_mem_ofList (List.mem_of_getElem? hgroup)) u hu).withStep _

theorem part_of_mem_ofFlags (ofSchema : Bool) (b : Option Binding) (declared : List FlagInstance) :
    ∀ t ∈ ofFlags ofSchema b declared, t.Part :=
  part_of_mem_arrangeFlags fun _ => isFlag_of_mem_flagItems

theorem part_ofField (ofSchema : Bool) (name : String) (d : FieldDefinition) (b : Option Binding)
    (position : Nat) : (ofField ofSchema name d b position).Part :=
  .field rfl (part_of_mem_ofFlags _ _ _)

/-- An assembly is a part if its children are. -/
theorem part_assembly (ofSchema : Bool) (b : Option Binding) (declared : List FlagInstance)
    {label : Label} (hlabel : label.kind = .assembly) {items : List (String × List Tree)}
    (h : ∀ e ∈ items, ∀ t ∈ e.2, t.Part) :
    (mk label (0, 0) (ofFlags ofSchema b declared) (arrangeChildren items)).Part := by
  refine .assembly hlabel fun c hc => ?_
  rcases List.mem_append.mp hc with hc | hc
  · exact part_of_mem_ofFlags _ _ _ c hc
  · exact part_of_mem_arrangeChildren h c hc

mutual

theorem part_ofInstance (ofSchema : Bool) (b : Option Binding) :
    ∀ i : ModelInstance, ∀ t ∈ ofInstance ofSchema b i, t.Part
  | .field useName d, t, ht => by
      rw [ofInstance] at ht
      obtain ⟨i, hi, rfl⟩ := List.mem_mapIdx.mp ht
      exact part_ofField _ _ _ _ _
  | .assembly useName d model, t, ht => by
      rw [ofInstance] at ht
      obtain ⟨i, hi, rfl⟩ := List.mem_mapIdx.mp ht
      exact part_assembly _ _ _ rfl (part_ofModel ofSchema _ model)

theorem part_ofModel (ofSchema : Bool) (b : Option Binding) :
    ∀ (model : List ModelInstance), ∀ e ∈ ofModel ofSchema b model, ∀ t ∈ e.2, t.Part
  | [], e, he => absurd he List.not_mem_nil
  | i :: rest, e, he => by
      rw [ofModel] at he
      split at he
      · exact part_ofModel ofSchema b rest e he
      · rcases List.mem_cons.mp he with rfl | he
        · exact part_ofInstance ofSchema b i
        · exact part_ofModel ofSchema b rest e he

end

theorem part_ofAssembly (ofSchema : Bool) (name : String) (d : AssemblyDefinition)
    (b : Option Binding) : (ofAssembly ofSchema name d b).Part :=
  part_assembly _ _ _ rfl (part_ofModel ofSchema b d.model)

theorem part_below_ofRoot (ofSchema : Bool) (root : AssemblyDefinition) (b : Option Binding)
    (uri : Option String) : ∀ c ∈ (ofRoot ofSchema root b uri).children, c.Part := by
  refine part_of_mem_arrangeChildren fun e he t ht => ?_
  rw [List.mem_singleton.mp he] at ht
  rw [List.mem_singleton.mp ht]
  exact part_ofAssembly _ _ _ _

/-- A built tree is a document or a part. -/
theorem Built.cases {t : Tree} (h : t.Built) :
    (t.kind = .document ∧ t.flags = [] ∧ ∀ c ∈ t.children, c.Part) ∨ t.Part := by
  cases h with
  | document root b uri => exact .inl ⟨rfl, rfl, part_below_ofRoot _ _ _ _⟩
  | schemaDocument root => exact .inl ⟨rfl, rfl, part_below_ofRoot _ _ _ _⟩
  | detachedAssembly d b uri =>
    exact .inr (part_assembly _ _ _ rfl (part_ofModel false (some b) d.model))
  | detachedField d b uri => exact .inr (.field rfl (part_of_mem_ofFlags _ _ _))

/-- **Everything below the root of a built tree is a part.** -/
theorem Built.part_of_mem {t c : Tree} (h : t.Built) (hc : c ∈ t.flags ++ t.children) :
    c.Part := by
  rcases h.cases with ⟨-, hflags, hchildren⟩ | hpart
  · rw [hflags] at hc
    exact hchildren c hc
  · exact hpart.of_mem hc

theorem Built.children_of_field {t : Tree} (h : t.Built) (hkind : t.kind = .field) :
    t.children = [] := by
  rcases h.cases with ⟨hdocument, -, -⟩ | hpart
  · cases hdocument.symm.trans hkind
  · exact hpart.children_of_ne (by rw [hkind]; decide)

end Tree

namespace Node

variable {F : Forest} {n : Node}

theorem Within.part_of_mem (hF : F.Built) (hn : n.Within F) {t : Tree}
    (ht : t ∈ n.here.flags ++ n.here.children) : t.Part := by
  induction hn generalizing t with
  | root h => exact (hF _ _ h).part_of_mem ht
  | under _ hu ih => exact (ih hu).of_mem ht

theorem Within.children_of_field (hF : F.Built) (hn : n.Within F) (hkind : n.kind = .field) :
    n.children = [] := by
  have hhere : n.here.children = [] := by
    cases hn with
    | root h => exact (hF _ _ h).children_of_field hkind
    | @under n t hn ht =>
      refine (hn.part_of_mem hF ht).children_of_ne fun hassembly => ?_
      cases hassembly.symm.trans hkind
  rw [children, hhere]
  rfl

end Node

end TreePath
