/-
TreePath.Proofs.Tree.Lookup — names and positions lead to flags and children.

In an arranged tree a flag is the only one of its name, and a child is found among the children of
its name at its position, counted from 1. So the step that a node works out for itself from its name
and its position (`Tree.stepTo`) is the step that it stands behind (`Tree.Arranged.stepTo_eq`).
-/
import TreePath.Proofs.Tree.Arrangement

namespace TreePath

/-! ## Lists with keys -/

section Keys

variable {α β : Type} [BEq β] [LawfulBEq β] {key : α → β}

/-- Where keys occur once, an element is the first with its key. -/
theorem findIdx?_of_nodup {l : List α} (h : (l.map key).Nodup) {i : Nat} {a : α}
    (hi : l[i]? = some a) : l.findIdx? (fun b => key b == key a) = some i := by
  obtain ⟨hlt, rfl⟩ := List.getElem?_eq_some_iff.mp hi
  refine List.findIdx?_eq_some_iff_getElem.mpr ⟨hlt, beq_self_eq_true _, fun j hj => ?_⟩
  have hne := List.pairwise_iff_getElem.mp h j i (by simp; omega) (by simpa using hlt) hj
  simpa using hne

/-- Where keys occur once, only one element has a given key. -/
theorem filter_of_nodup {l : List α} (h : (l.map key).Nodup) {a : α} (ha : a ∈ l) :
    (l.filter fun b => key a == key b) = [a] := by
  induction l with
  | nil => exact absurd ha List.not_mem_nil
  | cons b rest ih =>
    obtain ⟨hnot, hrest⟩ := List.nodup_cons.mp h
    rw [List.filter_cons]
    rcases List.mem_cons.mp ha with rfl | ha
    · have hnone : (rest.filter fun b => key a == key b) = [] :=
        List.filter_eq_nil_iff.mpr fun b hb => by
          simpa using fun heq : key a = key b => hnot (heq ▸ List.mem_map_of_mem hb)
      rw [hnone, if_pos (beq_self_eq_true _)]
    · have hne : ¬(key a == key b) = true := by
        simpa using fun heq : key a = key b => hnot (heq ▸ List.mem_map_of_mem ha)
      rw [if_neg hne, ih hrest ha]

end Keys

/-- A test that only depends on the group selects whole groups. -/
theorem filter_flatMap_of_groups {α β : Type} {f : α → List β} {p : β → Bool} {q : α → Bool}
    {l : List α} (h : ∀ a ∈ l, ∀ b ∈ f a, p b = q a) :
    (l.flatMap f).filter p = (l.filter q).flatMap f := by
  induction l with
  | nil => rfl
  | cons a rest ih =>
    have hgroup : (f a).filter p = if q a then f a else [] := by
      cases hq : q a
      · exact List.filter_eq_nil_iff.mpr fun b hb => by simp [h a List.mem_cons_self b hb, hq]
      · exact List.filter_eq_self.mpr fun b hb => by simp [h a List.mem_cons_self b hb, hq]
    rw [List.flatMap_cons, List.filter_append, hgroup,
      ih fun b hb => h b (List.mem_cons_of_mem a hb), List.filter_cons]
    cases q a <;> simp

/-- Where groups of equal elements follow one another, one element is left of each. -/
theorem eraseDups_flatMap {α β : Type} [BEq β] [LawfulBEq β] {key : α → β} {f : α → List β} :
    ∀ {l : List α}, (l.map key).Nodup → (∀ a ∈ l, f a ≠ [] ∧ ∀ b ∈ f a, b = key a) →
      (l.flatMap f).eraseDups = l.map key
  | [], _, _ => rfl
  | a :: rest, hnodup, h => by
      obtain ⟨hnot, hrest⟩ := List.nodup_cons.mp hnodup
      obtain ⟨hne, hname⟩ := h a List.mem_cons_self
      have ih := eraseDups_flatMap hrest fun e he => h e (List.mem_cons_of_mem _ he)
      have hothers : ∀ b ∈ rest.flatMap f, b ≠ key a := by
        intro b hb heq
        obtain ⟨e, he, hb⟩ := List.mem_flatMap.mp hb
        rw [← heq, (h e (List.mem_cons_of_mem _ he)).2 b hb] at hnot
        exact hnot (List.mem_map_of_mem he)
      obtain ⟨b, more, hmore⟩ := List.exists_cons_of_ne_nil hne
      rw [hmore] at hname
      obtain rfl : b = key a := hname b List.mem_cons_self
      have hdropped : (more.filter fun b => !b == key a) = [] :=
        List.filter_eq_nil_iff.mpr fun b hb => by
          simp [hname b (List.mem_cons_of_mem _ hb)]
      have hkept : ((rest.flatMap f).filter fun b => !b == key a) = rest.flatMap f :=
        List.filter_eq_self.mpr fun b hb => by simpa using hothers b hb
      rw [List.flatMap_cons, hmore, List.cons_append, List.eraseDups_cons, List.filter_append,
        hdropped, hkept, List.nil_append, ih, List.map_cons]

namespace Tree

/-! ## Flags -/

theorem map_name_arrangeFlags {items : List (String × Tree)} (h : ∀ e ∈ items, e.2.IsFlag e.1) :
    (arrangeFlags items).map name = (NamedList.ofList items).map (·.1) := by
  have hnames : (NamedList.ofList items).map (·.2.name) = (NamedList.ofList items).map (·.1) :=
    List.map_congr_left fun e he => (h e (NamedList.mem_of_mem_ofList he)).name_eq
  rw [← hnames, arrangeFlags, List.map_map]
  conv_rhs => rw [← List.zipIdx_map_fst 0 (NamedList.ofList items), List.map_map]
  exact List.map_congr_left fun e _ => name_withStep _ _

theorem Arranged.nodup_flags {t : Tree} (h : t.Arranged) : (t.flags.map name).Nodup := by
  cases h with
  | mk hflags _ _ =>
    rw [Tree.flags, map_name_arrangeFlags hflags]
    exact NamedList.nodup_ofList _

/-- A flag is the only one of its name. -/
theorem Arranged.filter_flags {t f : Tree} (h : t.Arranged) (hf : f ∈ t.flags) :
    (t.flags.filter fun u => f.name == u.name) = [f] :=
  filter_of_nodup h.nodup_flags hf

/-! ## Children -/

theorem map_name_arrangeChildren (items : List (String × List Tree)) :
    (arrangeChildren items).map name
      = (NamedList.ofList items).flatMap fun e => e.2.map name := by
  rw [arrangeChildren, List.map_flatMap]
  conv_rhs => rw [← List.zipIdx_map_fst 0 (NamedList.ofList items), List.flatMap_map]
  refine List.flatMap_congr fun e _ => ?_
  rw [List.map_map]
  exact List.map_congr_left fun u _ => name_withStep _ _

/-- The names of the children are those of the groups. -/
theorem eraseDups_map_name_arrangeChildren {items : List (String × List Tree)}
    (h : ∀ e ∈ items, Siblings e.1 e.2) :
    ((arrangeChildren items).map name).eraseDups = (NamedList.ofList items).map (·.1) := by
  rw [map_name_arrangeChildren]
  refine eraseDups_flatMap (NamedList.nodup_ofList items) fun e he => ?_
  have hgroup := h e (NamedList.mem_of_mem_ofList he)
  refine ⟨by simpa using hgroup.ne_nil, fun s hs => ?_⟩
  obtain ⟨u, hu, rfl⟩ := List.mem_map.mp hs
  exact hgroup.name_eq u hu

/-- The children of one name are one group. -/
theorem filter_arrangeChildren {items : List (String × List Tree)}
    (h : ∀ e ∈ items, Siblings e.1 e.2) {i : Nat} {name : String} {group : List Tree}
    (hi : (NamedList.ofList items)[i]? = some (name, group)) :
    ((arrangeChildren items).filter fun u => name == u.name)
      = group.map fun u => u.withStep (i + 1, u.position) := by
  have hnodup : ((NamedList.ofList items).zipIdx.map fun e => e.1.1).Nodup := by
    have hnames := NamedList.nodup_ofList items
    rwa [← List.zipIdx_map_fst 0 (NamedList.ofList items), List.map_map] at hnames
  have hmem := List.mk_mem_zipIdx_iff_getElem?.mpr hi
  rw [arrangeChildren, filter_flatMap_of_groups (q := fun e => name == e.1.1),
    filter_of_nodup (a := ((name, group), i)) hnodup hmem, List.flatMap_singleton]
  rintro ⟨⟨n, g⟩, j⟩ hmem u hu
  obtain ⟨v, hv, rfl⟩ := List.mem_map.mp hu
  have hgroup := h _ (NamedList.mem_of_mem_ofList (List.fst_mem_of_mem_zipIdx hmem))
  rw [name_withStep, hgroup.name_eq v hv]

theorem Siblings.position_pos {name : String} {ts : List Tree} (h : Siblings name ts) {t : Tree}
    (ht : t ∈ ts) : 0 < t.position ∧ ts[t.position - 1]? = some t := by
  obtain ⟨j, hj, rfl⟩ := List.getElem_of_mem ht
  have hposition : (ts[j]).position = j + 1 := by
    have hget := congrArg (·[j]?) h.positions
    simp [hj] at hget
    omega
  simp [hposition, hj]

/-- A child is found under its name at its position. -/
theorem Arranged.filter_children {t c : Tree} (h : t.Arranged) (hc : c ∈ t.children) :
    0 < c.position ∧
      (t.children.filter fun u => c.name == u.name)[c.position - 1]? = some c := by
  cases h with
  | mk _ hgroups _ =>
    obtain ⟨i, name, group, hi, u, hu, rfl⟩ := getElem?_of_mem_arrangeChildren hc
    have hgroup := hgroups _ (NamedList.mem_of_mem_ofList (List.mem_of_getElem? hi))
    obtain ⟨hpos, hget⟩ := hgroup.position_pos hu
    rw [position_withStep, name_withStep, hgroup.name_eq u hu, Tree.children,
      filter_arrangeChildren hgroups hi, List.getElem?_map, hget]
    exact ⟨hpos, rfl⟩

/-! ## Steps worked out -/

theorem Arranged.stepTo_flag {t f : Tree} (h : t.Arranged) (hf : f ∈ t.flags) :
    t.stepTo f = f.step := by
  have hnodup := h.nodup_flags
  rw [stepTo, (h.isFlag_of_mem hf).kind_eq]
  cases h with
  | @mk _ _ flags _ _ _ _ =>
    obtain ⟨i, name, u, hi, rfl⟩ := getElem?_of_mem_arrangeFlags hf
    have hplace : (arrangeFlags flags)[i]? = some (u.withStep (0, i)) := by
      simp [arrangeFlags, List.getElem?_zipIdx, hi]
    simp only [Tree.flags] at hnodup ⊢
    rw [findIdx?_of_nodup hnodup hplace, step_withStep]
    rfl

theorem stepTo_of_ne {parent t : Tree} (h : t.kind ≠ .flag) :
    parent.stepTo t
      = ((parent.childNames.findIdx? fun s => s == t.name).getD 0 + 1, t.position) := by
  rw [stepTo]
  split
  · rename_i hflag
    exact absurd hflag h
  · rfl

theorem Arranged.stepTo_child {t c : Tree} (h : t.Arranged) (hc : c ∈ t.children) :
    t.stepTo c = c.step := by
  cases h with
  | mk _ hgroups _ =>
    obtain ⟨i, name, group, hi, u, hu, rfl⟩ := getElem?_of_mem_arrangeChildren hc
    have hgroup := hgroups _ (NamedList.mem_of_mem_ofList (List.mem_of_getElem? hi))
    have hfind := findIdx?_of_nodup (NamedList.nodup_ofList _) hi
    rw [stepTo_of_ne (by simpa using hgroup.kind_ne u hu), childNames, Tree.children,
      eraseDups_map_name_arrangeChildren hgroups, List.findIdx?_map, name_withStep,
      hgroup.name_eq u hu, step_withStep, position_withStep]
    simp [Function.comp_def, hfind]

/-- **The step that name and position stand for is the step there is.** -/
theorem Arranged.stepTo_eq {t c : Tree} (h : t.Arranged) (hc : c ∈ t.flags ++ t.children) :
    t.stepTo c = c.step := by
  rcases List.mem_append.mp hc with hf | hc
  · exact h.stepTo_flag hf
  · exact h.stepTo_child hc

end Tree

end TreePath
