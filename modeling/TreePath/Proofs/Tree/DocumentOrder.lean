/-
TreePath.Proofs.Tree.DocumentOrder — the nodes of a tree in document order.

The traversal keeps a stack; what it lists is the recursive pre-order
(`Node.descendantsOrSelf_eq_preorder`). The key of a node, worked out from names and positions on
the way up, is its address in the tree (`Node.Within.orderKey_eq`). So keys follow from steps: a
node is in front of what is below it, and what is below one step is in front of what is below a
later one. Listed with their flags the nodes below any node are in strictly increasing order,
nothing is missing, and every one of them is found from its parent by name and position
(`Node.Within.documentOrder`).
-/
import Mathlib
import TreePath.Proofs.Tree.Lookup
import TreePath.Proofs.Tree.Place

namespace TreePath.Node

variable {F : Forest} {n m c : Node}

/-! ## Pre-order -/

mutual

/-- A node at the tree, then what is below its children, one child after another. -/
def preorderAt (n : Node) : Tree → List Node
  | .mk _ _ _ children => n :: preorderBelow n children

/-- What some trees below the node hold, one after another. -/
def preorderBelow (n : Node) : List Tree → List Node
  | [] => []
  | t :: rest => preorderAt (n.below t) t ++ preorderBelow n rest

end

/-- The node and all its model descendants, in recursive pre-order. -/
def preorder (n : Node) : List Node := preorderAt n n.here

theorem preorderBelow_eq (n : Node) (ts : List Tree) :
    preorderBelow n ts = (ts.map n.below).flatMap preorder := by
  induction ts with
  | nil => rfl
  | cons t rest ih =>
    rw [preorderBelow, ih, List.map_cons, List.flatMap_cons]
    rfl

theorem preorder_eq (n : Node) : n.preorder = n :: n.children.flatMap preorder := by
  obtain ⟨tree, address, here, above⟩ := n
  cases here with
  | mk label step flags children => exact congrArg (List.cons _) (preorderBelow_eq _ children)

/-- The stack gives the recursive pre-order. -/
theorem descendantsOrSelf_eq_preorder (n : Node) : n.descendantsOrSelf = n.preorder := by
  induction n using child_induction with
  | h n ih =>
    rw [descendantsOrSelf_eq, preorder_eq]
    exact congrArg (List.cons n) (List.flatMap_congr ih)

/-! ## Keys -/

/-- **The key of a node is its address.** -/
theorem Within.orderKey_eq (hF : F.Built) (hn : n.Within F) : n.orderKey = n.address := by
  induction hn with
  | root h => rfl
  | @under n t hn ht ih =>
    have hstep := (hn.arranged hF).stepTo_eq ht
    rw [orderKey] at ih ⊢
    rw [address_below, ← ih, ← hstep]
    exact List.reverse_cons

/-- Nodes with one key in one tree are one node. -/
theorem Within.eq_of_orderKey_eq (hF : F.Built) (hn : n.Within F) (hm : m.Within F)
    (htree : n.tree = m.tree) (hkey : n.orderKey = m.orderKey) : n = m := by
  rw [hn.orderKey_eq hF, hm.orderKey_eq hF] at hkey
  exact hn.eq_of_same hF hm (by simp [same, htree, hkey])

/-! ## Descending -/

/-- The nodes that are reached through flags and children. -/
inductive Reaches (n : Node) : Node → Prop where
  | self : Reaches n n
  | flag {m c : Node} : Reaches n m → c ∈ m.flags → Reaches n c
  | child {m c : Node} : Reaches n m → c ∈ m.children → Reaches n c

theorem Reaches.within (h : n.Reaches m) (hn : n.Within F) : m.Within F := by
  induction h with
  | self => exact hn
  | flag _ hc ih => exact (kept_within F).flags ih hc
  | child _ hc ih => exact (kept_within F).children ih hc

theorem Reaches.of_mem_descendantsOrSelf (h : n.Reaches m) (hc : c ∈ m.descendantsOrSelf) :
    n.Reaches c := by
  induction m using child_induction with
  | h m ih =>
    rw [descendantsOrSelf_eq] at hc
    rcases List.mem_cons.mp hc with rfl | hc
    · exact h
    · obtain ⟨d, hd, hc⟩ := List.mem_flatMap.mp hc
      exact ih d hd (h.child hd) hc

theorem self_mem_descendantsOrSelf (n : Node) : n ∈ n.descendantsOrSelf := by
  rw [descendantsOrSelf_eq]
  exact List.mem_cons_self

theorem mem_descendantsOrSelf_of_mem_children (hm : m ∈ n.descendantsOrSelf)
    (hc : c ∈ m.children) : c ∈ n.descendantsOrSelf := by
  induction n using child_induction with
  | h n ih =>
    rw [descendantsOrSelf_eq] at hm ⊢
    refine List.mem_cons_of_mem n (List.mem_flatMap.mpr ?_)
    rcases List.mem_cons.mp hm with rfl | hm
    · exact ⟨c, hc, self_mem_descendantsOrSelf c⟩
    · obtain ⟨d, hd, hm⟩ := List.mem_flatMap.mp hm
      exact ⟨d, hd, ih d hd hm⟩

/-! ## Nodes with their flags -/

theorem Within.flags_of_mem_flags (hF : F.Built) (hn : n.Within F) (hm : m ∈ n.flags) :
    m.flags = [] ∧ m.children = [] := by
  obtain ⟨t, ht, rfl⟩ := exists_of_mem_flags hm
  have hflag := (hn.arranged hF).isFlag_of_mem ht
  exact ⟨congrArg (List.map _) hflag.flags_eq, congrArg (List.map _) hflag.children_eq⟩

theorem mem_withFlags : m ∈ n.withFlags ↔
    m ∈ n.descendantsOrSelf ∨ ∃ d ∈ n.descendantsOrSelf, m ∈ d.flags := by
  simp only [withFlags, List.mem_flatMap, List.mem_cons]
  constructor
  · rintro ⟨d, hd, rfl | hm⟩
    · exact .inl hd
    · exact .inr ⟨d, hd, hm⟩
  · rintro (hm | ⟨d, hd, hm⟩)
    · exact ⟨m, hm, .inl rfl⟩
    · exact ⟨d, hd, .inr hm⟩

/-- The list has all nodes that can be reached, and only these. -/
theorem Within.mem_withFlags_iff (hF : F.Built) (hn : n.Within F) :
    m ∈ n.withFlags ↔ n.Reaches m := by
  constructor
  · intro hm
    rcases mem_withFlags.mp hm with hm | ⟨d, hd, hm⟩
    · exact Reaches.self.of_mem_descendantsOrSelf hm
    · exact (Reaches.self.of_mem_descendantsOrSelf hd).flag hm
  · intro h
    induction h with
    | self => exact mem_withFlags.mpr (.inl (self_mem_descendantsOrSelf n))
    | flag hm hc ih =>
      rcases mem_withFlags.mp ih with hm | ⟨d, hd, hm⟩
      · exact mem_withFlags.mpr (.inr ⟨_, hm, hc⟩)
      · -- a flag has no flags
        have hd := (Reaches.self.of_mem_descendantsOrSelf hd).within hn
        rw [(hd.flags_of_mem_flags hF hm).1] at hc
        exact absurd hc List.not_mem_nil
    | child hm hc ih =>
      rcases mem_withFlags.mp ih with hm | ⟨d, hd, hm⟩
      · exact mem_withFlags.mpr (.inl (mem_descendantsOrSelf_of_mem_children hm hc))
      · have hd := (Reaches.self.of_mem_descendantsOrSelf hd).within hn
        rw [(hd.flags_of_mem_flags hF hm).2] at hc
        exact absurd hc List.not_mem_nil

theorem withFlags_eq (n : Node) :
    n.withFlags = n :: (n.flags ++ n.children.flatMap withFlags) := by
  rw [withFlags, descendantsOrSelf_eq, List.flatMap_cons, List.flatMap_assoc]
  rfl

theorem address_of_mem_withFlags (hm : m ∈ n.withFlags) : ∃ r, m.address = n.address ++ r := by
  induction n using child_induction with
  | h n ih =>
    rw [withFlags_eq] at hm
    rcases List.mem_cons.mp hm with rfl | hm
    · exact ⟨[], (List.append_nil _).symm⟩
    rcases List.mem_append.mp hm with hm | hm
    · obtain ⟨t, -, rfl⟩ := exists_of_mem_flags hm
      exact ⟨[t.step], rfl⟩
    · obtain ⟨d, hd, hm⟩ := List.mem_flatMap.mp hm
      obtain ⟨r, hr⟩ := ih d hd hm
      obtain ⟨t, -, rfl⟩ := exists_of_mem_children hd
      exact ⟨t.step :: r, by rw [hr, address_below, List.append_assoc]; rfl⟩

theorem address_of_mem_below {t : Tree} (hm : m ∈ (n.below t).withFlags) :
    ∃ r, m.address = n.address ++ t.step :: r := by
  obtain ⟨r, hr⟩ := address_of_mem_withFlags hm
  exact ⟨r, by rw [hr, address_below, List.append_assoc]; rfl⟩

/-- Addresses increase: a node comes first, then what is below each of its steps in their order. -/
theorem Within.pairwise_address (hF : F.Built) (hn : n.Within F) :
    n.withFlags.Pairwise fun a b => compareKeys a.address b.address = .lt := by
  induction n using child_induction with
  | h n ih =>
    have hbelow : ∀ m ∈ n.flags ++ n.children.flatMap withFlags,
        ∃ s r, m.address = n.address ++ s :: r := by
      intro m hm
      rcases List.mem_append.mp hm with hm | hm
      · obtain ⟨t, -, rfl⟩ := exists_of_mem_flags hm
        exact ⟨t.step, [], rfl⟩
      · obtain ⟨d, hd, hm⟩ := List.mem_flatMap.mp hm
        obtain ⟨t, -, rfl⟩ := exists_of_mem_children hd
        exact ⟨t.step, address_of_mem_below hm⟩
    have hstep := List.pairwise_append.mp (hn.arranged hF).pairwise_step
    obtain ⟨hflags, hchildren, hboth⟩ := hstep
    rw [withFlags_eq]
    refine List.pairwise_cons.mpr ⟨fun m hm => ?_, List.pairwise_append.mpr ⟨?_, ?_, ?_⟩⟩
    · obtain ⟨s, r, hr⟩ := hbelow m hm
      rw [hr]
      exact compareKeys_below _ _ _
    · exact List.pairwise_map.mpr (hflags.imp fun h => compareKeys_of_step h _ [] [])
    · refine List.pairwise_flatMap.mpr
        ⟨fun d hd => ih d hd ((kept_within F).children hn hd), List.pairwise_map.mpr ?_⟩
      refine hchildren.imp fun h a ha b hb => ?_
      obtain ⟨r, hr⟩ := address_of_mem_below ha
      obtain ⟨r', hr'⟩ := address_of_mem_below hb
      rw [hr, hr']
      exact compareKeys_of_step h _ _ _
    · intro a ha b hb
      obtain ⟨t, ht, rfl⟩ := exists_of_mem_flags ha
      obtain ⟨d, hd, hb⟩ := List.mem_flatMap.mp hb
      obtain ⟨u, hu, rfl⟩ := exists_of_mem_children hd
      obtain ⟨r, hr⟩ := address_of_mem_below hb
      rw [hr]
      exact compareKeys_of_step (hboth t ht u hu) _ [] _

/-- Keys increase strictly along the list. -/
theorem Within.pairwise_orderKey (hF : F.Built) (hn : n.Within F) :
    n.withFlags.Pairwise fun a b => compareKeys a.orderKey b.orderKey = .lt := by
  refine (hn.pairwise_address hF).imp_of_mem fun {a b} ha hb h => ?_
  have hwithin : ∀ m ∈ n.withFlags, m.orderKey = m.address := fun m hm =>
    (((hn.mem_withFlags_iff hF).mp hm).within hn).orderKey_eq hF
  rw [hwithin a ha, hwithin b hb]
  exact h

theorem not_same_of_compareKeys (h : compareKeys n.address m.address = .lt) :
    n.same m = false := by
  have hne : n.address ≠ m.address := by
    intro heq
    rw [heq, compareKeys_self] at h
    cases h
  simp [same, hne]

/-! ## Finding nodes by name and position -/

/-- A flag is what its parent has under its name. -/
theorem Within.flagsMatching_eq (hF : F.Built) (hn : n.Within F) (hm : m ∈ n.flags) :
    n.flagsMatching (.name m.name) = [m] := by
  obtain ⟨t, ht, rfl⟩ := exists_of_mem_flags hm
  rw [flagsMatching, flags, List.filter_map]
  exact congrArg (List.map n.below) ((hn.arranged hF).filter_flags ht)

/-- A child is what its parent has under its name at its position. -/
theorem Within.getElem?_childrenMatching (hF : F.Built) (hn : n.Within F) (hm : m ∈ n.children) :
    0 < m.position ∧ (n.childrenMatching (.name m.name))[m.position - 1]? = some m := by
  obtain ⟨t, ht, rfl⟩ := exists_of_mem_children hm
  obtain ⟨hpos, hget⟩ := (hn.arranged hF).filter_children ht
  refine ⟨hpos, ?_⟩
  rw [childrenMatching, children, List.filter_map, List.getElem?_map]
  exact congrArg (Option.map n.below) hget

/-- **Document order.** Below a node of a built tree, the list of all nodes with their flags has
every node that can be reached exactly once; the nodes without the flags are the recursive
pre-order; the keys increase strictly; and every node but the first has its parent in the list,
which leads to it by name and position. -/
theorem Within.documentOrder (hF : F.Built) (hn : n.Within F) :
    (∀ m, m ∈ n.withFlags ↔ n.Reaches m) ∧
      n.withFlags.Pairwise (fun a b => a.same b = false) ∧
      n.descendantsOrSelf = n.preorder ∧
      n.withFlags.Pairwise (fun a b => compareKeys a.orderKey b.orderKey = .lt) ∧
      ∀ m ∈ n.withFlags, m ≠ n → ∃ p ∈ n.withFlags, m.parent? = some p ∧
        (p.flagsMatching (.name m.name) = [m] ∨
          0 < m.position ∧ (p.childrenMatching (.name m.name))[m.position - 1]? = some m) := by
  refine ⟨fun m => hn.mem_withFlags_iff hF, (hn.pairwise_address hF).imp not_same_of_compareKeys,
    descendantsOrSelf_eq_preorder n, hn.pairwise_orderKey hF, fun m hm hne => ?_⟩
  cases (hn.mem_withFlags_iff hF).mp hm with
  | self => exact absurd rfl hne
  | @flag p _ hp hmp =>
    refine ⟨p, (hn.mem_withFlags_iff hF).mpr hp, ?_, .inl ((hp.within hn).flagsMatching_eq hF hmp)⟩
    obtain ⟨t, -, rfl⟩ := exists_of_mem_flags hmp
    exact parent?_below p t
  | @child p _ hp hmp =>
    refine ⟨p, (hn.mem_withFlags_iff hF).mpr hp, ?_,
      .inr ((hp.within hn).getElem?_childrenMatching hF hmp)⟩
    obtain ⟨t, -, rfl⟩ := exists_of_mem_children hmp
    exact parent?_below p t

/-! Shelves with items, the items declared twice under one name and so kept at their first place. -/

namespace Sample

def info : ModuleInfo := ⟨"shelves", "urn:shelves", "1.0", none⟩

def idFlag : FlagInstance := ⟨⟨⟨0, "id", none, info⟩, .token⟩, none, false⟩

def field (id : DefinitionId) (name : String) : FieldDefinition :=
  ⟨⟨id, name, none, info⟩, .string, [idFlag]⟩

def roomRoot : AssemblyDefinition :=
  ⟨⟨⟨1, "room", none, info⟩, none, [idFlag]⟩,
    [.field none (field 2 "item"),
      .assembly none ⟨⟨3, "shelf", none, info⟩, none, [idFlag]⟩ [.field none (field 2 "item")],
      .field (some "item") (field 4 "note")]⟩

/-- A room with two shelves and an item that is on neither. -/
def roomBinding : Binding :=
  .mk none [("id", .token "r")]
    [("shelf", .mk none [] [("item", .mk none [("id", .token "a")] []), ("item", .mk none [] [])]),
      ("item", .mk none [("id", .token "b")] []),
      ("shelf", .mk none [("id", .token "s")] [])]

def room : Tree := Tree.document roomRoot roomBinding none

def rooms : Forest := fun _ => some room

theorem built_rooms : rooms.Built := by
  intro id t h
  cases h
  exact .document _ _ _

def roomNode : Node := Node.root (.document 0) room

theorem within_rooms : roomNode.Within rooms := .root rfl

end Sample

open Sample in
/-- The item that is on no shelf comes before the shelves, and flags follow their nodes. -/
theorem documentOrder_of_room :
    roomNode.withFlags.map (·.path)
        = ["/", "/room[1]", "/room[1]/@id", "/room[1]/item[1]", "/room[1]/item[1]/@id",
          "/room[1]/shelf[1]", "/room[1]/shelf[1]/item[1]", "/room[1]/shelf[1]/item[1]/@id",
          "/room[1]/shelf[1]/item[2]", "/room[1]/shelf[2]", "/room[1]/shelf[2]/@id"] ∧
      roomNode.withFlags.Pairwise (fun a b => compareKeys a.orderKey b.orderKey = .lt) ∧
      ∀ m ∈ roomNode.withFlags, m ≠ roomNode → ∃ p ∈ roomNode.withFlags, m.parent? = some p ∧
        (p.flagsMatching (.name m.name) = [m] ∨
          0 < m.position ∧ (p.childrenMatching (.name m.name))[m.position - 1]? = some m) := by
  obtain ⟨-, -, -, hkeys, hparents⟩ := within_rooms.documentOrder built_rooms
  exact ⟨by cbv, hkeys, hparents⟩

end TreePath.Node
