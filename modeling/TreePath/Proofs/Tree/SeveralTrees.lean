/-
TreePath.Proofs.Tree.SeveralTrees — sets of nodes from several trees.

A key tells the place of a node in its own tree and nothing about the tree. So in a sorted set the
nodes of one tree are in its document order (`Node.inDocumentOrder_filter_sorted`), but nodes of
different trees are mixed by their keys, and those with one key stay in the order in which they
first occurred (`Node.pairwise_sorted`). That is an order of all the nodes, and it tells when a set
does not depend on the order of its parts (`Node.sorted_eq_iff`) and when the nodes of a tree stand
together in it (`Node.together_sorted_iff`).
-/
import TreePath.Proofs.Tree.SortedSet

namespace TreePath

/-! ## Pairs and runs in a list -/

section Lists

variable {α : Type} {a b : α} {l : List α} {P : α → Prop} {R : α → α → Prop}

/-- In a list without duplicates two elements stand in one order only. -/
theorem not_sublist_swap (h : l.Nodup) (hab : [a, b].Sublist l) : ¬ [b, a].Sublist l := by
  induction l with
  | nil => cases hab
  | cons x rest ih =>
    obtain ⟨hx, hrest⟩ := List.nodup_cons.mp h
    intro hba
    cases hab with
    | cons _ hab =>
      cases hba with
      | cons _ hba => exact ih hrest hab hba
      | cons_cons _ hba => exact hx (hab.subset (by simp))
    | cons_cons _ hab =>
      cases hba with
      | cons _ hba => exact hx (hba.subset (by simp))
      | cons_cons _ hba => exact hx (hba.subset (by simp))

/-- Where numbers increase, elements stand in the order of their numbers. -/
theorem sublist_of_lt {f : α → Nat} (h : l.Pairwise fun a b => f a < f b) (ha : a ∈ l) (hb : b ∈ l)
    (hlt : f a < f b) : [a, b].Sublist l := by
  induction l with
  | nil => exact absurd ha List.not_mem_nil
  | cons x rest ih =>
    obtain ⟨hx, hrest⟩ := List.pairwise_cons.mp h
    rcases List.mem_cons.mp ha with heq | ha'
    · rcases List.mem_cons.mp hb with heq' | hb'
      · rw [heq, heq'] at hlt
        exact absurd hlt (Nat.lt_irrefl _)
      · rw [heq]
        exact .cons_cons _ (List.singleton_sublist.mpr hb')
    · rcases List.mem_cons.mp hb with heq' | hb'
      · rw [heq'] at hlt
        exact absurd hlt (Nat.lt_asymm (hx a ha'))
      · exact .cons _ (ih hrest ha' hb')

theorem rel_or_rel_of_pairwise (h : l.Pairwise R) (ha : a ∈ l) (hb : b ∈ l) (hne : a ≠ b) :
    R a b ∨ R b a := by
  have : Std.Symm fun a b => R a b ∨ R b a := ⟨fun _ _ h => h.symm⟩
  exact (h.imp Or.inl : l.Pairwise fun a b => R a b ∨ R b a).forall ha hb hne

/-- The elements with the property follow one another. -/
def Together (P : α → Prop) (l : List α) : Prop :=
  ∃ pre mid post, l = pre ++ mid ++ post ∧ (∀ a ∈ mid, P a) ∧ ∀ a ∈ pre ++ post, ¬ P a

/-- In a list in strict order elements follow one another if no other comes between two of them. -/
theorem together_iff (hasymm : ∀ {a b}, R a b → ¬ R b a) (h : l.Pairwise R) :
    Together P l ↔ ∀ a ∈ l, ∀ b ∈ l, ∀ c ∈ l, P a → ¬ P b → P c → R a b → ¬ R b c := by
  constructor
  · rintro ⟨pre, mid, post, rfl, hmid, hothers⟩ a ha b hb c hc hPa hPb hPc hab hbc
    have hinside : ∀ x ∈ pre ++ mid ++ post, P x → x ∈ mid := by
      intro x hx hPx
      by_contra hnot
      refine hothers x ?_ hPx
      simp only [List.mem_append] at hx ⊢
      tauto
    obtain ⟨hfront, -, hback⟩ := List.pairwise_append.mp h
    obtain ⟨-, -, hpre⟩ := List.pairwise_append.mp hfront
    rcases List.mem_append.mp hb with hb | hb
    · rcases List.mem_append.mp hb with hb | hb
      · exact hasymm hab (hpre b hb a (hinside a ha hPa))
      · exact hPb (hmid b hb)
    · have hmem := List.mem_append_right pre (hinside c hc hPc)
      exact hasymm hbc (hback c hmem b hb)
  · intro hbetween
    induction l with
    | nil => exact ⟨[], [], [], rfl, by simp, by simp⟩
    | cons x rest ih =>
      obtain ⟨hx, hrest⟩ := List.pairwise_cons.mp h
      obtain ⟨pre, mid, post, rfl, hmid, hothers⟩ := ih hrest fun a ha b hb c hc =>
        hbetween a (.tail x ha) b (.tail x hb) c (.tail x hc)
      by_cases hPx : P x
      · cases pre with
        | nil => exact ⟨[], x :: mid, post, rfl, List.forall_mem_cons.mpr ⟨hPx, hmid⟩, hothers⟩
        | cons y pre =>
          cases mid with
          | nil => exact ⟨[], [x], y :: pre ++ post, by simp, by simpa using hPx, hothers⟩
          | cons z mid =>
            -- `y` would come between `x` and `z`
            have hyz : R y z := (List.pairwise_cons.mp hrest).1 z (by simp)
            have hxy : R x y := hx y (by simp)
            exact absurd hyz (hbetween x (by simp) y (by simp) z (by simp) hPx
              (hothers y (by simp)) (hmid z (by simp)) hxy)
      · exact ⟨x :: pre, mid, post, rfl, hmid, List.forall_mem_cons.mpr ⟨hPx, hothers⟩⟩

end Lists

namespace Node

variable {F : Forest} {id : TreeId} {nodes nodes' : List Node} {a b n m : Node}

/-! ## First occurrences -/

/-- The place in the list where the node first occurs. -/
def firstIn (n : Node) (nodes : List Node) : Nat := nodes.findIdx n.same

theorem same_self (n : Node) : n.same n = true := by
  simp [same]

theorem same_of_same_of_same (h : a.same n = true) (h' : b.same n = true) : a.same b = true := by
  simp only [same, Bool.and_eq_true, beq_iff_eq] at h h' ⊢
  exact ⟨h.1.trans h'.1.symm, h.2.trans h'.2.symm⟩

theorem firstIn_lt (h : n ∈ nodes) : n.firstIn nodes < nodes.length :=
  List.findIdx_lt_length_of_exists ⟨n, h, n.same_self⟩

theorem firstIn_append (h : n ∈ nodes) (more : List Node) :
    n.firstIn (nodes ++ more) = n.firstIn nodes := by
  rw [firstIn, List.findIdx_append]
  exact if_pos (firstIn_lt h)

theorem exists_at_firstIn (h : n ∈ nodes) :
    ∃ k, nodes[n.firstIn nodes]? = some k ∧ n.same k = true :=
  ⟨_, List.getElem?_eq_getElem (firstIn_lt h), List.findIdx_getElem (w := firstIn_lt h)⟩

/-- Nodes that first occur at one place are at one place of one tree. -/
theorem same_of_firstIn_eq (ha : a ∈ nodes) (hb : b ∈ nodes)
    (heq : a.firstIn nodes = b.firstIn nodes) : a.same b = true := by
  obtain ⟨k, hk, hsame⟩ := exists_at_firstIn ha
  obtain ⟨k', hk', hsame'⟩ := exists_at_firstIn hb
  rw [heq, hk', Option.some.injEq] at hk
  rw [hk] at hsame'
  exact same_of_same_of_same hsame hsame'

theorem distinct_concat (nodes : List Node) (n : Node) :
    distinct (nodes ++ [n])
      = if (distinct nodes).any n.same then distinct nodes else distinct nodes ++ [n] := by
  rw [distinct, List.foldl_append, distinct, List.any_reverse]
  simp only [List.foldl_cons, List.foldl_nil]
  split
  · rfl
  · exact List.reverse_cons

/-- The nodes that are kept stand in the order in which they first occurred. -/
theorem pairwise_distinct_firstIn (nodes : List Node) :
    (distinct nodes).Pairwise fun a b => a.firstIn nodes < b.firstIn nodes := by
  induction nodes using List.reverseRecOn with
  | nil => exact List.Pairwise.nil
  | append_singleton nodes n ih =>
    have hstay : (distinct nodes).Pairwise fun a b =>
        a.firstIn (nodes ++ [n]) < b.firstIn (nodes ++ [n]) := by
      refine ih.imp_of_mem fun {a b} ha hb h => ?_
      rwa [firstIn_append (mem_of_mem_distinct ha), firstIn_append (mem_of_mem_distinct hb)]
    rw [distinct_concat]
    split
    · exact hstay
    · rename_i hnew
      refine List.pairwise_append.mpr ⟨hstay, List.pairwise_singleton _ _, fun a ha b hb => ?_⟩
      have hnone : ∀ k ∈ nodes, n.same k = false := by
        intro k hk
        by_contra hsame
        rw [Bool.not_eq_false] at hsame
        obtain ⟨m, hm, hsame'⟩ := exists_same_of_mem_distinct hk
        rw [same_comm] at hsame'
        exact hnew (List.any_eq_true.mpr ⟨m, hm, same_of_same_of_same hsame hsame'⟩)
      have hlast : n.firstIn (nodes ++ [n]) = nodes.length := by
        rw [firstIn, List.findIdx_append, List.findIdx_eq_length_of_false hnone,
          if_neg (Nat.lt_irrefl _), List.findIdx_cons, same_self]
        exact Nat.zero_add _
      rw [List.mem_singleton.mp hb, firstIn_append (mem_of_mem_distinct ha), hlast]
      exact firstIn_lt (mem_of_mem_distinct ha)

/-! ## The order of a set -/

/-- The order of a set that is made from the nodes in the list: by keys, and where these are equal
by first occurrence. -/
def ComesBefore (nodes : List Node) (a b : Node) : Prop :=
  a.Precedes b ∨ a.orderKey = b.orderKey ∧ a.firstIn nodes < b.firstIn nodes

theorem not_precedes_of_orderKey_eq (h : a.orderKey = b.orderKey) : ¬ a.Precedes b := by
  rw [Precedes, h, compareKeys_self]
  nofun

theorem ComesBefore.firstIn_lt (h : ComesBefore nodes a b) (hkey : a.orderKey = b.orderKey) :
    a.firstIn nodes < b.firstIn nodes :=
  (h.resolve_left (not_precedes_of_orderKey_eq hkey)).2

theorem ComesBefore.asymm (h : ComesBefore nodes a b) : ¬ ComesBefore nodes b a := by
  intro h'
  rcases h with h | ⟨hkey, hlt⟩
  · rcases h' with h' | ⟨hkey, -⟩
    · rw [antisymm h h'] at h
      exact irrefl _ h
    · exact not_precedes_of_orderKey_eq hkey.symm h
  · exact Nat.lt_asymm hlt (h'.firstIn_lt hkey.symm)

instance : Std.Irrefl (ComesBefore nodes) where
  irrefl _ h := h.asymm h

instance : Std.Antisymm (ComesBefore nodes) where
  antisymm _ _ h h' := absurd h' h.asymm

theorem nodup_sorted (nodes : List Node) : (sorted nodes).Nodup :=
  (pairwise_not_same_sorted nodes).imp fun h heq => by simp [heq, same_self] at h

/-- **A set is sorted by keys, and nodes with one key stay as they first occurred.** -/
theorem pairwise_sorted (nodes : List Node) : (sorted nodes).Pairwise (ComesBefore nodes) := by
  refine List.pairwise_iff_forall_sublist.mpr fun {a b} hab => ?_
  have hle : precedesOrSame a b = true :=
    List.pairwise_iff_forall_sublist.mp (pairwise_precedesOrSame (distinct nodes)) hab
  rw [precedesOrSame_iff] at hle
  cases hcompare : compareKeys a.orderKey b.orderKey with
  | lt => exact .inl hcompare
  | gt =>
    rw [hcompare] at hle
    cases hle
  | eq =>
    have hkey := Std.LawfulEqCmp.eq_of_compare hcompare
    refine .inr ⟨hkey, ?_⟩
    have ha : a ∈ distinct nodes := List.mem_mergeSort.mp (hab.subset (by simp))
    have hb : b ∈ distinct nodes := List.mem_mergeSort.mp (hab.subset (by simp))
    rcases Nat.lt_trichotomy (a.firstIn nodes) (b.firstIn nodes) with hlt | heq | hgt
    · exact hlt
    · have hsame := same_of_firstIn_eq (mem_of_mem_distinct ha) (mem_of_mem_distinct hb) heq
      have hnot := List.pairwise_iff_forall_sublist.mp (pairwise_not_same_sorted nodes) hab
      rw [hsame] at hnot
      cases hnot
    · -- sorting would have kept them the other way round
      have hba : [b, a].Sublist (distinct nodes) :=
        sublist_of_lt (pairwise_distinct_firstIn nodes) hb ha hgt
      have hback : precedesOrSame b a = true := by
        rw [precedesOrSame_iff, hkey, compareKeys_self]
        rfl
      exact absurd
        (List.pair_sublist_mergeSort precedesOrSame_trans precedesOrSame_total hback hba)
        (not_sublist_swap (nodup_sorted nodes) hab)

/-- **In a set the nodes of each tree are in its document order.** -/
theorem inDocumentOrder_filter_sorted (hF : F.Built) (hall : ∀ n ∈ nodes, n.Within F)
    (id : TreeId) : InDocumentOrder ((sorted nodes).filter fun n => n.tree = id) := by
  refine ((pairwise_sorted nodes).filter _).imp_of_mem fun {a b} ha hb h => ?_
  obtain ⟨ha, hid⟩ := List.mem_filter.mp ha
  obtain ⟨hb, hid'⟩ := List.mem_filter.mp hb
  have htree : a.tree = b.tree := (of_decide_eq_true hid).trans (of_decide_eq_true hid').symm
  refine h.resolve_right fun ⟨hkey, hlt⟩ => ?_
  have heq := (hall a (mem_of_mem_sorted ha)).eq_of_orderKey_eq hF (hall b (mem_of_mem_sorted hb))
    htree hkey
  exact Nat.lt_irrefl _ (heq ▸ hlt)

/-- **A set depends on the order in which it is put together only in one thing**: which of two nodes
of different trees that have one key comes first. -/
theorem sorted_eq_iff (hF : F.Built) (hall : ∀ n ∈ nodes, n.Within F)
    (hmem : ∀ n, n ∈ nodes ↔ n ∈ nodes') :
    sorted nodes = sorted nodes' ↔
      ∀ a ∈ nodes, ∀ b ∈ nodes, a.tree ≠ b.tree → a.orderKey = b.orderKey →
        a.firstIn nodes < b.firstIn nodes → a.firstIn nodes' < b.firstIn nodes' := by
  have hall' : ∀ n ∈ nodes', n.Within F := fun n hn => hall n ((hmem n).mpr hn)
  constructor
  · intro heq a ha b hb htree hkey hlt
    have hboth := (pairwise_sorted nodes).and (heq ▸ pairwise_sorted nodes')
    have hpair := rel_or_rel_of_pairwise hboth (mem_sorted_of_mem hF hall ha)
      (mem_sorted_of_mem hF hall hb) fun h => htree (h ▸ rfl)
    rcases hpair with ⟨-, h⟩ | ⟨h, -⟩
    · exact h.firstIn_lt hkey
    · exact absurd hlt (Nat.lt_asymm (h.firstIn_lt hkey.symm))
  · intro hties
    have hsorted : (sorted nodes).Pairwise (ComesBefore nodes') := by
      refine (pairwise_sorted nodes).imp_of_mem fun {a b} ha hb h => ?_
      have ha := mem_of_mem_sorted ha
      have hb := mem_of_mem_sorted hb
      refine h.imp id fun ⟨hkey, hlt⟩ => ⟨hkey, hties a ha b hb (fun htree => ?_) hkey hlt⟩
      have heq := (hall a ha).eq_of_orderKey_eq hF (hall b hb) htree hkey
      exact Nat.lt_irrefl _ (heq ▸ hlt)
    refine List.Pairwise.eq_of_mem_iff hsorted (pairwise_sorted nodes') fun m => ?_
    rw [mem_sorted_iff hF hall, mem_sorted_iff hF hall', hmem]

/-- **The nodes of a tree stand together in a set if none of another tree comes between two of
them.** -/
theorem together_sorted_iff (hF : F.Built) (hall : ∀ n ∈ nodes, n.Within F) (id : TreeId) :
    Together (fun n : Node => n.tree = id) (sorted nodes) ↔
      ∀ a ∈ nodes, ∀ b ∈ nodes, ∀ c ∈ nodes, a.tree = id → b.tree ≠ id → c.tree = id →
        ComesBefore nodes a b → ¬ ComesBefore nodes b c := by
  rw [together_iff ComesBefore.asymm (pairwise_sorted nodes)]
  simp only [mem_sorted_iff hF hall]

end Node

end TreePath
