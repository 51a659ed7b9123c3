/-
TreePath.Proofs.Expr.Location — a location can be evaluated.

Each segment of a location is a step: a child is taken by its name and then by its position in the
way of a predicate (`runIn_filter_position`), a flag by its name. Put together behind the root they
are an expression (`Node.locator`) that gives the node, from wherever in the tree it is evaluated
(`Node.Within.runIn_locator`). With the texts of locations this says that they identify nodes
(`Node.location_identifies`).
-/
import TreePath.Proofs.Expr.Paths
import TreePath.Proofs.Number.Fit
import TreePath.Proofs.Tree.Location

namespace TreePath

open Eval

/-! ## Positions as predicates -/

namespace Eval

/-- An integer keeps the item at that position. -/
theorem keeps_position {p : Nat} (hp : p < 2 ^ 63) (k : Nat) :
    keeps [.atomic (.integer (Int64.ofNat p))] k = .ok (decide (p = k)) := by
  have hdecimal : (AtomicValue.integer (Int64.ofNat p)).decimal?
      = some (Decimal.ofInt64 (Int64.ofNat p)) := rfl
  have htoRat : (Decimal.ofInt64 (Int64.ofNat p)).toRat = (p : Rat) := by
    rw [Decimal.toRat_ofInt64, Int64.toInt_ofNat_of_lt hp, Int.cast_natCast]
  have hsame : ((p : Rat) == (k : Rat)) = decide (p = k) := by
    rw [Bool.eq_iff_iff, beq_iff_eq, decide_eq_true_iff, Nat.cast_inj]
  simp only [keeps, hdecimal, htoRat, hsame]

/-- Of numbered elements the one with a given number is left. -/
theorem flatMap_zipIdx_eq {α : Type} (l : List α) (p k : Nat) :
    ((l.zipIdx k).flatMap fun e => if p + k = e.2 then [e.1] else []) = l[p]?.toList := by
  induction l generalizing p k with
  | nil => rfl
  | cons a rest ih =>
    rw [List.zipIdx_cons, List.flatMap_cons]
    cases p with
    | zero =>
      -- the numbers of the others are greater
      have hothers : ((rest.zipIdx (k + 1)).flatMap fun e => if 0 + k = e.2 then [e.1] else [])
          = [] := by
        refine List.flatMap_eq_nil_iff.mpr fun e he => if_neg ?_
        have hle := List.le_snd_of_mem_zipIdx he
        omega
      rw [hothers, if_pos (Nat.zero_add k)]
      rfl
    | succ p =>
      have hshift : p + 1 + k = p + (k + 1) := by omega
      rw [if_neg (by simp), hshift, ih]
      rfl

theorem nodeSet_singleton (n : Node) : nodeSet [n] = [.node n] := by
  rw [nodeSet, Node.sorted]
  exact congrArg (List.map Item.node) (List.mergeSort_singleton n)

end Eval

namespace Expr

variable {ctx : Context} {s : Scope} {σ σ' : Session}

/-- A predicate that is a positive integer leaves the item at that position. -/
theorem runIn_filter_position {base : Expr} {items : Sequence} {p : Nat} (hpos : 0 < p)
    (hp : p < 2 ^ 63) (hbase : (base.eval ctx s).runIn σ = (.ok items, σ')) :
    ((Expr.filter base [.literal (.integer (Int64.ofNat p))]).eval ctx s).runIn σ
      = (.ok items[p - 1]?.toList, σ') := by
  rw [eval, runIn_bind_ok hbase, filterAll, runIn_bind_ok
    (runIn_collect (g := fun e => if p - 1 + 0 = e.2 then [e.1] else []) ?_ σ')]
  · rw [filterAll, flatMap_zipIdx_eq]
    rfl
  · rintro ⟨i, k⟩ - τ
    have hliteral : ((Expr.literal (.integer (Int64.ofNat p))).eval ctx
        (s.onItem i (k + 1) items.length)).runIn τ
          = (.ok [.atomic (.integer (Int64.ofNat p))], τ) := by
      rw [eval]
      rfl
    refine (runIn_bind_ok hliteral).trans ?_
    have hiff : p = k + 1 ↔ p - 1 + 0 = k := by omega
    rw [keeps_position hp, decide_eq_decide.mpr hiff]
    by_cases hk : p - 1 + 0 = k
    · rw [if_pos hk, decide_eq_true hk]
      rfl
    · rw [if_neg hk, decide_eq_false hk]
      rfl

end Expr

/-! ## Segments as steps -/

namespace Node.Segment

/-- The step that the segment stands for. -/
def step : Segment → Expr
  | child name position =>
    .filter (.step .model (.name name)) [.literal (.integer (Int64.ofNat position))]
  | flag name => .step .flag (.name name)

/-- The position can be written as an integer. It always can be where children are held in memory;
only here there are lists as long as you like. -/
def InRange : Segment → Prop
  | child _ position => position < 2 ^ 63
  | flag _ => True

instance : DecidablePred InRange
  | child _ position => inferInstanceAs (Decidable (position < 2 ^ 63))
  | flag _ => inferInstanceAs (Decidable True)

end Node.Segment

namespace Node

variable {F : Forest} {n m : Node} {t : Tree} {ctx : Context} {s : Scope}

/-- The expression that starts at the root and takes one step for each segment. -/
def locator (n : Node) : Expr := .ofSteps (.root :: n.segments.map Segment.step)

theorem locator_below (n : Node) (t : Tree) :
    (n.below t).locator = .path n.locator (Segment.of t).step false := by
  rw [locator, segments_below, List.map_append, Expr.ofSteps, List.foldl_append]
  rfl

/-- The step of a segment gives the node that the segment was made for. -/
theorem Within.runIn_step (hF : F.Built) (hn : n.Within F)
    (ht : t ∈ n.here.flags ++ n.here.children) (hrange : (Segment.of t).InRange)
    (hs : contextItem s = .ok (.node n)) (σ : Session) :
    ((Segment.of t).step.eval ctx s).runIn σ = (.ok [.node (n.below t)], σ) := by
  have hselected : ∀ axis test nodes, selected axis test n = nodes →
      ((Expr.step axis test).eval ctx s).runIn σ = (.ok (nodes.map .node), σ) := by
    rintro axis test _ rfl
    rw [Expr.eval, contextNode_of_contextItem hs]
    rfl
  rcases List.mem_append.mp ht with ht | ht
  · have hflag := hn.flagsMatching_eq hF (List.mem_map_of_mem ht)
    rw [Segment.of_flag ((hn.arranged hF).isFlag_of_mem ht).kind_eq]
    exact hselected .flag (.name t.name) [n.below t] hflag
  · obtain ⟨hpos, hget⟩ := hn.getElem?_childrenMatching hF (List.mem_map_of_mem ht)
    have hitem : ((n.childrenMatching (.name t.name)).map Item.node)[t.position - 1]?
        = some (.node (n.below t)) := by
      rw [List.getElem?_map]
      exact congrArg (Option.map Item.node) hget
    rw [Segment.of_child ((hn.arranged hF).kind_ne_flag ht)] at hrange ⊢
    have hchild := Expr.runIn_filter_position hpos hrange
      (hselected .model (.name t.name) _ rfl)
    exact hchild.trans (congrArg (fun found => (Except.ok found.toList, σ)) hitem)

/-- **The locator of a node gives the node**, and nothing else, from every node of its document. -/
theorem Within.runIn_locator (hF : F.Built) (hn : n.Within F) (hdocument : n.top.kind = .document)
    (hrange : ∀ segment ∈ n.segments, segment.InRange) (hs : contextItem s = .ok (.node m))
    (htop : m.top = n.top) (σ : Session) :
    (n.locator.eval ctx s).runIn σ = (.ok [.node n], σ) := by
  induction hn with
  | @root id t h =>
    have hroot : documentNode s = .ok (Node.root id t) := by
      rw [documentNode, contextNode_of_contextItem hs]
      exact (if_pos (htop ▸ hdocument)).trans (congrArg Except.ok htop)
    show (Expr.root.eval ctx s).runIn σ = _
    rw [Expr.eval, hroot]
    rfl
  | @under n t hn ht ih =>
    rw [top_below] at hdocument htop
    obtain ⟨habove, hlast⟩ := List.forall_mem_append.mp hrange
    have hstep : ((Segment.of t).step.eval ctx (s.onItem (.node n) 1 1)).runIn σ
        = (.ok [.node (n.below t)], σ) :=
      hn.runIn_step hF ht (hlast _ (List.mem_singleton_self _)) rfl σ
    rw [locator_below]
    refine Expr.runIn_path.mpr ⟨[n], σ, [[.node (n.below t)]], ih hdocument habove htop, ?_, ?_⟩
    · rw [show pathScopes s false [n] = [s.onItem (.node n) 1 1] from rfl, List.mapM_cons,
        runIn_bind_ok hstep]
      rfl
    · exact (pathResult_nodes [n.below t]).trans (congrArg Except.ok (nodeSet_singleton _))

theorem Within.top_eq {id : TreeId} (hn : n.Within (F.only id)) (ht : F id = some t) :
    n.top = Node.root id t := by
  induction hn with
  | @root i u h =>
    rw [Forest.only] at h
    split at h
    · rename_i hid
      subst hid
      obtain rfl : t = u := Option.some.inj (ht.symm.trans h)
      rfl
    · cases h
  | under _ _ ih => rw [top_below, ih]

/-- **Locations identify nodes.** In the tree of a document different nodes, flags included, have
different locations, if no name has one of the characters `/`, `[`, `]` and `@`. And a location can
be evaluated: it is written segment by segment, and the expression that starts at the root and takes
for each segment the step to the child of that name and position, or to the flag of that name,
gives exactly that node, whatever node of the tree it is evaluated at. -/
theorem location_identifies (hF : F.Built) {id : TreeId} (ht : F id = some t)
    (hdocument : t.kind = .document) :
    ((∀ k : Node, k.Within (F.only id) → PlainName k.name) →
      ∀ n m : Node, n.Within (F.only id) → m.Within (F.only id) → n ≠ m → n.path ≠ m.path) ∧
    ∀ n : Node, n.Within (F.only id) →
      n.path = "/" ++ "/".intercalate (n.segments.map Segment.text) ∧
        ((∀ segment ∈ n.segments, segment.InRange) →
          ∀ (ctx : Context) (s : Scope) (m : Node) (σ : Session), m.Within (F.only id) →
            contextItem s = .ok (.node m) →
            (n.locator.eval ctx s).runIn σ = (.ok [.node n], σ)) := by
  have honly := hF.only id
  have hkind : ∀ {n : Node}, n.Within (F.only id) → n.top.kind = .document := fun hn => by
    rw [hn.top_eq ht]
    exact hdocument
  have htop : ∀ {n m : Node}, n.Within (F.only id) → m.Within (F.only id) → n.top = m.top :=
    fun hn hm => (hn.top_eq ht).trans (hm.top_eq ht).symm
  refine ⟨fun hnames n m hn hm hne hpath => ?_, fun n hn => ⟨hn.path_eq honly (hkind hn), ?_⟩⟩
  · exact hne (hn.eq_of_path_eq honly hm (htop hn hm) (hkind hn) hnames hpath)
  · intro hrange ctx s m σ hm hs
    exact hn.runIn_locator honly (hkind hn) hrange hs (htop hm hn) σ

/-! The second item on the first shelf, found from the flag of the second shelf. -/

theorem Within.reaches_of_top (hn : n.Within F) : n.top.Reaches n := by
  induction hn with
  | root h => exact .self
  | under hn ht ih =>
    rw [top_below]
    rcases List.mem_append.mp ht with ht | ht
    · exact ih.flag (List.mem_map_of_mem ht)
    · exact ih.child (List.mem_map_of_mem ht)

namespace Sample

theorem within_only : roomNode.Within (rooms.only (.document 0)) := .root rfl

theorem mem_withFlags_of_within (hn : n.Within (rooms.only (.document 0))) :
    n ∈ roomNode.withFlags := by
  have hreaches := hn.reaches_of_top
  rw [hn.top_eq (t := room) rfl] at hreaches
  exact (within_only.mem_withFlags_iff (built_rooms.only _)).mpr hreaches

theorem segments_withFlags : roomNode.withFlags.map segments
    = [[], [.child "room" 1], [.child "room" 1, .flag "id"], [.child "room" 1, .child "item" 1],
      [.child "room" 1, .child "item" 1, .flag "id"], [.child "room" 1, .child "shelf" 1],
      [.child "room" 1, .child "shelf" 1, .child "item" 1],
      [.child "room" 1, .child "shelf" 1, .child "item" 1, .flag "id"],
      [.child "room" 1, .child "shelf" 1, .child "item" 2], [.child "room" 1, .child "shelf" 2],
      [.child "room" 1, .child "shelf" 2, .flag "id"]] := by cbv

theorem plainName_of_within (hn : n.Within (rooms.only (.document 0))) : PlainName n.name := by
  have hnames : roomNode.withFlags.map name
      = ["", "room", "id", "item", "id", "shelf", "item", "id", "item", "shelf", "id"] := by cbv
  have hplain : ∀ s ∈ roomNode.withFlags.map name, PlainName s := by
    rw [hnames]
    simp [PlainName]
  exact hplain _ (List.mem_map_of_mem (mem_withFlags_of_within hn))

theorem exists_of_segments (segments : List Segment)
    (h : segments ∈ roomNode.withFlags.map Node.segments) :
    ∃ n : Node, n.Within (rooms.only (.document 0)) ∧ n.segments = segments := by
  obtain ⟨n, hn, rfl⟩ := List.mem_map.mp h
  have hreaches := (within_only.mem_withFlags_iff (built_rooms.only _)).mp hn
  exact ⟨n, hreaches.within within_only, rfl⟩

end Sample

open Sample in
/-- An item on the other shelf has the same name and position, and an item on the first has the same
name; the location tells them apart. -/
theorem location_identifies_of_room :
    ∃ item flag : Node, item.path = "/room[1]/shelf[1]/item[2]" ∧
      flag.path = "/room[1]/shelf[2]/@id" ∧ item.path ≠ flag.path ∧
      ∀ σ, ((Expr.ofSteps [.root,
          .filter (.step .model (.name "room")) [.literal (.integer 1)],
          .filter (.step .model (.name "shelf")) [.literal (.integer 1)],
          .filter (.step .model (.name "item")) [.literal (.integer 2)]]).eval context
            { focus := some (Focus.on (.node flag)) }).runIn σ = (.ok [.node item], σ) := by
  obtain ⟨hdistinct, hlocated⟩ :=
    location_identifies built_rooms (show rooms (.document 0) = some room from rfl) rfl
  obtain ⟨item, hitem, hsegments⟩ :=
    exists_of_segments [.child "room" 1, .child "shelf" 1, .child "item" 2]
      (by rw [segments_withFlags]; decide)
  obtain ⟨flag, hflag, hsegments'⟩ :=
    exists_of_segments [.child "room" 1, .child "shelf" 2, .flag "id"]
      (by rw [segments_withFlags]; decide)
  obtain ⟨hpath, hlocator⟩ := hlocated item hitem
  have hpath' := (hlocated flag hflag).1
  have hne : item ≠ flag := by
    rintro rfl
    rw [hsegments] at hsegments'
    cases hsegments'
  rw [hsegments] at hpath
  rw [hsegments'] at hpath'
  refine ⟨item, flag, hpath, hpath',
    hdistinct (fun _ => plainName_of_within) item flag hitem hflag hne, fun σ => ?_⟩
  have hfound := hlocator (by rw [hsegments]; decide) context
    { focus := some (Focus.on (.node flag)) } flag σ hflag rfl
  rw [locator, hsegments] at hfound
  exact hfound

end Node

end TreePath
