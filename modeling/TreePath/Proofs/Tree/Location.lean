/-
TreePath.Proofs.Tree.Location — the location of a node names it.

A location is written from the segments on the way down to the node (`Node.segments`,
`Node.Within.path_eq`). Where no name has one of the characters that separate and end segments, the
written form can be taken apart again (`Node.Segment.eq_of_intercalate_eq`). And the segments lead
from the root of the tree to the node and to no other (`Node.Within.follow_segments`). So a tree in
which names are plain has one location for each of its nodes (`Node.Within.eq_of_path_eq`).
-/
import TreePath.Proofs.Text.Digits
import TreePath.Proofs.Tree.DocumentOrder
import TreePath.Proofs.Tree.Parts

namespace TreePath

/-! ## Segments -/

/-- The name has none of the characters that locations are written with. -/
def PlainName (name : String) : Prop := ∀ c ∈ name.toList, c ∉ ['/', '[', ']', '@']

/-- The part of a location that leads from a node to a child or a flag. -/
inductive Node.Segment where
  | child (name : String) (position : Nat)
  | flag (name : String)
deriving DecidableEq, Repr

namespace Node.Segment

/-- The segment that leads to a tree from the node above it. -/
def of (t : Tree) : Segment :=
  match t.kind with
  | .flag => flag t.name
  | _ => child t.name t.position

def name : Segment → String
  | child name _ | flag name => name

def text : Segment → String
  | child name position => name ++ "[" ++ toString position ++ "]"
  | flag name => "@" ++ name

@[simp] theorem name_of (t : Tree) : (of t).name = t.name := by
  rw [of]
  split <;> rfl

theorem of_flag {t : Tree} (h : t.kind = .flag) : of t = flag t.name := by
  rw [of, h]

theorem of_child {t : Tree} (h : t.kind ≠ .flag) : of t = child t.name t.position := by
  rw [of]
  split
  · exact absurd ‹_› h
  · rfl

theorem text_of {t : Tree} (h : t.kind ≠ .document) : (of t).text = Node.segment t := by
  rw [of, Node.segment]
  cases hkind : t.kind
  case document => exact absurd hkind h
  all_goals rfl

theorem toList_text_child (name : String) (position : Nat) :
    (child name position).text.toList
      = name.toList ++ '[' :: (Text.natDigits position ++ [']']) := by
  simp [text, Text.natDigits]

theorem toList_text_flag (name : String) : (flag name).text.toList = '@' :: name.toList := by
  simp [text]

theorem not_mem_natDigits {c : Char} (hc : Text.isDigit c = false) (n : Nat) :
    c ∉ Text.natDigits n := by
  intro h
  rw [Text.isDigit_of_mem_natDigits h] at hc
  cases hc

/-- A segment is written without the separator. -/
theorem slash_not_mem_text {s : Segment} (h : PlainName s.name) : '/' ∉ s.text.toList := by
  have hname : '/' ∉ s.name.toList := fun hmem => h _ hmem (by decide)
  cases s with
  | child name position =>
    rw [toList_text_child]
    have hdigits := not_mem_natDigits (c := '/') rfl position
    simpa [Segment.name] using ⟨hname, hdigits⟩
  | flag name =>
    rw [toList_text_flag]
    simpa [Segment.name] using hname

theorem toList_text_ne_nil (s : Segment) : s.text.toList ≠ [] := by
  cases s with
  | child name position =>
    rw [toList_text_child]
    exact List.append_ne_nil_of_right_ne_nil _ (List.cons_ne_nil _ _)
  | flag name =>
    rw [toList_text_flag]
    exact List.cons_ne_nil _ _

/-- A flag is marked in front, where a plain name has no mark. -/
theorem text_child_ne_flag {name other : String} {position : Nat} (h : PlainName name) :
    (child name position).text ≠ (flag other).text := by
  intro heq
  have hlist := congrArg String.toList heq
  rw [toList_text_child, toList_text_flag] at hlist
  cases hname : name.toList with
  | nil =>
    rw [hname] at hlist
    cases (List.cons_eq_cons.mp hlist).1
  | cons c rest =>
    rw [hname] at hlist
    obtain ⟨rfl, -⟩ := List.cons_eq_cons.mp hlist
    exact h '@' (by rw [hname]; exact List.mem_cons_self) (by decide)

/-- The name of a child ends at the bracket, and its position is between brackets. -/
theorem eq_of_text_child {name other : String} {i j : Nat} (h : PlainName name)
    (heq : (child name i).text = (child other j).text) : name = other ∧ i = j := by
  have hlist := congrArg String.toList heq
  rw [toList_text_child, toList_text_child] at hlist
  have hname : '[' ∉ name.toList := fun hmem => h _ hmem (by decide)
  have hdigits : '[' ∉ Text.natDigits i ++ [']'] := by simpa using not_mem_natDigits rfl i
  obtain ⟨hnames, -, hrest⟩ := (List.append_cons_inj_of_notMem hname hdigits).mp hlist
  have hvalue := congrArg Text.digitsValue (List.append_cancel_right hrest)
  rw [Text.digitsValue_natDigits, Text.digitsValue_natDigits] at hvalue
  exact ⟨String.toList_inj.mp hnames, hvalue⟩

/-- **Segments with plain names are told apart by their texts.** -/
theorem eq_of_text_eq {s t : Segment} (hs : PlainName s.name) (ht : PlainName t.name)
    (h : s.text = t.text) : s = t := by
  cases s with
  | child name position =>
    cases t with
    | child other place =>
      obtain ⟨rfl, rfl⟩ := eq_of_text_child hs h
      rfl
    | flag other => exact absurd h (text_child_ne_flag hs)
  | flag name =>
    cases t with
    | child other place => exact absurd h.symm (text_child_ne_flag ht)
    | flag other =>
      have hlist := congrArg String.toList h
      rw [toList_text_flag, toList_text_flag] at hlist
      obtain rfl : name = other := String.toList_inj.mp (List.tail_eq_of_cons_eq hlist)
      rfl

theorem eq_of_map_text_eq : ∀ {l m : List Segment}, (∀ s ∈ l, PlainName s.name) →
    (∀ s ∈ m, PlainName s.name) → l.map text = m.map text → l = m
  | [], [], _, _, _ => rfl
  | [], _ :: _, _, _, h | _ :: _, [], _, _, h => nomatch h
  | s :: l, t :: m, hl, hm, h => by
      obtain ⟨hs, hl⟩ := List.forall_mem_cons.mp hl
      obtain ⟨ht, hm⟩ := List.forall_mem_cons.mp hm
      obtain ⟨hhead, htail⟩ := List.cons_eq_cons.mp h
      rw [eq_of_text_eq hs ht hhead, eq_of_map_text_eq hl hm htail]

theorem eq_nil_of_intercalate {l : List Segment} (h : "/".intercalate (l.map text) = "") :
    l = [] := by
  have hlist := congrArg String.toList h
  match l, hlist with
  | [], _ => rfl
  | [s], hlist => exact absurd (by simpa using hlist) s.toList_text_ne_nil
  | s :: t :: rest, hlist => simp at hlist

/-- **What is written with separators can be taken apart again.** -/
theorem eq_of_intercalate_eq {l m : List Segment} (hl : ∀ s ∈ l, PlainName s.name)
    (hm : ∀ s ∈ m, PlainName s.name)
    (h : "/".intercalate (l.map text) = "/".intercalate (m.map text)) : l = m := by
  have hsplit : ∀ {l : List Segment}, l ≠ [] → (∀ s ∈ l, PlainName s.name) →
      ("/".intercalate (l.map text)).toList.splitOn '/' = (l.map text).map String.toList := by
    intro l hne hl
    rw [String.toList_intercalate]
    refine List.splitOn_intercalate '/' (fun cs hcs => ?_) (by simpa using hne)
    simp only [List.mem_map] at hcs
    obtain ⟨_, ⟨s, hs, rfl⟩, rfl⟩ := hcs
    exact slash_not_mem_text (hl s hs)
  by_cases hnil : l = []
  · subst hnil
    exact (eq_nil_of_intercalate h.symm).symm
  by_cases hnil' : m = []
  · subst hnil'
    exact eq_nil_of_intercalate h
  have htexts := hsplit hnil hl
  rw [h, hsplit hnil' hm, List.map_inj_right fun _ _ => String.toList_inj.mp] at htexts
  exact (eq_of_map_text_eq hm hl htexts).symm

end Node.Segment

namespace Node

variable {F : Forest} {n m : Node} {t : Tree}

/-! ## Locations and segments -/

/-- The segments that lead down to a subtree below others. -/
def segmentsIn (t : Tree) : (above : List Tree) → List Segment
  | [] => []
  | p :: rest => segmentsIn p rest ++ [Segment.of t]

/-- The segments that lead from the topmost node to this one. -/
def segments (n : Node) : List Segment := segmentsIn n.here n.above

@[simp] theorem segments_root (id : TreeId) (t : Tree) : (root id t).segments = [] := rfl

@[simp] theorem segments_below (n : Node) (t : Tree) :
    (n.below t).segments = n.segments ++ [Segment.of t] := rfl

/-- Only the topmost node of a document has no segments, and it is the only document. -/
theorem Within.kind_eq_document_iff (hF : F.Built) (hn : n.Within F)
    (hdocument : n.top.kind = .document) : n.kind = .document ↔ n.segments = [] := by
  cases hn with
  | root h => exact iff_of_true hdocument rfl
  | under hn ht =>
    exact iff_of_false (hn.part_of_mem hF ht).kind_ne (by simp)

theorem path_below (n : Node) (h : t.kind ≠ .document) : (n.below t).path
    = (if n.kind = .document then "/" else n.path ++ "/") ++ (Segment.of t).text := by
  rw [Segment.text_of h]
  rw [path, below, pathIn, if_neg h]
  by_cases hn : n.here.kind = .document
  · rw [if_pos hn, if_pos (show n.kind = .document from hn)]
  · rw [if_neg hn, if_neg (show n.kind ≠ .document from hn)]
    rfl

/-- **A location is written segment by segment.** -/
theorem Within.path_eq (hF : F.Built) (hn : n.Within F) (hdocument : n.top.kind = .document) :
    n.path = "/" ++ "/".intercalate (n.segments.map Segment.text) := by
  induction hn with
  | root h => exact if_pos hdocument
  | @under n t hn ht ih =>
    rw [top_below] at hdocument
    have hkind := hn.kind_eq_document_iff hF hdocument
    rw [path_below n (hn.part_of_mem hF ht).kind_ne, segments_below, List.map_append]
    by_cases hnil : n.segments = []
    · rw [if_pos (hkind.mpr hnil), hnil]
      simp
    · rw [if_neg (mt hkind.mp hnil), ih hdocument,
        String.intercalate_append_of_ne_nil (by simpa using hnil) (by simp)]
      simp [String.append_assoc]

/-! ## Segments and nodes -/

/-- The flags or children that a segment leads to. -/
def selectedBy (n : Node) : Segment → List Node
  | .child name position => (n.childrenMatching (.name name))[position - 1]?.toList
  | .flag name => n.flagsMatching (.name name)

/-- The nodes that segments lead to, one after another. -/
def follow (n : Node) (segments : List Segment) : List Node :=
  segments.foldl (fun nodes s => nodes.flatMap (selectedBy · s)) [n]

theorem follow_concat (n : Node) (segments : List Segment) (s : Segment) :
    n.follow (segments ++ [s]) = (n.follow segments).flatMap (selectedBy · s) :=
  List.foldl_append ..

/-- A segment leads to what it was made for, and to nothing else. -/
theorem Within.selectedBy_of (hF : F.Built) (hn : n.Within F)
    (ht : t ∈ n.here.flags ++ n.here.children) : n.selectedBy (.of t) = [n.below t] := by
  rcases List.mem_append.mp ht with ht | ht
  · rw [Segment.of_flag ((hn.arranged hF).isFlag_of_mem ht).kind_eq]
    exact hn.flagsMatching_eq hF (List.mem_map_of_mem ht)
  · rw [Segment.of_child ((hn.arranged hF).kind_ne_flag ht), selectedBy]
    exact congrArg Option.toList (hn.getElem?_childrenMatching hF (List.mem_map_of_mem ht)).2

/-- **The segments of a node lead to it from the top, and to nothing else.** -/
theorem Within.follow_segments (hF : F.Built) (hn : n.Within F) :
    n.top.follow n.segments = [n] := by
  induction hn with
  | root h => rfl
  | under hn ht ih =>
    rw [top_below, segments_below, follow_concat, ih, List.flatMap_singleton]
    exact hn.selectedBy_of hF ht

/-- The names of the node and of the nodes above have no mark of a location in them. -/
theorem Within.plainName_of_mem_segments {P : String → Prop} (hn : n.Within F)
    (hnames : ∀ m : Node, m.Within F → P m.name) : ∀ s ∈ n.segments, P s.name := by
  induction hn with
  | root h => exact fun _ h => absurd h List.not_mem_nil
  | @under n t hn ht ih =>
    intro s hs
    rw [segments_below] at hs
    rcases List.mem_append.mp hs with hs | hs
    · exact ih s hs
    · rw [List.mem_singleton.mp hs, Segment.name_of]
      exact hnames (n.below t) (.under hn ht)

/-- **Nodes of one document have different locations**, if all names in it are plain. -/
theorem Within.eq_of_path_eq (hF : F.Built) (hn : n.Within F) (hm : m.Within F)
    (htop : n.top = m.top) (hdocument : n.top.kind = .document)
    (hnames : ∀ k : Node, k.Within F → PlainName k.name) (h : n.path = m.path) : n = m := by
  rw [hn.path_eq hF hdocument, hm.path_eq hF (htop ▸ hdocument)] at h
  have hsegments := Segment.eq_of_intercalate_eq (hn.plainName_of_mem_segments hnames)
    (hm.plainName_of_mem_segments hnames) (String.append_right_inj .. |>.mp h)
  have hfollow := hn.follow_segments hF
  rw [hsegments, htop, hm.follow_segments hF] at hfollow
  exact (List.singleton_inj.mp hfollow).symm

end Node

end TreePath
