/-
TreePath.Proofs.Tree.StringValue — the string value of a node.

The string value of a document or assembly is worked out by recursion over the children. It is also
what one reads off the traversal: the values of the fields that `descendantsOrSelf` lists, written
one after another (`Node.Within.stringValue_eq_join`). The two agree because the traversal is the
recursive pre-order, a field has no children, and no flag is listed.
-/
import TreePath.Proofs.Tree.DocumentOrder
import TreePath.Proofs.Tree.Parts

namespace TreePath

theorem Tree.stringValues_eq_join (ts : List Tree) :
    stringValues ts = String.join (ts.map stringValue) := by
  induction ts with
  | nil => rfl
  | cons t rest ih => rw [stringValues, ih, List.map_cons, String.join_cons]

namespace Node

variable {F : Forest} {n m : Node}

/-- The values of the fields from here down, in the order in which the traversal lists them. Fields
without a value have none. -/
def fieldValues (n : Node) : List AtomicValue :=
  (n.descendantsOrSelf.filter fun m => m.kind = .field).filterMap rawValue?

/-! ## Fields -/

theorem fieldValues_eq (n : Node) :
    n.fieldValues
      = (if n.kind = .field then n.rawValue?.toList else []) ++ n.children.flatMap fieldValues := by
  have hbelow : ((n.children.flatMap descendantsOrSelf).filter fun m => m.kind = .field).filterMap
      rawValue? = n.children.flatMap fieldValues := by
    rw [List.filter_flatMap, List.filterMap_flatMap]
    rfl
  rw [fieldValues, descendantsOrSelf_eq, List.filter_cons]
  by_cases hkind : n.kind = .field
  · cases hvalue : n.rawValue? with
    | none => simp [hkind, hvalue, hbelow]
    | some v => simp [hkind, hvalue, hbelow]
  · simp [hkind, hbelow]

theorem Within.fieldValues_of_field (hF : F.Built) (hn : n.Within F) (hkind : n.kind = .field) :
    n.fieldValues = n.rawValue?.toList := by
  rw [fieldValues_eq, if_pos hkind, hn.children_of_field hF hkind, List.flatMap_nil,
    List.append_nil]

/-- The traversal lists no flags, unless it starts at one. -/
theorem Within.kind_ne_flag (hF : F.Built) (hn : n.Within F) (hkind : n.kind ≠ .flag)
    (hm : m ∈ n.descendantsOrSelf) : m.kind ≠ .flag := by
  induction n using child_induction with
  | h n ih =>
    rw [descendantsOrSelf_eq] at hm
    rcases List.mem_cons.mp hm with rfl | hm
    · exact hkind
    · obtain ⟨c, hc, hm⟩ := List.mem_flatMap.mp hm
      obtain ⟨t, ht, rfl⟩ := exists_of_mem_children hc
      exact ih _ hc ((kept_within F).children hn hc) ((hn.arranged hF).kind_ne_flag ht) hm

/-! ## String values -/

/-- Texts in groups are joined group by group. -/
theorem join_flatMap {α : Type} (f : α → List String) (l : List α) :
    String.join (l.flatMap f) = String.join (l.map fun a => String.join (f a)) := by
  induction l with
  | nil => rfl
  | cons a rest ih =>
    rw [List.flatMap_cons, String.join_append, ih, List.map_cons, String.join_cons]

theorem stringValue_of_field (hkind : n.kind = .field) :
    n.stringValue = String.join (n.rawValue?.toList.map AtomicValue.text) := by
  obtain ⟨tree, address, ⟨label, step, flags, children⟩, above⟩ := n
  have hlabel : label.kind = .field := hkind
  rw [stringValue, Tree.stringValue, hlabel, rawValue?, Node.label, Tree.label]
  cases label.value with
  | none => rfl
  | some v => simp

/-- The string values of the children one after another. -/
theorem stringValue_of_children (hkind : n.kind = .document ∨ n.kind = .assembly) :
    n.stringValue = String.join (n.children.map stringValue) := by
  obtain ⟨tree, address, ⟨label, step, flags, children⟩, above⟩ := n
  have hlabel : label.kind = .document ∨ label.kind = .assembly := hkind
  have hbelow : ∀ n : Node, (n.here.children.map n.below).map stringValue
      = n.here.children.map Tree.stringValue := by
    simp [below, stringValue, Function.comp_def]
  rw [Node.children, hbelow, stringValue, Tree.stringValue, Tree.stringValues_eq_join]
  rcases hlabel with h | h <;> rw [h] <;> rfl

/-- What the recursion gives is what the traversal lists, at every node that is no flag. -/
theorem Within.stringValue_eq_join (hF : F.Built) (hn : n.Within F) (hkind : n.kind ≠ .flag) :
    n.stringValue = String.join (n.fieldValues.map AtomicValue.text) := by
  induction n using child_induction with
  | h n ih =>
    by_cases hfield : n.kind = .field
    · rw [stringValue_of_field hfield, hn.fieldValues_of_field hF hfield]
    · have hparent : n.kind = .document ∨ n.kind = .assembly := by
        cases hcase : n.kind with
        | document => exact .inl rfl
        | assembly => exact .inr rfl
        | field => exact absurd hcase hfield
        | flag => exact absurd hcase hkind
      have hchildren : n.children.map stringValue
          = n.children.map fun c => String.join (c.fieldValues.map AtomicValue.text) := by
        refine List.map_congr_left fun c hc => ?_
        obtain ⟨t, ht, rfl⟩ := exists_of_mem_children hc
        exact ih _ hc ((kept_within F).children hn hc) ((hn.arranged hF).kind_ne_flag ht)
      rw [stringValue_of_children hparent, hchildren, fieldValues_eq, if_neg hfield,
        List.nil_append, List.map_flatMap, join_flatMap]

/-- **The string value of a document or assembly.** It is the canonical texts of the values of all
fields from the node down, in the order of the traversal, which lists no flags; and the string
values of the children make it up. -/
theorem Within.stringValue_concatenates (hF : F.Built) (hn : n.Within F)
    (hkind : n.kind = .document ∨ n.kind = .assembly) :
    n.stringValue = String.join (n.fieldValues.map AtomicValue.text) ∧
      (∀ m ∈ n.descendantsOrSelf, m.kind ≠ .flag) ∧
      n.stringValue = String.join (n.children.map stringValue) := by
  have hne : n.kind ≠ .flag := by
    rcases hkind with h | h <;> rw [h] <;> decide
  exact ⟨hn.stringValue_eq_join hF hne, fun m => hn.kind_ne_flag hF hne,
    stringValue_of_children hkind⟩

/-! A room with values: an item that is on no shelf, and two on a shelf, of which one has none. -/

namespace Sample

def stockedBinding : Binding :=
  .mk none [("id", .token "r")]
    [("shelf", .mk none [] [("item", .mk (some (.integer 10)) [("id", .token "a")] []),
        ("item", .mk none [("id", .token "b")] []), ("item", .mk (some (.boolean true)) [] [])]),
      ("item", .mk (some (.string "hello")) [("id", .token "c")] [])]

def stockedRooms : Forest := fun _ => some (Tree.document roomRoot stockedBinding none)

def stockedNode : Node := Node.root (.document 0) (Tree.document roomRoot stockedBinding none)

end Sample

open Sample in
/-- The item that is on no shelf comes first, as in document order, and no flag appears. -/
theorem stringValue_concatenates_of_room :
    stockedNode.fieldValues = [.string "hello", .integer 10, .boolean true] ∧
      stockedNode.stringValue = String.join ["hello", "10", "true"] ∧
      stockedNode.stringValue = String.join (stockedNode.children.map stringValue) := by
  have hbuilt : stockedRooms.Built := by
    intro id t h
    cases h
    exact .document _ _ _
  have hwithin : stockedNode.Within stockedRooms := .root rfl
  obtain ⟨htexts, -, hchildren⟩ := hwithin.stringValue_concatenates hbuilt (.inl rfl)
  have hvalues : stockedNode.fieldValues = [.string "hello", .integer 10, .boolean true] := by
    cbv
  refine ⟨hvalues, ?_, hchildren⟩
  rw [htexts, hvalues]
  rfl

end Node

end TreePath
