/-
TreePath.Proofs.Constraint.Duplicates — what a duplicate key is a duplicate of.

The keys of a table are to be unique among the items that are entered into it. An item is entered as
often as it is selected: the target of a constraint may select it twice, at several nodes it may be
selected by one constraint, and several constraints may fill one index. So what stands behind a
duplicate key are two selected items (`SelectedItem`), one of them before the other
(`Attachments.validate_duplicates`), and an item that is selected more than once is reported as a
duplicate of itself (`validate_selected_twice`).
-/
import TreePath.Proofs.Constraint.CrossReferences

namespace TreePath

open Eval

/-! ## Selected items -/

/-- The table that a constraint fills at a node. -/
def Constraint.table? (c : Constraint) (n : Node) : Option KeyTable :=
  match c.rule with
  | .index name _ => some (.index name)
  | .unique _ => some (.unique c.identity n.tree n.address)
  | _ => none

/-- The item at a position among those that the target of the constraint selects at a node. It has
its key after the items in front of it have theirs. -/
def Constraint.keyedItemAt (c : Constraint) (ctx : Context) (n : Node) (position : Nat) :
    Eval (Option KeyedItem) := do
  let items ← c.target.evalAt ctx (.node n)
  let found ← (items.take (position + 1)).mapM (c.keyedItem ctx n)
  return found[position]?

/-- An item with a key, and where in a walk it is selected: at which check, made in which session,
and at which position among the items of that check. -/
structure SelectedItem extends KeyedItem where
  check : Nat
  session : Session
  position : Nat

/-- The first place is at an earlier check, or at an earlier position of the same check. -/
def Validation.Before (place place' : Nat × Nat) : Prop :=
  place.1 < place'.1 ∨ place.1 = place'.1 ∧ place.2 < place'.2

namespace SelectedItem

/-- The first is selected by an earlier check, or by the same check at an earlier position. -/
def Precedes (first second : SelectedItem) : Prop :=
  Validation.Before (first.check, first.position) (second.check, second.position)

/-- A walk that starts in the session comes upon the item. -/
structure Occurs (ctx : Context) (checks : List (Node × Constraint)) (σ : Session)
    (i : SelectedItem) : Prop where
  check : (Validation.withSessions ctx checks σ)[i.check]? =
    some ((i.node, i.constraint), i.session)
  item : ((i.constraint.keyedItemAt ctx i.node i.position).runIn i.session).1
    = .ok (some i.toKeyedItem)

end SelectedItem

/-- The finding is that the second item has the key of the first in one table. -/
structure Finding.Duplicates (first second : SelectedItem) (f : Finding) : Prop where
  key : second.key = first.key
  table : ∃ table, first.constraint.table? first.node = some table ∧
    second.constraint.table? second.node = some table ∧
    f.message = Validation.duplicateMessage table second.key first.item.display
  id : f.id = second.constraint.id
  kind : f.kind = second.constraint.kind
  level : f.level = second.constraint.level
  path : f.path = second.item.display

/-! ## Checks of constraints that fill tables -/

variable {ctx : Context}

namespace Constraint

variable {c : Constraint} {n : Node} {table : KeyTable} {key : Key} {σ σ' : Session}

theorem table?_of_sees (h : c.Sees n (.entry table key)) : c.table? n = some table := by
  cases h with
  | index key hr => rw [table?, hr]
  | unique key hr => rw [table?, hr]

theorem see_of_table? (h : c.table? n = some table) (ctx : Context) (item : Item) :
    c.see ctx n item = do
      return some (.entry table (← Key.ofFields c.rule.keys ctx item)) := by
  rw [table?.eq_def] at h
  rw [see]
  cases hr : c.rule with
  | index name keys => rw [hr] at h; cases h; rfl
  | unique keys => rw [hr] at h; cases h; rfl
  | _ => rw [hr] at h; cases h

/-- Every item up to a failure is entered, so an observation stands where its item does. -/
theorem keyedItems_take_of_observeItems (h : c.table? n = some table) {items : List Item}
    {position : Nat} {o : Observation}
    (ho : ((c.observeItems ctx n items).run σ).1.observations[position]? = some o) :
    ∃ key found σ', o.sight = .entry table key ∧
      ((items.take (position + 1)).mapM (c.keyedItem ctx n)).runIn σ = (.ok found, σ') ∧
      found[position]? = some ⟨n, c, o.item, key⟩ := by
  induction items generalizing σ position with
  | nil => cases ho
  | cons item rest ih =>
    rw [run_observeItems_cons, see_of_table? h, runIn_bind] at ho
    rcases hkey : (Key.ofFields c.rule.keys ctx item).runIn σ with ⟨r, σ₁⟩
    rw [hkey] at ho
    cases r with
    | error e => cases ho
    | ok key =>
      have hitem : (c.keyedItem ctx n item).runIn σ = (.ok ⟨n, c, item, key⟩, σ₁) :=
        runIn_bind_eq_ok.mpr ⟨key, σ₁, hkey, rfl⟩
      cases position with
      | zero =>
        cases ho
        refine ⟨key, [⟨n, c, item, key⟩], σ₁, rfl, ?_, rfl⟩
        exact runIn_bind_eq_ok.mpr ⟨_, σ₁, hitem, rfl⟩
      | succ position =>
        obtain ⟨key', found, σ₂, hsight, hfound, hat⟩ := ih ho
        refine ⟨key', ⟨n, c, item, key⟩ :: found, σ₂, hsight, ?_, hat⟩
        rw [List.take_succ_cons, List.mapM_cons]
        exact runIn_bind_eq_ok.mpr ⟨_, σ₁, hitem, runIn_bind_eq_ok.mpr ⟨found, σ₂, hfound, rfl⟩⟩

/-- What a check enters is the item at the same position among those that the target selects. -/
theorem keyedItemAt_of_observe {position : Nat} {o : Observation}
    (ho : ((c.observe ctx n).run σ).1.observations[position]? = some o)
    (hsight : o.sight = .entry table key) :
    ((c.keyedItemAt ctx n position).runIn σ).1 = .ok (some ⟨n, c, o.item, key⟩) := by
  obtain ⟨-, hsees⟩ := sees_of_observe (List.mem_of_getElem? ho)
  rw [hsight] at hsees
  have htable := table?_of_sees hsees
  rw [run_observe] at ho
  rcases hitems : (c.target.evalAt ctx (.node n)).runIn σ with ⟨r, σ₁⟩
  rw [hitems] at ho
  cases r with
  | error e => cases ho
  | ok items =>
    simp only at ho
    split at ho
    · rename_i hcount
      have hsingle := List.mem_singleton.mp (List.mem_of_getElem? ho)
      rw [hsingle] at hsight
      cases hsight
    · obtain ⟨key', found, σ₂, hentry, hfound, hat⟩ := keyedItems_take_of_observeItems htable ho
      rw [hsight] at hentry
      cases hentry
      have hrun : (c.keyedItemAt ctx n position).runIn σ = (.ok (some ⟨n, c, o.item, key⟩), σ₂) :=
        runIn_bind_eq_ok.mpr ⟨items, σ₁, hitems,
          runIn_bind_eq_ok.mpr ⟨found, σ₂, hfound, by rw [hat]; rfl⟩⟩
      rw [hrun]

end Constraint

namespace Validation

/-! ## The walk -/

/-- The observation is the one at a position of a check. -/
def MadeAt (ctx : Context) (checks : List (Node × Constraint)) (σ : Session) (place : Nat × Nat)
    (o : Observation) : Prop :=
  ∃ n c τ, (withSessions ctx checks σ)[place.1]? = some ((n, c), τ) ∧
    ((c.observe ctx n).run τ).1.observations[place.2]? = some o

theorem Before.succ {p q : Nat × Nat} (h : Before p q) :
    Before (p.1 + 1, p.2) (q.1 + 1, q.2) :=
  h.imp Nat.succ_lt_succ fun ⟨heq, hlt⟩ => ⟨congrArg (· + 1) heq, hlt⟩

/-- The observations of the first check stand at the beginning. -/
theorem forall₂_madeAt_zero (ctx : Context) (n : Node) (c : Constraint)
    (rest : List (Node × Constraint)) (σ : Session) :
    List.Forall₂ (MadeAt ctx ((n, c) :: rest) σ)
      ((List.range ((c.observe ctx n).run σ).1.observations.length).map fun j => (0, j))
      ((c.observe ctx n).run σ).1.observations := by
  refine List.forall₂_iff_get.mpr ⟨by simp, fun j _ hj => ⟨n, c, σ, ?_, ?_⟩⟩
  · simp [withSessions]
  · simp

/-- **What a walk observes has been made at places, one before the other.** -/
theorem exists_places (ctx : Context) (abortOnError : Bool) (checks : List (Node × Constraint))
    (σ : Session) :
    ∃ places : List (Nat × Nat), places.Pairwise Before ∧
      List.Forall₂ (MadeAt ctx checks σ) places
        ((observeAll ctx abortOnError checks).run σ).1.observations := by
  induction checks generalizing σ with
  | nil => exact ⟨[], .nil, .nil⟩
  | cons p rest ih =>
    obtain ⟨n, c⟩ := p
    have hhere := forall₂_madeAt_zero ctx n c rest σ
    have hordered : ((List.range ((c.observe ctx n).run σ).1.observations.length).map
        fun j => ((0, j) : Nat × Nat)).Pairwise Before :=
      List.pairwise_map.mpr (List.pairwise_lt_range.imp fun hlt => .inr ⟨rfl, hlt⟩)
    rw [run_observeAll_cons]
    simp only
    split
    · exact ⟨_, hordered, hhere⟩
    · obtain ⟨places, hpairwise, hlater⟩ := ih ((c.observe ctx n).run σ).2
      refine ⟨_ ++ places.map fun p => (p.1 + 1, p.2), List.pairwise_append.mpr
        ⟨hordered, List.pairwise_map.mpr (hpairwise.imp Before.succ), ?_⟩,
        List.rel_append hhere (List.forall₂_map_left_iff.mpr (hlater.imp fun _ _ h => h))⟩
      rintro p hp q hq
      obtain ⟨j, -, rfl⟩ := List.mem_map.mp hp
      obtain ⟨q', -, rfl⟩ := List.mem_map.mp hq
      exact .inl (Nat.succ_pos _)

/-- What is entered at a place is an item that a constraint selects. -/
theorem exists_occurs_of_madeAt {checks : List (Node × Constraint)} {σ : Session}
    {place : Nat × Nat} {o : Observation} (h : MadeAt ctx checks σ place o) {table : KeyTable}
    {key : Key} (hsight : o.sight = .entry table key) :
    ∃ n τ, SelectedItem.Occurs ctx checks σ
        ⟨⟨n, o.constraint, o.item, key⟩, place.1, τ, place.2⟩ ∧
      o.constraint.table? n = some table := by
  obtain ⟨n, c, τ, hcheck, hat⟩ := h
  obtain ⟨rfl, hsees⟩ := Constraint.sees_of_observe (List.mem_of_getElem? hat)
  have hitem := Constraint.keyedItemAt_of_observe hat hsight
  rw [hsight] at hsees
  exact ⟨n, τ, ⟨hcheck, hitem⟩, Constraint.table?_of_sees hsees⟩

/-! ## The keys -/

/-- A finding about an observation depends on the keys that were seen in front of it. -/
theorem exists_split_of_mem_account {seen : SeenKeys} {os : List Observation} {f : Finding}
    (hf : f ∈ (account seen os).1) :
    ∃ before o after, os = before ++ o :: after ∧
      f ∈ reported? (account seen before).2 o := by
  induction os generalizing seen with
  | nil => exact absurd hf List.not_mem_nil
  | cons o rest ih =>
    rw [account_cons] at hf
    rcases List.mem_append.mp hf with hf | hf
    · exact ⟨[], o, rest, rfl, Option.mem_toList.mp hf⟩
    · obtain ⟨before, o', after, rfl, hreported⟩ := ih hf
      refine ⟨o :: before, o', after, rfl, ?_⟩
      rw [account_cons]
      exact hreported

/-- What is reported of an item with a key names the first item in front of it that has the key. -/
theorem exists_first_of_reported {before : List Observation} {o : Observation} {f : Finding}
    (hf : f ∈ reported? (account [] before).2 o) {table : KeyTable} {key : Key}
    (hsight : o.sight = .entry table key) :
    ∃ first ∈ before, first.sight = .entry table key ∧
      f = o.finding (duplicateMessage table key first.item.display) := by
  rw [reported?.eq_def, hsight] at hf
  obtain ⟨path, hpath, rfl⟩ := Option.map_eq_some_iff.mp hf
  rw [lookup_account_nil] at hpath
  obtain ⟨first, hfirst, rfl⟩ := Option.map_eq_some_iff.mp hpath
  obtain ⟨hmem, henters⟩ := mem_of_firstItem? hfirst
  exact ⟨first, hmem, Observation.enters_iff.mp henters, rfl⟩

/-- Only the keys of items lead to findings of index and uniqueness constraints. -/
theorem exists_entry_of_reported {seen : SeenKeys} {o : Observation} {f : Finding}
    (hf : f ∈ reported? seen o) {n : Node} (hsees : o.constraint.Sees n o.sight)
    (hkind : f.kind = .index ∨ f.kind = .unique) :
    ∃ table key, o.sight = .entry table key := by
  obtain ⟨message, rfl⟩ := exists_of_mem_reported (Option.mem_toList.mpr hf)
  have hconstraint : o.constraint.kind = .index ∨ o.constraint.kind = .unique := hkind
  cases hsight : o.sight with
  | entry table key => exact ⟨table, key, rfl⟩
  | violation message =>
    rw [hsight] at hsees
    cases hsees with
    | violation _ himmediate =>
      rcases hconstraint with h | h <;> rw [h] at himmediate <;> cases himmediate
  | reference index key =>
    rw [reported?.eq_def, hsight] at hf
    cases hf

/-- **Behind a duplicate key there are two items, one before the other.** -/
theorem exists_duplicates_of_mem_account {abortOnError : Bool} {checks : List (Node × Constraint)}
    {σ : Session} {f : Finding}
    (hf : f ∈ (account [] ((observeAll ctx abortOnError checks).run σ).1.observations).1)
    (hkind : f.kind = .index ∨ f.kind = .unique) :
    ∃ first second : SelectedItem, first.Occurs ctx checks σ ∧ second.Occurs ctx checks σ ∧
      first.Precedes second ∧ f.Duplicates first second := by
  obtain ⟨places, hpairwise, hplaces⟩ := exists_places ctx abortOnError checks σ
  obtain ⟨before, o, after, hos, hreported⟩ := exists_split_of_mem_account hf
  rw [hos] at hplaces
  have hearlier := List.forall₂_take_append places before (o :: after) hplaces
  obtain ⟨place, _, hmade, -, hdrop⟩ := List.forall₂_cons_right_iff.mp
    (List.forall₂_drop_append places before (o :: after) hplaces)
  have hmem : o ∈ before ++ o :: after := List.mem_append_right before List.mem_cons_self
  obtain ⟨_, hsees⟩ := exists_sees_of_mem_observeAll (hos ▸ hmem)
  obtain ⟨table, key, hsight⟩ := exists_entry_of_reported hreported hsees hkind
  obtain ⟨o₁, ho₁, hsight₁, rfl⟩ := exists_first_of_reported hreported hsight
  obtain ⟨place₁, hplace₁, hmade₁⟩ := exists_of_forall₂_left hearlier.flip ho₁
  obtain ⟨n₁, τ₁, hfirst, htable₁⟩ := exists_occurs_of_madeAt hmade₁ hsight₁
  obtain ⟨n, τ, hsecond, htable⟩ := exists_occurs_of_madeAt hmade hsight
  have hbefore : Before place₁ place := by
    rw [← List.take_append_drop before.length places, hdrop] at hpairwise
    exact (List.pairwise_append.mp hpairwise).2.2 place₁ hplace₁ place List.mem_cons_self
  exact ⟨_, _, hfirst, hsecond, hbefore, rfl, ⟨table, htable₁, htable, rfl⟩, rfl, rfl, rfl, rfl⟩

end Validation

/-! ## Validation -/

open Validation in
/-- **Behind every duplicate key there are two selected items.** Each finding of an index or
uniqueness constraint is about an item that has the key of another one in the same table, and names
the place of that one; the other one is selected before it, by an earlier check or at an earlier
position. -/
theorem Attachments.validate_duplicates {a : Attachments} {options : ValidationOptions}
    {document : Node} {σ : Session} {r : Report}
    (hr : ((a.validate options ctx document).runIn σ).1 = .ok r) {f : Finding}
    (hf : f ∈ r.findings) (hkind : f.kind = .index ∨ f.kind = .unique) :
    ∃ first second : SelectedItem, first.Occurs ctx (checks a options document) σ ∧
      second.Occurs ctx (checks a options document) σ ∧ first.Precedes second ∧
      f.Duplicates first second := by
  rw [report_of_validate hr] at hf
  rcases List.mem_append.mp hf with hf | hf
  · exact exists_duplicates_of_mem_account hf hkind
  · -- what is found afterwards is about references
    have hreference := kind_of_mem_resolve (fun o ho => exists_sees_of_mem_observeAll ho) hf
    rcases hkind with h | h <;> rw [h] at hreference <;> cases hreference

/-! A room whose only item is selected twice, by an index and by a uniqueness constraint. -/

namespace Node.Sample

def itemTwice : Expression :=
  ⟨"(item, item)", .sequence [.step .model (.name "item"), .step .model (.name "item")]⟩

def selectedTwice : Attachments :=
  ⟨[(1, ⟨0, none, .error, itemTwice, none, none, none, [], .index "stock" [byId]⟩),
    (1, ⟨1, none, .error, itemTwice, none, none, none, [], .unique [byId]⟩)]⟩

def duplicateInIndex : Finding :=
  ⟨none, .index, .error, "/room[1]/item[1]",
    "index 'stock' has duplicate key (b) (first at /room[1]/item[1])"⟩

def duplicateInRoom : Finding :=
  ⟨none, .unique, .error, "/room[1]/item[1]", "duplicate key (b) (first at /room[1]/item[1])"⟩

theorem selectedTwice_report :
    ((selectedTwice.validate {} keptResults roomNode).runIn {}).1
      = .ok ⟨[duplicateInIndex, duplicateInRoom], []⟩ := by
  cbv

end Node.Sample

open Node.Sample in
/-- The item is selected at two positions, and what is reported of the second names the first. -/
theorem validate_duplicates_of_room :
    ∃ first second : SelectedItem,
      first.Occurs keptResults (Validation.checks selectedTwice {} roomNode) {} ∧
      second.Occurs keptResults (Validation.checks selectedTwice {} roomNode) {} ∧
      first.Precedes second ∧ duplicateInRoom.Duplicates first second :=
  Attachments.validate_duplicates selectedTwice_report
    (List.mem_cons_of_mem _ List.mem_cons_self) (.inr rfl)

open Node.Sample in
/-- There is one item in the room, and each constraint reports it as a duplicate of itself. -/
theorem validate_selected_twice :
    ((selectedTwice.validate {} keptResults roomNode).runIn {}).1
        = .ok ⟨[duplicateInIndex, duplicateInRoom], []⟩ ∧
      ∃ item, (selectedTwice.allChecks roomNode).map (fun p =>
          ((p.2.target.evalAt keptResults (.node p.1)).runIn {}).1)
        = [.ok [item, item], .ok [item, item]] :=
  ⟨selectedTwice_report, _, by cbv⟩

end TreePath
