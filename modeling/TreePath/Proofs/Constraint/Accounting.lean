/-
TreePath.Proofs.Constraint.Accounting — how many duplicates a table has.

Every item with a key is entered into one table: that of an index, which all constraints of its name
fill wherever they stand, or that of a uniqueness constraint at one node. A walk comes upon the
items of all tables as they happen to stand, and keeps one list of keys for all of them. What it
finds of one table is nevertheless what that table reports on its own, of its items in the order in
which they are selected (`Validation.exists_reports_of_account`). So the books of every table
balance: its findings and its distinct keys are together as many as its items, and each finding
names the place of the first item with the key (`Attachments.validate_accounting`).
-/
import TreePath.Proofs.Constraint.Duplicates
import TreePath.Proofs.Constraint.Violations

namespace TreePath

open Eval

/-! ## The books of a table -/

/-- Items of constraints of the kind are entered into tables. -/
def ConstraintKind.fillsTables : ConstraintKind → Bool
  | index | unique => true
  | _ => false

namespace KeyedItem

/-- The item is entered into the table. -/
def Fills (table : KeyTable) (i : KeyedItem) : Prop := i.constraint.table? i.node = some table

instance (table : KeyTable) : DecidablePred (Fills table) :=
  fun i => inferInstanceAs (Decidable (i.constraint.table? i.node = some table))

/-- The finding that the table has the key of the item already, with the item that came first. -/
def duplicate (table : KeyTable) (i first : KeyedItem) : Finding :=
  i.constraint.finding i.item (Validation.duplicateMessage table i.key first.item.display)

/-- The first of the items with the key. -/
def first? (items : List KeyedItem) (key : Key) : Option KeyedItem :=
  items.find? fun i => i.key == key

/-- The keys that items have among them. -/
def keys (items : List KeyedItem) : Finset Key := (items.map (·.key)).toFinset

theorem isSome_first?_iff {items : List KeyedItem} {key : Key} :
    (first? items key).isSome = true ↔ key ∈ keys items := by
  simp [first?, keys, List.find?_isSome]

theorem first?_concat (items : List KeyedItem) (i : KeyedItem) (key : Key) :
    first? (items ++ [i]) key
      = if i.key = key then some ((first? items key).getD i) else first? items key := by
  rw [first?, List.find?_append, ← first?, List.find?_singleton]
  cases first? items key <;> simp

/-- An item is entered into one table. -/
theorem Fills.fills_iff {table : KeyTable} {i : KeyedItem} (h : i.Fills table) (table' : KeyTable) :
    i.Fills table' ↔ table = table' := by
  rw [Fills] at h ⊢
  rw [h, Option.some.injEq]

theorem Fills.filter_concat {table : KeyTable} {i : KeyedItem} (h : i.Fills table)
    (items : List KeyedItem) (table' : KeyTable) :
    (items ++ [i]).filter (·.Fills table') = if table = table' then
      items.filter (·.Fills table') ++ [i] else items.filter (·.Fills table') := by
  rw [List.filter_append, List.filter_singleton]
  by_cases htable : table = table'
  · rw [if_pos htable, decide_eq_true ((h.fills_iff table').mpr htable)]
    rfl
  · rw [if_neg htable, decide_eq_false fun hi => htable ((h.fills_iff table').mp hi)]
    exact List.append_nil _

theorem keys_concat (items : List KeyedItem) (i : KeyedItem) :
    keys (items ++ [i]) = insert i.key (keys items) := by
  ext key
  simp [keys]

/-- With one more item there is one more key, unless an item has it already. -/
theorem card_keys_concat (items : List KeyedItem) (i : KeyedItem) :
    (keys (items ++ [i])).card + (first? items i.key).toList.length = (keys items).card + 1 := by
  have hmem : (first? items i.key).isSome = true ↔ i.key ∈ keys items := isSome_first?_iff
  rw [keys_concat]
  cases hfirst : first? items i.key with
  | none =>
    rw [hfirst] at hmem
    rw [Finset.card_insert_of_notMem fun h => Bool.false_ne_true (hmem.mpr h)]
    rfl
  | some first =>
    rw [hfirst] at hmem
    rw [Finset.insert_eq_of_mem (hmem.mp rfl)]
    rfl

end KeyedItem

namespace KeyTable

open KeyedItem

variable {table : KeyTable}

/-- What the table reports on an item when it has the items `before`: that it is a duplicate, with
the finding about it. -/
def report? (table : KeyTable) (before : List KeyedItem) (i : KeyedItem) :
    Option (KeyedItem × Finding) :=
  (first? before i.key).map fun first => (i, i.duplicate table first)

/-- What the table reports on items that are entered one after another. -/
def reportsFrom (table : KeyTable) (before : List KeyedItem) :
    List KeyedItem → List (KeyedItem × Finding)
  | [] => []
  | i :: rest => (table.report? before i).toList ++ table.reportsFrom (before ++ [i]) rest

/-- What the table reports on its items in order. -/
def reports (table : KeyTable) (items : List KeyedItem) : List (KeyedItem × Finding) :=
  table.reportsFrom [] items

/-- The table accounts for its items by findings about some of them. -/
structure Accounts (table : KeyTable) (items : List KeyedItem)
    (found : List (KeyedItem × Finding)) : Prop where
  /-- An item is reported if one in front of it has its key. -/
  reported : found = table.reports items
  /-- Of all items that have one key, all but one are reported. -/
  balanced : found.length + (keys items).card = items.length
  /-- What is reported names the first of all items that have the key. -/
  cited : ∀ p ∈ found, ∃ first, first? items p.1.key = some first ∧
    p.2 = p.1.duplicate table first

theorem mem_report? {before : List KeyedItem} {i : KeyedItem} {p : KeyedItem × Finding}
    (hp : p ∈ (table.report? before i).toList) :
    ∃ first, first? before i.key = some first ∧ p = (i, i.duplicate table first) := by
  obtain ⟨first, hfirst, rfl⟩ := Option.map_eq_some_iff.mp (Option.mem_toList.mp hp)
  exact ⟨first, hfirst, rfl⟩

theorem length_report? (before : List KeyedItem) (i : KeyedItem) :
    (table.report? before i).toList.length = (first? before i.key).toList.length := by
  rw [report?]
  cases first? before i.key <;> rfl

theorem exists_first_of_mem_reportsFrom {before items : List KeyedItem} {p : KeyedItem × Finding}
    (hp : p ∈ table.reportsFrom before items) :
    ∃ first, first? (before ++ items) p.1.key = some first ∧ p.2 = p.1.duplicate table first := by
  induction items generalizing before with
  | nil => exact absurd hp List.not_mem_nil
  | cons i rest ih =>
    rcases List.mem_append.mp hp with hp | hp
    · obtain ⟨first, hfirst, rfl⟩ := mem_report? hp
      refine ⟨first, ?_, rfl⟩
      rw [first?] at hfirst ⊢
      rw [List.find?_append, hfirst]
      rfl
    · rw [List.append_cons]
      exact ih hp

/-- Every item brings a new key or a finding. -/
theorem length_reportsFrom (before items : List KeyedItem) :
    (table.reportsFrom before items).length + (keys (before ++ items)).card
      = (keys before).card + items.length := by
  induction items generalizing before with
  | nil => simp [reportsFrom]
  | cons i rest ih =>
    have hrest := ih (before ++ [i])
    have hhere := card_keys_concat before i
    rw [← List.append_cons] at hrest
    rw [reportsFrom, List.length_append, List.length_cons, length_report?]
    omega

/-- What is reported on an item belongs to the table that it is entered into. -/
theorem filter_report? {i : KeyedItem} (h : i.Fills table) (before : List KeyedItem)
    (table' : KeyTable) : (table.report? before i).toList.filter (·.1.Fills table')
      = if table = table' then (table.report? before i).toList else [] := by
  have hitem : ∀ p ∈ (table.report? before i).toList, p.1.Fills table' ↔ table = table' := by
    intro p hp
    obtain ⟨first, -, rfl⟩ := mem_report? hp
    exact h.fills_iff table'
  split
  · rename_i htable
    exact List.filter_eq_self.mpr fun p hp => decide_eq_true ((hitem p hp).mpr htable)
  · rename_i htable
    exact List.filter_eq_nil_iff.mpr fun p hp hfills =>
      htable ((hitem p hp).mp (of_decide_eq_true hfills))

/-- **The books of a table balance.** -/
theorem accounts_reports (table : KeyTable) (items : List KeyedItem) :
    table.Accounts items (table.reports items) where
  reported := rfl
  balanced := (length_reportsFrom [] items).trans (Nat.zero_add _)
  cited := fun _ hp => exists_first_of_mem_reportsFrom hp

end KeyTable

/-! ## The entries of a walk -/

variable {ctx : Context}

/-- The observation is that the item is entered into its table. -/
structure KeyedItem.Enters (i : KeyedItem) (o : Observation) : Prop where
  constraint : o.constraint = i.constraint
  item : o.item = i.item
  sight : ∃ table, i.Fills table ∧ o.sight = .entry table i.key

/-- The observation enters an item into a table. -/
def Observation.isEntry (o : Observation) : Bool :=
  match o.sight with
  | .entry _ _ => true
  | _ => false

theorem KeyedItem.Enters.isEntry {i : KeyedItem} {o : Observation} (h : i.Enters o) :
    o.isEntry = true := by
  obtain ⟨table, -, hsight⟩ := h.sight
  rw [Observation.isEntry, hsight]

theorem KeyedItem.Enters.finding {i : KeyedItem} {o : Observation} (h : i.Enters o)
    (message : String) : o.finding message = i.constraint.finding i.item message := by
  rw [Observation.finding, h.constraint, h.item]
  rfl

/-- Constraints of the kinds that fill tables see entries, and no others do. -/
theorem Constraint.Sees.fillsTables_kind {n : Node} {o : Observation}
    (h : o.constraint.Sees n o.sight) : o.constraint.kind.fillsTables = o.isEntry := by
  rw [Observation.isEntry, Constraint.kind]
  cases hsight : o.sight with
  | violation message =>
    rw [hsight] at h
    cases h with
    | violation _ himmediate =>
      rw [Constraint.kind] at himmediate
      cases hr : o.constraint.rule <;> rw [hr] at himmediate <;> first | rfl | cases himmediate
  | entry table key =>
    rw [hsight] at h
    cases h with
    | index key hr => rw [hr]; rfl
    | unique key hr => rw [hr]; rfl
  | reference index key =>
    rw [hsight] at h
    cases h with
    | reference key hr => rw [hr]; rfl

namespace Constraint

variable {c : Constraint} {n : Node} {σ σ' : Session}

/-- A check without failure enters the items that the target selects, if they go into a table. -/
theorem enters_of_observe {table : KeyTable} (h : c.table? n = some table) {outcome : Outcome}
    (hrun : (c.observe ctx n).run σ = (outcome, σ')) (hok : outcome.failure = none) :
    ∃ found, ((c.keyedItems ctx n).runIn σ).1 = .ok found ∧
      (∀ i ∈ found, i.node = n ∧ i.constraint = c) ∧
      List.Forall₂ KeyedItem.Enters found outcome.observations := by
  have hkind : c.kind ≠ .cardinality := by
    intro hk
    rw [kind] at hk
    rw [table?.eq_def] at h
    cases hr : c.rule with
    | cardinality least most => rw [hr] at h; cases h
    | _ => rw [hr] at hk; cases hk
  obtain ⟨found, hfound, hseen⟩ :=
    exists_seenBy_of_observe (see_of_table? h ctx) hkind hrun hok
  refine ⟨found, congrArg Prod.fst hfound, fun i hi => ?_, hseen.imp fun i o hi => ?_⟩
  · obtain ⟨o, -, ho⟩ := exists_of_forall₂_left hseen hi
    exact ⟨ho.node, ho.constraint⟩
  · obtain ⟨rfl, rfl, rfl⟩ := hi
    exact ⟨rfl, rfl, table, h, rfl⟩

theorem isEntry_eq_false_of_observe (h : c.table? n = none) {outcome : Outcome}
    (hrun : (c.observe ctx n).run σ = (outcome, σ')) {o : Observation}
    (ho : o ∈ outcome.observations) : o.isEntry = false := by
  obtain ⟨-, hsees⟩ := sees_of_observe (s := σ) (by rw [hrun]; exact ho)
  rw [Observation.isEntry]
  cases hsight : o.sight with
  | entry table key =>
    rw [hsight] at hsees
    rw [table?_of_sees hsees] at h
    cases h
  | violation message => rfl
  | reference index key => rfl

end Constraint

namespace Validation

/-- The items are those that the check selects in its session, with their keys. -/
structure Selects (ctx : Context) (check : (Node × Constraint) × Session)
    (items : List KeyedItem) : Prop where
  selected : ((check.1.2.keyedItems ctx check.1.1).runIn check.2).1 = .ok items
  mem : ∀ i ∈ items, i.node = check.1.1 ∧ i.constraint = check.1.2

theorem map_fst_withSessions (ctx : Context) (checks : List (Node × Constraint)) (σ : Session) :
    (withSessions ctx checks σ).map (·.1) = checks := by
  induction checks generalizing σ with
  | nil => rfl
  | cons p rest ih => exact congrArg (p :: ·) (ih _)

/-- **A walk without failures enters what its checks select**, check after check. -/
theorem exists_occurrences_of_observeAll {abortOnError : Bool} {checks : List (Node × Constraint)}
    {σ σ' : Session} {os : List Observation}
    (hrun : (observeAll ctx abortOnError checks).run σ = (⟨os, []⟩, σ')) :
    ∃ occurrences, List.Forall₂ (Selects ctx)
        ((withSessions ctx checks σ).filter fun p => (p.1.2.table? p.1.1).isSome) occurrences ∧
      List.Forall₂ KeyedItem.Enters occurrences.flatten
        (os.filter (·.isEntry)) := by
  induction checks generalizing σ os with
  | nil =>
    cases hrun
    exact ⟨[], .nil, .nil⟩
  | cons p rest ih =>
    obtain ⟨n, c⟩ := p
    obtain ⟨here, σ₁, later, hobserve, hrest, rfl⟩ := observeAll_cons_eq_ok hrun
    obtain ⟨occurrences, hselects, henters⟩ := ih hrest
    have hsession : ((c.observe ctx n).run σ).2 = σ₁ := by rw [hobserve]
    rw [withSessions, hsession, List.filter_append]
    cases htable : c.table? n with
    | some table =>
      obtain ⟨found, hfound, hmem, hhere⟩ := Constraint.enters_of_observe htable hobserve rfl
      have hkept : here.filter (·.isEntry) = here :=
        List.filter_eq_self.mpr fun o ho => by
          obtain ⟨i, -, hi⟩ := exists_of_forall₂_left hhere.flip ho
          exact hi.isEntry
      rw [List.filter_cons_of_pos (by simp [htable]), hkept]
      exact ⟨found :: occurrences, .cons ⟨hfound, hmem⟩ hselects, List.rel_append hhere henters⟩
    | none =>
      have hnone : here.filter (·.isEntry) = [] :=
        List.filter_eq_nil_iff.mpr fun o ho => by
          simp [Constraint.isEntry_eq_false_of_observe htable hobserve ho]
      rw [List.filter_cons_of_neg (by simp [htable]), hnone]
      exact ⟨occurrences, hselects, henters⟩

/-- The items of one table are what the checks select that fill it. -/
theorem exists_occurrences_of_table {checks : List ((Node × Constraint) × Session)}
    {occurrences : List (List KeyedItem)} (h : List.Forall₂ (Selects ctx) checks occurrences)
    (table : KeyTable) :
    ∃ those, List.Forall₂ (Selects ctx)
        (checks.filter fun p => p.1.2.table? p.1.1 = some table) those ∧
      those.flatten = occurrences.flatten.filter (·.Fills table) := by
  induction h with
  | nil => exact ⟨[], .nil, rfl⟩
  | @cons p items checks occurrences hp _ ih =>
    obtain ⟨those, hthose, hflatten⟩ := ih
    have hfills : ∀ i ∈ items, i.Fills table ↔ p.1.2.table? p.1.1 = some table := by
      intro i hi
      obtain ⟨hnode, hconstraint⟩ := hp.mem i hi
      rw [KeyedItem.Fills, hnode, hconstraint]
    rw [List.flatten_cons, List.filter_append, ← hflatten]
    by_cases htable : p.1.2.table? p.1.1 = some table
    · refine ⟨items :: those, ?_, ?_⟩
      · rw [List.filter_cons_of_pos (by simpa using htable)]
        exact .cons hp hthose
      · rw [List.filter_eq_self.mpr fun i hi => decide_eq_true ((hfills i hi).mpr htable)]
        rfl
    · refine ⟨those, ?_, ?_⟩
      · rw [List.filter_cons_of_neg (by simpa using htable)]
        exact hthose
      · rw [List.filter_eq_nil_iff.mpr fun i hi h =>
          htable ((hfills i hi).mp (of_decide_eq_true h))]
        rfl

/-! ## The findings of a walk -/

theorem SeenKeys.after_of_isEntry_eq_false (seen : SeenKeys) {o : Observation}
    (h : o.isEntry = false) : seen.after o = seen := by
  rw [Observation.isEntry.eq_def] at h
  rw [after.eq_def]
  cases hsight : o.sight with
  | entry table key => rw [hsight] at h; cases h
  | violation message => rfl
  | reference index key => rfl

/-- Only entries lead to findings of the kinds that fill tables. -/
theorem account_filter_fillsTables {seen : SeenKeys} {os : List Observation}
    (hsees : ∀ o ∈ os, ∃ n, o.constraint.Sees n o.sight) :
    (account seen os).1.filter (fun f => f.kind.fillsTables)
      = (account seen (os.filter (·.isEntry))).1 := by
  induction os generalizing seen with
  | nil => rfl
  | cons o rest ih =>
    obtain ⟨⟨n, hn⟩, hrest⟩ := List.forall_mem_cons.mp hsees
    have hreported : ∀ f ∈ (reported? seen o).toList, f.kind.fillsTables = o.isEntry := by
      intro f hf
      obtain ⟨message, rfl⟩ := exists_of_mem_reported hf
      exact hn.fillsTables_kind
    rw [account_cons, List.filter_append, ih hrest]
    cases hentry : o.isEntry with
    | true =>
      rw [hentry] at hreported
      rw [List.filter_cons_of_pos hentry, account_cons, List.filter_eq_self.mpr hreported]
    | false =>
      rw [hentry] at hreported
      rw [List.filter_cons_of_neg (Bool.eq_false_iff.mp hentry),
        SeenKeys.after_of_isEntry_eq_false seen hentry,
        List.filter_eq_nil_iff.mpr fun f hf => Bool.eq_false_iff.mp (hreported f hf)]
      rfl

/-- The keys seen so far are those of the items so far, each with the place of the first. -/
def SeenKeys.Records (seen : SeenKeys) (items : List KeyedItem) : Prop :=
  ∀ table key, seen.lookup (table, key)
    = (KeyedItem.first? (items.filter (·.Fills table)) key).map (·.item.display)

theorem SeenKeys.Records.concat {seen : SeenKeys} {items : List KeyedItem}
    (h : seen.Records items) {i : KeyedItem} {o : Observation} (ho : i.Enters o) :
    (seen.after o).Records (items ++ [i]) := by
  intro table key
  obtain ⟨table', hfills, hsight⟩ := ho.sight
  have henters : o.enters (table, key) = true ↔ table' = table ∧ i.key = key := by
    rw [Observation.enters_iff, hsight, Sight.entry.injEq]
  rw [SeenKeys.lookup_after, h table key, hfills.filter_concat]
  by_cases htable : table' = table
  · rw [if_pos htable, KeyedItem.first?_concat]
    by_cases hkey : i.key = key
    · rw [if_pos (henters.mpr ⟨htable, hkey⟩), if_pos hkey, ho.item]
      cases KeyedItem.first? (items.filter (·.Fills table)) key <;> rfl
    · rw [if_neg fun he => hkey (henters.mp he).2, if_neg hkey]
  · rw [if_neg fun he => htable (henters.mp he).1, if_neg htable]

/-- What is reported about the observation of an item is what its table reports. -/
theorem SeenKeys.Records.reported {seen : SeenKeys} {before : List KeyedItem}
    (h : seen.Records before) {i : KeyedItem} {o : Observation} (ho : i.Enters o)
    {table : KeyTable} (hfills : i.Fills table) :
    reported? seen o = (table.report? (before.filter (·.Fills table)) i).map (·.2) := by
  obtain ⟨table', hfills', hsight⟩ := ho.sight
  obtain rfl := (hfills.fills_iff table').mp hfills'
  rw [reported?, hsight, KeyTable.report?, Option.map_map]
  simp only [h table i.key, Option.map_map, ho.finding]
  rfl

/-- **What a walk finds of a table is what the table reports on its own.** -/
theorem exists_reports_of_account {seen : SeenKeys} {before items : List KeyedItem}
    {os : List Observation} (hseen : seen.Records before)
    (h : List.Forall₂ KeyedItem.Enters items os) :
    ∃ found : List (KeyedItem × Finding), found.map (·.2) = (account seen os).1 ∧
      (∀ p ∈ found, p.1 ∈ items ∧ p.1.constraint.kind = p.2.kind) ∧
      ∀ table, found.filter (·.1.Fills table)
        = KeyTable.reportsFrom table (before.filter (·.Fills table))
            (items.filter (·.Fills table)) := by
  induction h generalizing seen before with
  | nil => exact ⟨[], rfl, fun p hp => absurd hp List.not_mem_nil, fun table => rfl⟩
  | @cons i o items os ho _ ih =>
    obtain ⟨found, hfound, hmem, hreports⟩ := ih (hseen.concat ho)
    obtain ⟨table, hfills, -⟩ := ho.sight
    refine ⟨(table.report? (before.filter (·.Fills table)) i).toList ++ found, ?_, ?_,
      fun table' => ?_⟩
    · rw [List.map_append, ← Option.toList_map, ← hseen.reported ho hfills, hfound, account_cons]
    · intro p hp
      rcases List.mem_append.mp hp with hp | hp
      · obtain ⟨first, -, rfl⟩ := KeyTable.mem_report? hp
        exact ⟨List.mem_cons_self, rfl⟩
      · exact ⟨List.mem_cons_of_mem _ (hmem p hp).1, (hmem p hp).2⟩
    · rw [List.filter_append, hreports, hfills.filter_concat, KeyTable.filter_report? hfills]
      by_cases htable : table = table'
      · subst htable
        rw [if_pos rfl, if_pos rfl, List.filter_cons_of_pos (by simpa using hfills)]
        rfl
      · -- another table has neither the item nor what is reported on it
        have hother : ¬ i.Fills table' := fun h => htable ((hfills.fills_iff table').mp h)
        rw [if_neg htable, if_neg htable, List.filter_cons_of_neg (by simpa using hother)]
        rfl

/-- **A walk without failures accounts for every table.** -/
theorem exists_accounts_of_observeAll {abortOnError : Bool} {checks : List (Node × Constraint)}
    {σ σ' : Session} {os : List Observation}
    (hrun : (observeAll ctx abortOnError checks).run σ = (⟨os, []⟩, σ')) :
    ∃ found : List (KeyedItem × Finding),
      found.map (·.2) = (account [] os).1.filter (fun f => f.kind.fillsTables) ∧
      (∀ p ∈ found, (p.1.node, p.1.constraint) ∈ checks ∧ p.1.constraint.kind = p.2.kind) ∧
      ∀ table, ∃ occurrences, List.Forall₂ (Selects ctx)
          ((withSessions ctx checks σ).filter fun p => p.1.2.table? p.1.1 = some table)
          occurrences ∧
        table.Accounts occurrences.flatten (found.filter (·.1.Fills table)) := by
  obtain ⟨occurrences, hselects, henters⟩ := exists_occurrences_of_observeAll hrun
  have hstart : SeenKeys.Records [] [] := fun _ _ => rfl
  obtain ⟨found, hfound, hmem, hreports⟩ := exists_reports_of_account hstart henters
  refine ⟨found, ?_, fun p hp => ?_, fun table => ?_⟩
  · rw [account_filter_fillsTables (sees_of_observeAll hrun), hfound]
  · obtain ⟨hitem, hkind⟩ := hmem p hp
    obtain ⟨items, hitems, hi⟩ := List.mem_flatten.mp hitem
    obtain ⟨check, hcheck, hselected⟩ := exists_of_forall₂_left hselects.flip hitems
    obtain ⟨hnode, hconstraint⟩ := hselected.mem p.1 hi
    have hchecks := List.mem_map_of_mem (f := Prod.fst) (List.mem_filter.mp hcheck).1
    rw [map_fst_withSessions] at hchecks
    rw [hnode, hconstraint]
    exact ⟨hchecks, hconstraint ▸ hkind⟩
  · obtain ⟨those, hthose, hflatten⟩ := exists_occurrences_of_table hselects table
    have hfills : ∀ p ∈ withSessions ctx checks σ,
        (decide (p.1.2.table? p.1.1 = some table) && (p.1.2.table? p.1.1).isSome)
          = decide (p.1.2.table? p.1.1 = some table) := by
      intro p _
      by_cases h : p.1.2.table? p.1.1 = some table <;> simp [h]
    rw [List.filter_filter, List.filter_congr hfills] at hthose
    refine ⟨those, hthose, ?_⟩
    rw [hreports, hflatten]
    exact table.accounts_reports _

end Validation

/-! ## Validation -/

namespace Attachments

open Validation

variable {a : Attachments} {F : Forest} {document : Node}

/-- The table of a uniqueness constraint at a node is filled by that constraint at that node. -/
theorem eq_of_table?_eq_unique (hF : F.Built) (ha : a.Unrepeated) (hdocument : document.Within F)
    {n n' : Node} {c c' : Constraint} (h : (n, c) ∈ a.allChecks document)
    (h' : (n', c') ∈ a.allChecks document)
    (htable : c'.table? n' = some (.unique c.identity n.tree n.address)) : (n', c') = (n, c) := by
  obtain ⟨hreaches, -, hentry⟩ := (mem_allChecks hF hdocument).mp h
  obtain ⟨hreaches', -, hentry'⟩ := (mem_allChecks hF hdocument).mp h'
  rw [Constraint.table?.eq_def] at htable
  cases hr : c'.rule with
  | unique keys =>
    rw [hr] at htable
    obtain ⟨hidentity, htree, haddress⟩ := KeyTable.unique.inj (Option.some.inj htable)
    -- there is one node at that place, and it has one definition
    obtain rfl : n' = n := (hreaches'.within hdocument).eq_of_same hF (hreaches.within hdocument)
      (by simp [Node.same, htree, haddress])
    rw [ha.eq_of_identity_eq hentry' hentry hidentity]
  | _ => rw [hr] at htable; cases htable

/-- That table is filled in one check. -/
theorem filter_table?_eq_unique (hF : F.Built) (ha : a.Unrepeated) (hdocument : document.Within F)
    {σ τ : Session} {n : Node} {c : Constraint}
    (h : ((n, c), τ) ∈ withSessions ctx (a.allChecks document) σ) (hkind : c.kind = .unique) :
    (withSessions ctx (a.allChecks document) σ).filter
        (fun p => p.1.2.table? p.1.1 = some (.unique c.identity n.tree n.address))
      = [((n, c), τ)] := by
  have hfst := map_fst_withSessions ctx (a.allChecks document) σ
  have hchecks := hfst ▸ nodup_allChecks hF hdocument ha.nodup
  have hmem : ∀ p ∈ withSessions ctx (a.allChecks document) σ, p.1 ∈ a.allChecks document :=
    fun p hp => hfst ▸ List.mem_map_of_mem hp
  have htable : c.table? n = some (.unique c.identity n.tree n.address) := by
    rw [Constraint.kind] at hkind
    rw [Constraint.table?.eq_def]
    cases hr : c.rule <;> rw [hr] at hkind <;> first | rfl | cases hkind
  refine List.perm_singleton.mp ((List.perm_ext_iff_of_nodup (hchecks.of_map.filter _)
    (List.nodup_singleton _)).mpr fun p => ?_)
  rw [List.mem_filter, List.mem_singleton, decide_eq_true_iff]
  constructor
  · rintro ⟨hp, hptable⟩
    exact List.inj_on_of_nodup_map hchecks hp h
      (eq_of_table?_eq_unique hF ha hdocument (hmem _ h) (hmem p hp) hptable)
  · rintro rfl
    exact ⟨h, htable⟩

/-- What is found in a document is accounted for, when `found` are the findings about keys, each
with the item that is a duplicate. -/
structure Accounted (a : Attachments) (ctx : Context) (document : Node) (σ : Session)
    (findings : List Finding) (found : List (KeyedItem × Finding)) : Prop where
  /-- All findings of index and uniqueness constraints are there, in order. -/
  complete : found.map (·.2) = findings.filter fun f => f.kind.fillsTables
  /-- They are about items of the constraints that are checked. -/
  checked : ∀ p ∈ found, (p.1.node, p.1.constraint) ∈ a.allChecks document ∧
    p.1.constraint.kind = p.2.kind
  /-- An index accounts for the items of all constraints of its name, in the order in which the walk
  comes to them. -/
  index : ∀ name, ∃ occurrences, List.Forall₂ (Selects ctx)
      ((withSessions ctx (a.allChecks document) σ).filter
        fun p => p.1.2.table? p.1.1 = some (.index name)) occurrences ∧
    (KeyTable.index name).Accounts occurrences.flatten (found.filter (·.1.Fills (.index name)))
  /-- The table of a uniqueness constraint accounts for what the constraint selects at the node. -/
  unique : ∀ n c, document.Reaches n → n.kind ≠ .document → (n.definition.id, c) ∈ a.entries →
    c.kind = .unique → ∃ τ occurrences, ((n, c), τ) ∈ withSessions ctx (a.allChecks document) σ ∧
      Selects ctx ((n, c), τ) occurrences ∧
      (KeyTable.unique c.identity n.tree n.address).Accounts occurrences
        (found.filter (·.1.Fills (.unique c.identity n.tree n.address)))

/-- **The books of every table balance.** In a validation that skips nothing and in which nothing
fails, each index has as many findings as items were entered into it anywhere in the document, less
the number of their distinct keys; so has each uniqueness constraint at each node that it is checked
at, of the items that it selects there. Every finding names the place of the first item, in the
order in which they are selected, that has the key. -/
theorem validate_accounting (hF : F.Built) (ha : a.Unrepeated) (hdocument : document.Within F)
    {abortOnError : Bool} {σ : Session} {r : Report}
    (hr : ((a.validate ⟨abortOnError, .debug⟩ ctx document).runIn σ).1 = .ok r)
    (hok : r.errors = []) : ∃ found, a.Accounted ctx document σ r.findings found := by
  obtain ⟨os, σ₁, missing, hwalk, hresolve, hfindings⟩ := exists_of_validate_eq_ok hr hok
  rw [checks_debug] at hwalk
  obtain ⟨found, hfound, hchecked, haccounts⟩ := exists_accounts_of_observeAll hwalk
  refine ⟨found, ?_, hchecked, fun name => haccounts _, fun n c hreaches hdoc hentry hkind => ?_⟩
  · have hafter : missing.filter (fun f => f.kind.fillsTables) = [] :=
      List.filter_eq_nil_iff.mpr fun f hf => by
        rw [kind_of_mem_resolve (sees_of_observeAll hwalk) (s := σ₁) (by rw [hresolve]; exact hf)]
        decide
    rw [hfindings, List.filter_append, hafter, List.append_nil, hfound]
  · have hcheck := (mem_allChecks hF hdocument).mpr ⟨hreaches, hdoc, hentry⟩
    rw [← map_fst_withSessions ctx (a.allChecks document) σ] at hcheck
    obtain ⟨⟨_, τ⟩, hwith, rfl⟩ := List.mem_map.mp hcheck
    obtain ⟨those, hthose, hbooks⟩ := haccounts (.unique c.identity n.tree n.address)
    rw [filter_table?_eq_unique hF ha hdocument hwith hkind] at hthose
    obtain ⟨items, _, hitems, hnone, rfl⟩ := List.forall₂_cons_left_iff.mp hthose
    cases hnone
    rw [List.flatten_singleton] at hbooks
    exact ⟨τ, items, hwith, hitems, hbooks⟩

end Attachments

/-! A room in which an index is filled from the room and from its shelves, and the items of a shelf
are to be unique although they are selected twice. -/

namespace Node.Sample

def stocked : Attachments :=
  ⟨[(1, ⟨0, some "all", .error, itemsBelow, none, none, none, [], .index "stock" [byId]⟩),
    (3, ⟨1, none, .warning, itemsHere, none, none, none, [], .index "stock" [byId]⟩),
    (3, ⟨2, none, .error, itemTwice, none, none, none, [], .unique [byId]⟩)]⟩

def stocktaking : List Finding :=
  [⟨none, .index, .warning, "/room[1]/shelf[1]/item[1]",
      "index 'stock' has duplicate key (a) (first at /room[1]/shelf[1]/item[1])"⟩,
    ⟨none, .index, .warning, "/room[1]/shelf[1]/item[2]",
      "index 'stock' has duplicate key (()) (first at /room[1]/shelf[1]/item[2])"⟩,
    ⟨none, .unique, .error, "/room[1]/shelf[1]/item[1]",
      "duplicate key (a) (first at /room[1]/shelf[1]/item[1])"⟩,
    ⟨none, .unique, .error, "/room[1]/shelf[1]/item[2]",
      "duplicate key (()) (first at /room[1]/shelf[1]/item[2])"⟩]

end Node.Sample

open Node.Sample in
/-- The index has five items with three keys, and the table of the first shelf four with two. -/
theorem validate_accounting_of_room :
    ((stocked.validate ⟨true, .debug⟩ keptResults roomNode).runIn {}).1 = .ok ⟨stocktaking, []⟩ ∧
      ∃ found, stocked.Accounted keptResults roomNode {} stocktaking found := by
  have hr : ((stocked.validate ⟨true, .debug⟩ keptResults roomNode).runIn {}).1
      = .ok ⟨stocktaking, []⟩ := by
    cbv
  have hunrepeated : stocked.Unrepeated := by
    rw [Attachments.Unrepeated]
    decide
  exact ⟨hr, Attachments.validate_accounting built_rooms hunrepeated within_rooms hr rfl⟩

end TreePath
