/-
TreePath.Proofs.Constraint.CrossReferences — references and the indexes that they lead to.

What a constraint that uses an index selects at a node are items with keys. A walk over the document
comes upon them one after another, references and entries as they happen to stand, and keeps the
keys of both (`keyedItems_of_observeAll`). Only when it is over are the references looked up, so a
key is missing exactly if no entry of the index has it, wherever that stands
(`isSome_missing?_iff`). A validation without failures therefore reports every reference that
dangles once, and no other (`Attachments.validate_crossReferences`).
-/
import TreePath.Proofs.Constraint.Coherence
import TreePath.Proofs.Constraint.Skipping
import TreePath.Proofs.Tree.DocumentOrder

namespace TreePath

open Eval

/-! ## Items with keys -/

/-- An item that the target of a constraint selects at a node, with its key. -/
structure KeyedItem where
  node : Node
  constraint : Constraint
  item : Item
  key : Key

namespace Constraint

/-- An item with the key that it has for the constraint. -/
def keyedItem (c : Constraint) (ctx : Context) (n : Node) (item : Item) : Eval KeyedItem := do
  return ⟨n, c, item, ← Key.ofFields c.rule.keys ctx item⟩

/-- What the target of the constraint selects at a node, with the keys. -/
def keyedItems (c : Constraint) (ctx : Context) (n : Node) : Eval (List KeyedItem) := do
  let items ← c.target.evalAt ctx (.node n)
  items.mapM (c.keyedItem ctx n)

end Constraint

/-- The items with keys of all constraints that use indexes. The checks of other constraints are
made only for what they leave in the session. -/
def Validation.keyedItems (ctx : Context) : List (Node × Constraint) → Eval (List KeyedItem)
  | [] => return []
  | (n, c) :: rest => do
    if c.kind.usesIndexes then
      let here ← c.keyedItems ctx n
      return here ++ (← keyedItems ctx rest)
    else
      let _ ← ExceptT.lift (c.observe ctx n)
      keyedItems ctx rest

namespace KeyedItem

/-- The item refers to an index in which none of the items has its key. -/
def Dangles (items : List KeyedItem) (i : KeyedItem) : Prop :=
  i.constraint.kind = .indexHasKey ∧ ∀ e ∈ items, e.constraint.kind = .index →
    e.constraint.rule.indexName? = i.constraint.rule.indexName? → e.key ≠ i.key

instance (items : List KeyedItem) (i : KeyedItem) : Decidable (i.Dangles items) :=
  inferInstanceAs (Decidable (_ ∧ _))

end KeyedItem

/-- The finding is about a reference: it shows the constraint and the place of the item, and says
what the constraint would have it say, or else which key is missing in which index. -/
structure Finding.Reports (ctx : Context) (i : KeyedItem) (f : Finding) : Prop where
  id : f.id = i.constraint.id
  kind : f.kind = .indexHasKey
  level : f.level = i.constraint.level
  path : f.path = i.item.display
  rendered : ∀ template, i.constraint.rule.message? = some template →
    ∃ σ, ((template.render ctx i.item).runIn σ).1 = .ok f.message
  plain : i.constraint.rule.message? = none → ∀ name, i.constraint.rule.indexName? = some name →
    f.message = "key " ++ i.key.display ++ " not found in index '" ++ name ++ "'"

/-! ## Checks of constraints that use indexes -/

variable {ctx : Context}

/-- What is seen at an item for the sake of its key. -/
def Rule.sight? (key : Key) : Rule → Option Sight
  | .indexHasKey name _ _ => some (.reference name key)
  | .index name _ => some (.entry (.index name) key)
  | _ => none

/-- The observation is that of the item. -/
structure KeyedItem.Shows (i : KeyedItem) (o : Observation) : Prop where
  constraint : o.constraint = i.constraint
  item : o.item = i.item
  sight : i.constraint.rule.sight? i.key = some o.sight

/-- The item is one of the constraint at the node, and its key is what is seen of it. -/
structure KeyedItem.SeenBy (c : Constraint) (n : Node) (sight : Key → Sight) (i : KeyedItem)
    (o : Observation) : Prop where
  node : i.node = n
  constraint : i.constraint = c
  observation : o = ⟨c, i.item, sight i.key⟩

/-- An item is either entered into an index or looked up in one. -/
theorem KeyedItem.Shows.entry_or_reference {i : KeyedItem} {o : Observation} (h : i.Shows o) :
    (∃ name keys, i.constraint.rule = .index name keys ∧ o.sight = .entry (.index name) i.key) ∨
      ∃ name keys message, i.constraint.rule = .indexHasKey name keys message ∧
        o.sight = .reference name i.key := by
  have hsight := h.sight
  cases hr : i.constraint.rule with
  | index name keys =>
    rw [hr] at hsight
    exact .inl ⟨name, keys, rfl, (Option.some.inj hsight).symm⟩
  | indexHasKey name keys message =>
    rw [hr] at hsight
    exact .inr ⟨name, keys, message, rfl, (Option.some.inj hsight).symm⟩
  | _ => rw [hr] at hsight; cases hsight

namespace Constraint

variable {c : Constraint} {n : Node} {σ σ' : Session}

/-- A constraint that uses indexes sees of every item its key. -/
theorem exists_sight_of_usesIndexes (h : c.kind.usesIndexes = true) :
    ∃ sight : Key → Sight, (∀ key, c.rule.sight? key = some (sight key)) ∧
      ∀ ctx n item,
        c.see ctx n item = do return some (sight (← Key.ofFields c.rule.keys ctx item)) := by
  rw [kind] at h
  cases hr : c.rule with
  | indexHasKey name keys message =>
    exact ⟨.reference name, fun _ => rfl, fun _ _ _ => by rw [see, hr]; rfl⟩
  | index name keys =>
    exact ⟨.entry (.index name), fun _ => rfl, fun _ _ _ => by rw [see, hr]; rfl⟩
  | _ => rw [hr] at h; cases h

/-- The items of a check without failure have keys. If their keys are what the constraint sees of
them, they are observed in order. -/
theorem exists_seenBy_of_observeItems {sight : Key → Sight}
    (hsee : ∀ item, c.see ctx n item
      = do return some (sight (← Key.ofFields c.rule.keys ctx item)))
    {items : List Item} {outcome : Outcome}
    (hrun : (c.observeItems ctx n items).run σ = (outcome, σ')) (hok : outcome.failure = none) :
    ∃ found, (items.mapM (c.keyedItem ctx n)).runIn σ = (.ok found, σ') ∧
      List.Forall₂ (KeyedItem.SeenBy c n sight) found outcome.observations := by
  induction items generalizing σ outcome with
  | nil =>
    cases hrun
    exact ⟨[], rfl, .nil⟩
  | cons item rest ih =>
    rw [Constraint.run_observeItems_cons, hsee, runIn_bind] at hrun
    rcases hkey : (Key.ofFields c.rule.keys ctx item).runIn σ with ⟨r, σ₁⟩
    rw [hkey] at hrun
    cases r with
    | error e =>
      cases hrun
      cases hok
    | ok key =>
      rcases hrest : (c.observeItems ctx n rest).run σ₁ with ⟨outcome', σ₂⟩
      simp only [runIn_pure, hrest] at hrun
      cases hrun
      obtain ⟨found, hfound, hseen⟩ := ih hrest hok
      refine ⟨⟨n, c, item, key⟩ :: found, ?_, .cons ⟨rfl, rfl, rfl⟩ hseen⟩
      rw [List.mapM_cons]
      exact runIn_bind_eq_ok.mpr ⟨_, σ₁, runIn_bind_eq_ok.mpr ⟨key, σ₁, hkey, rfl⟩,
        runIn_bind_eq_ok.mpr ⟨found, σ', hfound, rfl⟩⟩

theorem exists_seenBy_of_observe {sight : Key → Sight}
    (hsee : ∀ item, c.see ctx n item
      = do return some (sight (← Key.ofFields c.rule.keys ctx item)))
    (hkind : c.kind ≠ .cardinality) {outcome : Outcome}
    (hrun : (c.observe ctx n).run σ = (outcome, σ')) (hok : outcome.failure = none) :
    ∃ found, (c.keyedItems ctx n).runIn σ = (.ok found, σ') ∧
      List.Forall₂ (KeyedItem.SeenBy c n sight) found outcome.observations := by
  rw [run_observe] at hrun
  rcases hitems : (c.target.evalAt ctx (.node n)).runIn σ with ⟨r, σ₁⟩
  rw [hitems] at hrun
  cases r with
  | error e =>
    cases hrun
    cases hok
  | ok items =>
    simp only at hrun
    split at hrun
    · rename_i hcount
      exact absurd (kind_of_countViolation? hcount) hkind
    · obtain ⟨found, hfound, hseen⟩ := exists_seenBy_of_observeItems hsee hrun hok
      exact ⟨found, runIn_bind_eq_ok.mpr ⟨items, σ₁, hitems, hfound⟩, hseen⟩

theorem keyedItems_of_observe (h : c.kind.usesIndexes = true) {outcome : Outcome}
    (hrun : (c.observe ctx n).run σ = (outcome, σ')) (hok : outcome.failure = none) :
    ∃ found, (c.keyedItems ctx n).runIn σ = (.ok found, σ') ∧
      List.Forall₂ KeyedItem.Shows found outcome.observations := by
  obtain ⟨sight, hsight, hsee⟩ := exists_sight_of_usesIndexes h
  have hkind : c.kind ≠ .cardinality := fun hk => by rw [hk] at h; cases h
  obtain ⟨found, hfound, hseen⟩ := exists_seenBy_of_observe (hsee ctx n) hkind hrun hok
  refine ⟨found, hfound, hseen.imp fun i o hi => ?_⟩
  obtain ⟨-, rfl, rfl⟩ := hi
  exact ⟨rfl, rfl, hsight i.key⟩

end Constraint

/-! ## The walk -/

namespace Validation

/-- Checks of constraints without indexes see nothing that has to do with one. -/
theorem indexKey?_eq_none {c : Constraint} {n : Node} {σ : Session}
    (h : c.kind.usesIndexes = false) {o : Observation}
    (ho : o ∈ ((c.observe ctx n).run σ).1.observations) : indexKey? o = none := by
  obtain ⟨-, hsees⟩ := Constraint.sees_of_observe ho
  cases hk : indexKey? o with
  | none => rfl
  | some k =>
    obtain ⟨name, -, hrule⟩ := exists_indexName?_of_sees hsees hk
    rw [Constraint.kind, Rule.usesIndexes_kind hrule] at h
    cases h

theorem isSome_indexKey? {i : KeyedItem} {o : Observation} (h : i.Shows o) :
    (indexKey? o).isSome = true := by
  rw [indexKey?.eq_def]
  obtain ⟨name, keys, -, hsight⟩ | ⟨name, keys, message, -, hsight⟩ := h.entry_or_reference
  · rw [hsight]; rfl
  · rw [hsight]; rfl

/-- **A walk without failures comes upon all items with keys.** What it observes of indexes are
these items, in order. -/
theorem keyedItems_of_observeAll {abortOnError : Bool} {checks : List (Node × Constraint)}
    {σ σ' : Session} {os : List Observation}
    (hrun : (observeAll ctx abortOnError checks).run σ = (⟨os, []⟩, σ')) :
    ∃ items, (keyedItems ctx checks).runIn σ = (.ok items, σ') ∧
      List.Forall₂ KeyedItem.Shows items (os.filter fun o => (indexKey? o).isSome) := by
  induction checks generalizing σ os with
  | nil =>
    cases hrun
    exact ⟨[], rfl, .nil⟩
  | cons p rest ih =>
    obtain ⟨n, c⟩ := p
    obtain ⟨here, σ₁, later, hobserve, hrest, rfl⟩ := observeAll_cons_eq_ok hrun
    obtain ⟨items, hitems, hshows⟩ := ih hrest
    rw [keyedItems, List.filter_append]
    -- only the checks of constraints that use indexes show in what is kept of the observations
    cases huses : c.kind.usesIndexes with
    | true =>
      obtain ⟨found, hfound, hhere⟩ := Constraint.keyedItems_of_observe huses hobserve rfl
      refine ⟨found ++ items, runIn_bind_eq_ok.mpr ⟨found, σ₁, hfound,
        runIn_bind_eq_ok.mpr ⟨items, σ', hitems, rfl⟩⟩, ?_⟩
      have hkept : here.filter (fun o => (indexKey? o).isSome) = here :=
        List.filter_eq_self.mpr fun o ho => by
          obtain ⟨i, -, hi⟩ := exists_of_forall₂_left (List.Forall₂.flip hhere) ho
          exact isSome_indexKey? hi
      rw [hkept]
      exact List.rel_append hhere hshows
    | false =>
      refine ⟨items, runIn_bind_eq_ok.mpr ⟨⟨here, none⟩, σ₁, ?_, hitems⟩, ?_⟩
      · rw [runIn_lift, hobserve]
      · have hnone : here.filter (fun o => (indexKey? o).isSome) = [] :=
          List.filter_eq_nil_iff.mpr fun o ho => by
            have ho : o ∈ ((c.observe ctx n).run σ).1.observations := by rwa [hobserve]
            simp [indexKey?_eq_none huses ho]
        rw [hnone]
        exact hshows

/-! ## The look-up -/

/-- The observation of an item with a key enters it if the constraint is one of the index. -/
theorem enters_iff_of_shows {e : KeyedItem} {o : Observation} (h : e.Shows o) (name : String)
    (key : Key) : o.enters (.index name, key) = true ↔
      e.constraint.kind = .index ∧ e.constraint.rule.indexName? = some name ∧ e.key = key := by
  rw [Observation.enters_iff, Constraint.kind]
  obtain ⟨name', keys, hr, hsight⟩ | ⟨name', keys, message, hr, hsight⟩ := h.entry_or_reference
  · simp [hr, hsight, Rule.kind, Rule.indexName?]
  · simp [hr, hsight, Rule.kind]

/-- An index has the keys of its items, wherever they stand. -/
theorem exists_enters_iff {items : List KeyedItem} {os : List Observation}
    (hshows : List.Forall₂ KeyedItem.Shows items (os.filter fun o => (indexKey? o).isSome))
    (name : String) (key : Key) :
    (∃ o ∈ os, o.enters (.index name, key) = true) ↔ ∃ e ∈ items, e.constraint.kind = .index ∧
      e.constraint.rule.indexName? = some name ∧ e.key = key := by
  constructor
  · rintro ⟨o, ho, henters⟩
    have hkey : (indexKey? o).isSome = true := by
      rw [indexKey?.eq_def, Observation.enters_iff.mp henters]
      rfl
    obtain ⟨e, he, hsh⟩ :=
      exists_of_forall₂_left (List.Forall₂.flip hshows) (List.mem_filter.mpr ⟨ho, hkey⟩)
    exact ⟨e, he, (enters_iff_of_shows hsh name key).mp henters⟩
  · rintro ⟨e, he, hindex⟩
    obtain ⟨o, ho, hsh⟩ := exists_of_forall₂_left hshows he
    exact ⟨o, (List.mem_filter.mp ho).1, (enters_iff_of_shows hsh name key).mpr hindex⟩

/-- **The key of a reference is missing exactly if the reference dangles.** -/
theorem isSome_missing?_iff {items : List KeyedItem} {os : List Observation}
    (hshows : List.Forall₂ KeyedItem.Shows items (os.filter fun o => (indexKey? o).isSome))
    {i : KeyedItem} {o : Observation} (h : i.Shows o) :
    (missing? (account [] os).2 o).isSome = true ↔ i.Dangles items := by
  rw [isSome_missing?, KeyedItem.Dangles, Constraint.kind]
  obtain ⟨name, keys, hr, hsight⟩ | ⟨name, keys, message, hr, hsight⟩ := h.entry_or_reference
  · simp [hr, hsight, Rule.kind]
  · have hlookup : (account [] os).2.lookup (.index name, i.key) = none ↔ ¬ ∃ e ∈ items,
        e.constraint.kind = .index ∧ e.constraint.rule.indexName? = some name ∧ e.key = i.key := by
      rw [← exists_enters_iff hshows, ← isSome_lookup_account_nil, Option.not_isSome_iff_eq_none]
    rw [hr, hsight]
    constructor
    · rintro ⟨name', key, heq, hnone⟩
      cases heq
      exact ⟨rfl, fun e he hkind hname hkey => hlookup.mp hnone ⟨e, he, hkind, hname, hkey⟩⟩
    · rintro ⟨-, hall⟩
      refine ⟨name, i.key, rfl, hlookup.mpr ?_⟩
      rintro ⟨e, he, hkind, hname, hkey⟩
      exact hall e he hkind hname hkey

/-- What is said of a missing key is a report on the reference. -/
theorem reports_of_missing {i : KeyedItem} {o : Observation} (h : i.Shows o) {keys : SeenKeys}
    {k : String × Key} (hmissing : missing? keys o = some k) {σ σ' : Session} {message : String}
    (hmessage : (missingMessage ctx o k.1 k.2).runIn σ = (.ok message, σ')) :
    (o.finding message).Reports ctx i := by
  obtain ⟨hreference, -⟩ := missing?_eq_some hmissing
  obtain ⟨name, keys', -, hsight⟩ | ⟨name, keys', message?, hr, hsight⟩ := h.entry_or_reference
  · rw [hsight] at hreference
    cases hreference
  obtain ⟨hname, hkey⟩ := Sight.reference.inj (hsight.symm.trans hreference)
  rw [missingMessage, h.constraint, h.item, ← hname, ← hkey] at hmessage
  refine ⟨?_, ?_, ?_, ?_, fun template htemplate => ?_, fun hplain index hindex => ?_⟩
  · rw [Observation.finding, h.constraint]
  · rw [Observation.finding, h.constraint, Constraint.kind, hr]; rfl
  · rw [Observation.finding, h.constraint]
  · rw [Observation.finding, h.item]
  · rw [htemplate] at hmessage
    exact ⟨σ, congrArg Prod.fst hmessage⟩
  · rw [hplain] at hmessage
    rw [hr] at hindex
    cases hindex
    cases hmessage
    rfl

/-- A look-up without failures has a message for a missing key, and goes on. -/
theorem resolve_cons_eq_ok {abortOnError : Bool} {keys : SeenKeys} {o : Observation}
    {rest : List Observation} {k : String × Key} (hmissing : missing? keys o = some k) {σ : Session}
    {found : List Finding}
    (hrun : ((resolve ctx abortOnError keys (o :: rest)).run σ).1 = ⟨found, []⟩) :
    ∃ message σ' found', (missingMessage ctx o k.1 k.2).runIn σ = (.ok message, σ') ∧
      ((resolve ctx abortOnError keys rest).run σ').1 = ⟨found', []⟩ ∧
      found = o.finding message :: found' := by
  rw [run_resolve_cons hmissing] at hrun
  rcases hmessage : (missingMessage ctx o k.1 k.2).runIn σ with ⟨r, σ'⟩
  rw [hmessage] at hrun
  cases r with
  | error e => cases abortOnError <;> cases hrun
  | ok message =>
    rcases hrest : ((resolve ctx abortOnError keys rest).run σ').1 with ⟨found', errors⟩
    simp only [hrest] at hrun
    cases hrun
    exact ⟨message, σ', found', rfl, hrest, rfl⟩

/-- **The look-up reports the references that dangle, each of them once and in order.** -/
theorem reports_of_resolve {abortOnError : Bool} {keys : SeenKeys} {all items : List KeyedItem}
    {os : List Observation}
    (hkeys : ∀ (i : KeyedItem) (o : Observation), i.Shows o →
      ((missing? keys o).isSome = true ↔ i.Dangles all))
    (hshows : List.Forall₂ KeyedItem.Shows items (os.filter fun o => (indexKey? o).isSome))
    {σ : Session} {found : List Finding}
    (hrun : ((resolve ctx abortOnError keys os).run σ).1 = ⟨found, []⟩) :
    List.Forall₂ (Finding.Reports ctx) (items.filter fun i => i.Dangles all) found := by
  -- the items that are left follow the observations, `all` stays what the whole walk came upon
  induction os generalizing items σ found with
  | nil =>
    cases hshows
    cases hrun
    exact .nil
  | cons o rest ih =>
    cases hkey : (indexKey? o).isSome with
    | false =>
      rw [List.filter_cons_of_neg (by simp [hkey])] at hshows
      have hnone : missing? keys o = none := by
        cases hm : missing? keys o with
        | none => rfl
        | some k =>
          rw [indexKey?.eq_def, (missing?_eq_some hm).1] at hkey
          cases hkey
      rw [resolve_cons_of_none hnone] at hrun
      exact ih hshows hrun
    | true =>
      rw [List.filter_cons_of_pos (by simp [hkey])] at hshows
      cases hshows with
      | @cons i _ items' _ hi hshows =>
      cases hm : missing? keys o with
      | none =>
        have hnot : ¬ i.Dangles all := fun hd => by
          have := (hkeys i o hi).mpr hd
          rw [hm] at this
          cases this
        rw [resolve_cons_of_none hm] at hrun
        rw [List.filter_cons_of_neg (by simpa using hnot)]
        exact ih hshows hrun
      | some k =>
        have hd : i.Dangles all := (hkeys i o hi).mp (by rw [hm]; rfl)
        rw [List.filter_cons_of_pos (by simpa using hd)]
        obtain ⟨message, σ', found', hmessage, hrest, rfl⟩ := resolve_cons_eq_ok hm hrun
        exact .cons (reports_of_missing hi hm hmessage) (ih hshows hrest)

/-- What a walk observes is seen by constraints at nodes. -/
theorem sees_of_observeAll {abortOnError : Bool} {checks : List (Node × Constraint)}
    {σ σ' : Session} {os : List Observation}
    (hrun : (observeAll ctx abortOnError checks).run σ = (⟨os, []⟩, σ')) :
    ∀ o ∈ os, ∃ n, o.constraint.Sees n o.sight :=
  fun o ho => exists_sees_of_mem_observeAll (s := σ) (by rwa [hrun])

end Validation

/-! ## Validation -/

namespace Attachments

open Validation

/-- The constraints of all nodes, none of them skipped. -/
def allChecks (a : Attachments) (document : Node) : List (Node × Constraint) :=
  (nodes document).flatMap fun n => (a.inOrder n.definition.id).map fun c => (n, c)

theorem checks_debug (a : Attachments) (abortOnError : Bool) (document : Node) :
    checks a ⟨abortOnError, .debug⟩ document = a.allChecks document := by
  rw [checks, allChecks]
  refine List.flatMap_congr fun n _ => ?_
  rw [List.filter_eq_self.mpr fun c _ => decide_eq_true (debug_le c.level)]

/-- **References do not depend on where an index is filled.** A validation that skips nothing and in
which nothing fails reports each reference that dangles once, and no other. -/
theorem validate_crossReferences {a : Attachments} {abortOnError : Bool} {document : Node}
    {σ : Session} {r : Report}
    (hr : ((a.validate ⟨abortOnError, .debug⟩ ctx document).runIn σ).1 = .ok r)
    (hok : r.errors = []) :
    ∃ items, ((keyedItems ctx (a.allChecks document)).runIn σ).1 = .ok items ∧
      List.Forall₂ (Finding.Reports ctx) (items.filter fun i => i.Dangles items)
        (r.findingsOf .indexHasKey) := by
  obtain ⟨os, σ₁, found, hwalk, hresolve, hfindings⟩ := exists_of_validate_eq_ok hr hok
  rw [checks_debug] at hwalk
  obtain ⟨items, hitems, hshows⟩ := keyedItems_of_observeAll hwalk
  have hreports := reports_of_resolve (fun i o => isSome_missing?_iff hshows) hshows hresolve
  refine ⟨items, congrArg Prod.fst hitems, ?_⟩
  -- the kind tells what the look-up reports from what has been reported before
  have hbefore : (account [] os).1.filter (fun f => f.kind == .indexHasKey) = [] :=
    List.filter_eq_nil_iff.mpr fun f hf => by
      simpa using kind_of_mem_account (sees_of_observeAll hwalk) hf
  have hafter : found.filter (fun f => f.kind == .indexHasKey) = found :=
    List.filter_eq_self.mpr fun f hf => by
      obtain ⟨i, -, hi⟩ := exists_of_forall₂_left (List.Forall₂.flip hreports) hf
      simp [hi.kind]
  rw [Report.findingsOf, hfindings, List.filter_append, hbefore, hafter]
  exact hreports

end Attachments

/-! A room whose items have to be on a shelf. The shelves make up the index, and come later. -/

namespace Node.Sample

def itemsHere : Expression := ⟨"item", .step .model (.name "item")⟩

def itemsBelow : Expression := ⟨".//item", .path .contextItem (.step .model (.name "item")) true⟩

def byId : KeyField := ⟨⟨"@id", .step .flag (.name "id")⟩, none, none⟩

def shelved : Attachments :=
  ⟨[(1, ⟨0, some "shelved", .warning, itemsBelow, none, none, none, [],
      .indexHasKey "stock" [byId] none⟩),
    (3, ⟨1, none, .error, itemsHere, none, none, none, [], .index "stock" [byId]⟩)]⟩

def keptResults : Context := ⟨{ now := (⟨.first, .midnight⟩, .utc) }, ⟨[]⟩, true⟩

end Node.Sample

open Node.Sample in
/-- Of the three items only the one that is on no shelf is reported. -/
theorem validate_crossReferences_of_room :
    ∃ items, ((Validation.keyedItems keptResults (shelved.allChecks roomNode)).runIn {}).1
        = .ok items ∧
      List.Forall₂ (Finding.Reports keptResults) (items.filter fun i => i.Dangles items)
        [⟨some "shelved", .indexHasKey, .warning, "/room[1]/item[1]",
          "key (b) not found in index 'stock'"⟩] := by
  have hr : ((shelved.validate ⟨true, .debug⟩ keptResults roomNode).runIn {}).1
      = .ok ⟨[⟨some "shelved", .indexHasKey, .warning, "/room[1]/item[1]",
          "key (b) not found in index 'stock'"⟩], []⟩ := by
    cbv
  exact Attachments.validate_crossReferences hr rfl

/-! ## Keys on their own -/

section

variable {P : Item → Prop} {InOrder : Session → Prop}

theorem Rule.mem_expressions_of_keys {r : Rule} {e : Expression} (h : e ∈ r.keys.map (·.target)) :
    e ∈ r.expressions := by
  cases r with
  | indexHasKey name keys message => exact List.mem_append_left _ h
  | index name keys => exact h
  | unique keys => exact h
  | _ => exact absurd h List.not_mem_nil

theorem Constraint.keyedItems_agrees (hctx : ctx.Steady P InOrder) {c : Constraint}
    (hc : c.Known P) {n : Node} (hn : P (.node n)) :
    Same InOrder (c.keyedItems ctx n) (c.keyedItems ctx.uncached n) := by
  have htarget := Expression.evalAt_agrees hctx (hc c.target List.mem_cons_self) hn
  refine .bind htarget fun items hi => ?_
  refine .mono (Related.mapM (R := fun _ => True) fun item hitem => ?_) fun _ _ => trivial
  exact .bind (Key.ofFields_agrees hctx
    (fun e he => hc e (List.mem_cons_of_mem _ (Rule.mem_expressions_of_keys he))) (hi item hitem))
    fun _ _ => .pure trivial

/-- The items of one check, without the cache and in a session that starts. -/
def Validation.itemsOf (ctx : Context) (p : Node × Constraint) : Except Error (List KeyedItem) :=
  ((p.2.keyedItems ctx.uncached p.1).runIn {}).1

/-- Where evaluations do not depend on the session, neither does a walk. -/
theorem Validation.keyedItems_eq (hctx : ctx.Steady P InOrder)
    {checks : List (Node × Constraint)} (h : ∀ p ∈ checks, P (.node p.1) ∧ p.2.Known P)
    {σ : Session} (hσ : InOrder σ) :
    ((keyedItems ctx checks).runIn σ).1 =
      ((checks.filter fun p => p.2.kind.usesIndexes).mapM (itemsOf ctx)).map List.flatten := by
  induction checks generalizing σ with
  | nil => rfl
  | cons p rest ih =>
    obtain ⟨n, c⟩ := p
    obtain ⟨hn, hc⟩ := h (n, c) List.mem_cons_self
    have hrest := fun σ hσ => @ih (fun q hq => h q (List.mem_cons_of_mem _ hq)) σ hσ
    rw [keyedItems]
    cases huses : c.kind.usesIndexes with
    | true =>
      rw [List.filter_cons_of_pos (by simp [huses]), List.mapM_cons]
      obtain ⟨heq, hσ₁, -⟩ := Constraint.keyedItems_agrees hctx hc hn σ {} hσ
      have hown : itemsOf ctx (n, c) = ((c.keyedItems ctx n).runIn σ).1 := heq.symm
      rw [if_pos rfl, runIn_bind, hown]
      rcases hhere : (c.keyedItems ctx n).runIn σ with ⟨r, σ₁⟩
      rw [show (c.keyedItems ctx n).runIn σ = (r, σ₁) from hhere] at hσ₁
      cases r with
      | error e => rfl
      | ok here =>
        have hlater := hrest σ₁ hσ₁
        simp only [runIn_bind]
        rcases hrun : (keyedItems ctx rest).runIn σ₁ with ⟨r, σ₂⟩
        rw [hrun] at hlater
        cases hown : (rest.filter fun p => p.2.kind.usesIndexes).mapM (itemsOf ctx) with
        | error e => rw [hown] at hlater; cases hlater; rfl
        | ok later => rw [hown] at hlater; cases hlater; rfl
    | false =>
      rw [List.filter_cons_of_neg (by simp [huses])]
      obtain ⟨-, hσ₁, -⟩ := Constraint.observe_agrees hctx hc hn σ {} hσ
      exact hrest _ hσ₁

end

/-- **Where evaluations do not depend on what the session holds, every item has a key of its own.**
The items of a document are those that each constraint selects at its node, evaluated on its own. -/
theorem Attachments.Repeatable.keyedItems_eq {a : Attachments} {document : Node} {σ : Session}
    (h : a.Repeatable ctx document σ) :
    ((Validation.keyedItems ctx (a.allChecks document)).runIn σ).1 =
      (((a.allChecks document).filter fun p => p.2.kind.usesIndexes).mapM
        (Validation.itemsOf ctx)).map List.flatten := by
  obtain ⟨P, InOrder, hctx, hknown, hdocument, hσ⟩ := h.exists_steady
  refine Validation.keyedItems_eq hctx ?_ hσ
  rw [← Attachments.checks_debug a true]
  exact Attachments.known_of_mem_checks hctx hknown _ hdocument

end TreePath
