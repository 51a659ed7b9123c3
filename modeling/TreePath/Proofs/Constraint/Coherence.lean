/-
TreePath.Proofs.Constraint.Coherence — what the observations of a document have in common.

Every observation was made by a constraint that is attached, and shows the kind of that constraint:
only index constraints fill indexes, only index-has-key constraints look up keys, and the table of a
uniqueness constraint at a node is filled by that constraint alone. So the findings about references
can be told from all others by their kind.
-/
import TreePath.Proofs.Constraint.Keys
import TreePath.Proofs.Constraint.Report

namespace TreePath

/-- What constraints of the kind find depends on the keys that indexes hold. -/
def ConstraintKind.usesIndexes : ConstraintKind → Bool
  | index | indexHasKey => true
  | _ => false

/-- The index that a rule fills or looks up keys in. -/
def Rule.indexName? : Rule → Option String
  | index name _ | indexHasKey name _ _ => some name
  | _ => none

theorem Rule.usesIndexes_kind {r : Rule} {name : String} (h : r.indexName? = some name) :
    r.kind.usesIndexes = true := by
  cases r <;> first | rfl | cases h

namespace Validation

variable {o : Observation} {os : List Observation} {seen : SeenKeys} {k : KeyTable × Key}

/-! ## Constraints and sights -/

/-- Constraints that are told apart by their identities made the observations. -/
structure Coherent (os : List Observation) : Prop where
  sees : ∀ o ∈ os, ∃ n, o.constraint.Sees n o.sight
  identified : ∀ o ∈ os, ∀ o' ∈ os, o.constraint.identity = o'.constraint.identity →
    o.constraint = o'.constraint

/-- Only index-has-key constraints look up keys, and they do nothing else. -/
theorem kind_eq_indexHasKey_iff {n : Node} (hsees : o.constraint.Sees n o.sight) :
    o.constraint.kind = .indexHasKey ↔ ∃ index key, o.sight = .reference index key := by
  constructor
  · intro hkind
    cases hsight : o.sight with
    | reference index key => exact ⟨index, key, rfl⟩
    | violation message =>
      rw [hsight] at hsees
      cases hsees with
      | violation message himmediate =>
        rw [hkind] at himmediate
        cases himmediate
    | entry table key =>
      rw [hsight] at hsees
      rw [Constraint.kind] at hkind
      cases hsees with
      | index key hrule => rw [hrule] at hkind; cases hkind
      | unique key hrule => rw [hrule] at hkind; cases hkind
  · rintro ⟨index, key, hsight⟩
    rw [hsight] at hsees
    cases hsees with
    | reference key hrule => rw [Constraint.kind, hrule]; rfl

theorem Coherent.kind_eq_indexHasKey_iff (hos : Coherent os) (ho : o ∈ os) :
    o.constraint.kind = .indexHasKey ↔ ∃ index key, o.sight = .reference index key := by
  obtain ⟨n, hsees⟩ := hos.sees o ho
  exact Validation.kind_eq_indexHasKey_iff hsees

/-- The keys of a node are entered by one constraint. -/
theorem Coherent.constraint_eq (hos : Coherent os) {o' : Observation} (ho : o ∈ os) (ho' : o' ∈ os)
    {id : ConstraintId} {tree : TreeId} {address : List Step} {key key' : Key}
    (h : o.sight = .entry (.unique id tree address) key)
    (h' : o'.sight = .entry (.unique id tree address) key') : o.constraint = o'.constraint := by
  obtain ⟨n, hsees⟩ := hos.sees o ho
  obtain ⟨n', hsees'⟩ := hos.sees o' ho'
  have hid : id = o.constraint.identity := by
    rw [h] at hsees
    cases hsees
    rfl
  have hid' : id = o'.constraint.identity := by
    rw [h'] at hsees'
    cases hsees'
    rfl
  exact hos.identified o ho o' ho' (hid.symm.trans hid')

/-! ## Keys of indexes -/

/-- The key that an observation enters into an index or looks up in one. -/
def indexKey? (o : Observation) : Option (KeyTable × Key) :=
  match o.sight with
  | .entry (.index name) key | .reference name key => some (.index name, key)
  | _ => none

/-- Such a key is one of the index that the rule of the constraint names. -/
theorem exists_indexName?_of_sees {c : Constraint} {n : Node}
    (h : c.Sees n o.sight) (hk : k ∈ indexKey? o) :
    ∃ name, k.1 = .index name ∧ c.rule.indexName? = some name := by
  rw [indexKey?.eq_def] at hk
  cases hsight : o.sight with
  | violation message => rw [hsight] at hk; cases hk
  | reference name key =>
    rw [hsight] at h hk
    cases hk
    cases h with
    | reference key hrule => exact ⟨name, rfl, by rw [hrule]; rfl⟩
  | entry table key =>
    rw [hsight] at h hk
    cases h with
    | index key hrule => cases hk; exact ⟨_, rfl, by rw [hrule]; rfl⟩
    | unique key hrule => cases hk

theorem Coherent.usesIndexes (hos : Coherent os) (ho : o ∈ os) (hk : k ∈ indexKey? o) :
    o.constraint.kind.usesIndexes = true := by
  obtain ⟨n, hsees⟩ := hos.sees o ho
  obtain ⟨name, -, hrule⟩ := exists_indexName?_of_sees hsees hk
  exact Rule.usesIndexes_kind hrule

/-! ## Kinds of findings -/

/-- Nothing that an index-has-key constraint finds is found before all keys are known. -/
theorem kind_of_mem_account (hsees : ∀ o ∈ os, ∃ n, o.constraint.Sees n o.sight) {f : Finding}
    (hf : f ∈ (account seen os).1) : f.kind ≠ .indexHasKey := by
  obtain ⟨o, ho, hnot, message, rfl⟩ := exists_of_mem_account hf
  intro hkind
  obtain ⟨n, hn⟩ := hsees o ho
  obtain ⟨index, key, hsight⟩ := (kind_eq_indexHasKey_iff hn).mp hkind
  exact hnot index key hsight

theorem Coherent.kind_of_mem_account (hos : Coherent os) {f : Finding}
    (hf : f ∈ (account seen os).1) : f.kind ≠ .indexHasKey :=
  Validation.kind_of_mem_account hos.sees hf

/-- What is found afterwards is about references, whatever fails. -/
theorem kind_of_mem_resolve (hsees : ∀ o ∈ os, ∃ n, o.constraint.Sees n o.sight) {ctx : Context}
    {abortOnError : Bool} {s : Session} {f : Finding}
    (hf : f ∈ ((resolve ctx abortOnError seen os).run s).1.findings) : f.kind = .indexHasKey := by
  obtain ⟨o, ho, m, message, hmissing, rfl⟩ := exists_missing_of_mem_resolve hf
  obtain ⟨n, hn⟩ := hsees o ho
  exact (Validation.kind_eq_indexHasKey_iff hn).mpr ⟨m.1, m.2, (missing?_eq_some hmissing).1⟩

/-- What is found afterwards is all about references. -/
theorem Coherent.kind_of_missingFinding (hos : Coherent os) (ho : o ∈ os) {ctx : Context}
    {keys : SeenKeys} {m : String × Key} (hmissing : missing? keys o = some m) {f : Finding}
    (hf : missingFinding ctx o m = .ok f) : f.kind = .indexHasKey := by
  obtain ⟨message, rfl⟩ := exists_of_missingFinding hf
  exact (hos.kind_eq_indexHasKey_iff ho).mpr ⟨m.1, m.2, (missing?_eq_some hmissing).1⟩

theorem Coherent.kind_of_mem_references (hos : Coherent os) {ctx : Context} {keys : SeenKeys}
    {found : List Finding} (h : references ctx keys os = found.map .ok) :
    ∀ f ∈ found, f.kind = .indexHasKey := by
  intro f hf
  have hmem : Except.ok f ∈ references ctx keys os := h ▸ List.mem_map_of_mem hf
  obtain ⟨o, ho, hsome⟩ := List.mem_filterMap.mp hmem
  obtain ⟨m, hmissing, hfinding⟩ := Option.map_eq_some_iff.mp hsome
  exact hos.kind_of_missingFinding ho hmissing hfinding

/-- Findings of references can be told from others. -/
theorem append_eq_append_of_kind {as as' bs bs' : List Finding}
    (has : ∀ f ∈ as, f.kind ≠ .indexHasKey) (hbs : ∀ f ∈ bs, f.kind = .indexHasKey)
    (has' : ∀ f ∈ as', f.kind ≠ .indexHasKey) (hbs' : ∀ f ∈ bs', f.kind = .indexHasKey)
    (h : as ++ bs = as' ++ bs') : as = as' ∧ bs = bs' := by
  have hfilter : ∀ {as bs : List Finding}, (∀ f ∈ as, f.kind ≠ .indexHasKey) →
      (∀ f ∈ bs, f.kind = .indexHasKey) →
        (as ++ bs).filter (fun f => f.kind != .indexHasKey) = as := by
    intro as bs has hbs
    rw [List.filter_append, List.filter_eq_self.mpr fun f hf => by simpa using has f hf,
      List.filter_eq_nil_iff.mpr fun f hf => by simpa using hbs f hf, List.append_nil]
  have heq : as = as' := by rw [← hfilter has hbs, h, hfilter has' hbs']
  exact ⟨heq, List.append_cancel_left (heq ▸ h)⟩

end Validation

/-! ## Documents -/

namespace Attachments

open Validation

variable {a : Attachments} {ctx : Context} {document : Node}

/-- Constraints are told apart by their identities. -/
def Identified (a : Attachments) : Prop :=
  ∀ e ∈ a.entries, ∀ e' ∈ a.entries, e.2.identity = e'.2.identity → e.2 = e'.2

/-- All that is observed in a document when nothing is skipped. -/
def observations (a : Attachments) (ctx : Context) (document : Node) : List Observation :=
  observed ctx.uncached (checks a {} document)

/-- Only constraints that are attached observe anything. -/
theorem exists_of_mem_observations {o : Observation} (ho : o ∈ a.observations ctx document) :
    ∃ e ∈ a.entries, e.2 = o.constraint ∧ ∃ n, e.2.Sees n o.sight := by
  obtain ⟨n, hcheck, hsees⟩ := exists_of_mem_observed ho
  obtain ⟨e, he, heq⟩ := exists_of_mem_inOrder (mem_checks.mp hcheck).2.1
  exact ⟨e, he, heq, n, heq ▸ hsees⟩

theorem Identified.coherent (ha : a.Identified) (ctx : Context) (document : Node) :
    Coherent (a.observations ctx document) := by
  constructor
  · intro o ho
    obtain ⟨e, -, heq, n, hsees⟩ := exists_of_mem_observations ho
    rw [← heq]
    exact ⟨n, hsees⟩
  · intro o ho o' ho' hid
    obtain ⟨e, he, heq, -⟩ := exists_of_mem_observations ho
    obtain ⟨e', he', heq', -⟩ := exists_of_mem_observations ho'
    rw [← heq, ← heq'] at hid ⊢
    exact ha e he e' he' hid

end Attachments

end TreePath
