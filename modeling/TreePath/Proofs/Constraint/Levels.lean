/-
TreePath.Proofs.Constraint.Levels — what raising the reporting level changes.

Constraints below the least level are skipped: they report nothing, and they fill no index either.
So a validation with a higher level filters the findings, except where keys are involved: a key that
a skipped constraint entered first is missing afterwards. A reference to it leads nowhere
(`validate_index_skipped`), and an item that was its duplicate is the first one now. Findings of
all other kinds are filtered whatever the constraints are, and all findings are filtered exactly if
no key of an index that matters was first entered by a skipped constraint
(`Attachments.validate_leastLevel`).
-/
import Mathlib
import TreePath.Proofs.Constraint.Coherence
import TreePath.Proofs.Constraint.Skipping

namespace TreePath

namespace Validation

variable {level : Level} {o : Observation} {os rest : List Observation} {seen seen' : SeenKeys}
  {k : KeyTable × Key}

/-! ## Keys that count -/

/-- No key that is entered into an index or looked up there at or above the level was first entered
below the level. -/
def FirstEnteredFrom (level : Level) (os : List Observation) : Prop :=
  ∀ o ∈ os, level ≤ o.constraint.level → ∀ k ∈ indexKey? o,
    ∀ first ∈ firstItem? os k, level ≤ first.constraint.level

/-- Among the keys that are entered at or above the level, those that were first entered below it
are keys of indexes. -/
theorem Coherent.first_or_index (hos : Coherent os) (ho : o ∈ os)
    (hlevel : level ≤ o.constraint.level) (henters : o.enters k = true) :
    (∀ first ∈ firstItem? os k, level ≤ first.constraint.level) ∨ k ∈ indexKey? o := by
  have hsight := Observation.enters_iff.mp henters
  obtain ⟨table, key⟩ := k
  cases table with
  | index name =>
    right
    rw [indexKey?.eq_def, hsight]
    rfl
  | unique id tree address =>
    left
    intro first hfirst
    obtain ⟨hmem, hfirstEnters⟩ := mem_of_firstItem? hfirst
    rw [← hos.constraint_eq ho hmem hsight (Observation.enters_iff.mp hfirstEnters)]
    exact hlevel

/-! ## Findings without skipped constraints -/

theorem Coherent.of_atLeast (hos : Coherent os) (level : Level) : Coherent (atLeast level os) where
  sees o ho := hos.sees o (mem_atLeast.mp ho).1
  identified o ho o' ho' :=
    hos.identified o (mem_atLeast.mp ho).1 o' (mem_atLeast.mp ho').1

/-- In front of the references, findings of kinds that do not use indexes are filtered. -/
theorem Coherent.account_filter_kind (hos : Coherent os) (level : Level) :
    (account [] (atLeast level os)).1.filter (fun f => !f.kind.usesIndexes)
      = (findingsAtLeast level (account [] os).1).filter fun f => !f.kind.usesIndexes := by
  refine account_atLeast (W := fun k => ∀ first ∈ firstItem? os k, level ≤ first.constraint.level)
    (fun o ho hlevel k henters => ?_) (fun k hk _ => hk) fun k _ => rfl
  refine (hos.first_or_index ho hlevel henters).imp_right fun hindex message => ?_
  have huses : (o.finding message).kind.usesIndexes = true := hos.usesIndexes ho hindex
  rw [huses]
  rfl

/-- **Findings of kinds that do not use indexes are filtered**, whatever comes of the references. -/
theorem Coherent.findings_filter_kind (hos : Coherent os) {ctx : Context}
    (hctx : ctx.caching = false) {keys : SeenKeys} {found : List Finding}
    (hfound : references ctx (account [] os).2 os = found.map .ok) (level : Level)
    (abortOnError : Bool) (s : Session) :
    ((account [] (atLeast level os)).1
        ++ ((resolve ctx abortOnError keys (atLeast level os)).run s).1.findings).filter
          (fun f => !f.kind.usesIndexes)
      = (findingsAtLeast level ((account [] os).1 ++ found)).filter
          fun f => !f.kind.usesIndexes := by
  have hnil : ∀ {fs : List Finding}, (∀ f ∈ fs, f.kind = .indexHasKey) →
      fs.filter (fun f => !f.kind.usesIndexes) = [] := by
    intro fs hfs
    exact List.filter_eq_nil_iff.mpr fun f hf => by rw [hfs f hf]; decide
  have hresolved : ∀ f ∈ ((resolve ctx abortOnError keys (atLeast level os)).run s).1.findings,
      f.kind = .indexHasKey := by
    intro f hf
    obtain ⟨o, ho, m, hmissing, hfinding⟩ := exists_of_mem_resolve hctx hf
    exact (hos.of_atLeast level).kind_of_missingFinding ho hmissing hfinding
  have hskipped : ∀ f ∈ findingsAtLeast level found, f.kind = .indexHasKey :=
    fun f hf => hos.kind_of_mem_references hfound f (mem_findingsAtLeast.mp hf).1
  rw [findingsAtLeast_append, List.filter_append, List.filter_append, hnil hresolved, hnil hskipped,
    hos.account_filter_kind]

/-- References at or above the level find their keys without the skipped constraints. -/
theorem FirstEnteredFrom.missing?_eq (h : FirstEnteredFrom level os) (ho : o ∈ os)
    (hlevel : level ≤ o.constraint.level) :
    missing? (account [] (atLeast level os)).2 o = missing? (account [] os).2 o := by
  rw [missing?.eq_def, missing?.eq_def]
  cases hsight : o.sight with
  | violation message => rfl
  | entry table key => rfl
  | reference name key =>
    have hfound : ((account [] (atLeast level os)).2.lookup (.index name, key)).isSome
        = ((account [] os).2.lookup (.index name, key)).isSome := by
      rw [Bool.eq_iff_iff]
      refine ⟨account_atLeast_within os _, fun hsome => ?_⟩
      rw [lookup_account_nil, Option.isSome_map] at hsome
      obtain ⟨first, hfirst⟩ := Option.isSome_iff_exists.mp hsome
      obtain ⟨hmem, henters⟩ := mem_of_firstItem? hfirst
      have hkey : indexKey? o = some (.index name, key) := by rw [indexKey?.eq_def, hsight]
      have hle := h o ho hlevel (.index name, key) hkey first hfirst
      exact isSome_lookup_account_nil.mpr ⟨first, mem_atLeast.mpr ⟨hmem, hle⟩, henters⟩
    simp only
    rw [hfound]

/-- **If no key that counts was first entered below the level, all findings are filtered.** -/
theorem Coherent.findings_of_firstEnteredFrom (hos : Coherent os) (h : FirstEnteredFrom level os)
    {ctx : Context} {found : List Finding}
    (hfound : references ctx (account [] os).2 os = found.map .ok) :
    (account [] (atLeast level os)).1 = findingsAtLeast level (account [] os).1 ∧
      references ctx (account [] (atLeast level os)).2 (atLeast level os)
        = (findingsAtLeast level found).map .ok := by
  constructor
  · have hall : (account [] (atLeast level os)).1.filter (fun _ => true)
        = (findingsAtLeast level (account [] os).1).filter fun _ => true :=
      account_atLeast (W := fun k => ∀ first ∈ firstItem? os k, level ≤ first.constraint.level)
        (fun o ho hlevel k henters =>
          .inl ((hos.first_or_index ho hlevel henters).elim id (h o ho hlevel k)))
        (fun k hk _ => hk) fun k _ => rfl
    simpa using hall
  · rw [← references_atLeast hfound]
    refine List.filterMap_congr fun o ho => ?_
    obtain ⟨hmem, hlevel⟩ := mem_atLeast.mp ho
    rw [h.missing?_eq hmem hlevel]

/-- Findings about references follow all others, so both parts are filtered if the whole is. -/
theorem Coherent.findings_split (hos : Coherent os) {ctx : Context} {found found' : List Finding}
    (hfound : references ctx (account [] os).2 os = found.map .ok)
    (hfound' : references ctx (account [] (atLeast level os)).2 (atLeast level os)
      = found'.map .ok)
    (h : (account [] (atLeast level os)).1 ++ found'
      = findingsAtLeast level ((account [] os).1 ++ found)) :
    (account [] (atLeast level os)).1 = findingsAtLeast level (account [] os).1 ∧
      found' = findingsAtLeast level found := by
  rw [findingsAtLeast_append] at h
  refine append_eq_append_of_kind ?_ ?_ ?_ ?_ h
  · exact fun f hf => (hos.of_atLeast level).kind_of_mem_account hf
  · exact (hos.of_atLeast level).kind_of_mem_references hfound'
  · exact fun f hf => hos.kind_of_mem_account (mem_findingsAtLeast.mp hf).1
  · exact fun f hf => hos.kind_of_mem_references hfound f (mem_findingsAtLeast.mp hf).1

/-- **If the findings are filtered, no key that counts was first entered below the level.** -/
theorem Coherent.firstEnteredFrom_of_findings (hos : Coherent os) {ctx : Context}
    {found found' : List Finding}
    (hfound : references ctx (account [] os).2 os = found.map .ok)
    (hfound' : references ctx (account [] (atLeast level os)).2 (atLeast level os)
      = found'.map .ok)
    (h : (account [] (atLeast level os)).1 ++ found'
      = findingsAtLeast level ((account [] os).1 ++ found)) : FirstEnteredFrom level os := by
  obtain ⟨haccount, hreferences⟩ := hos.findings_split hfound hfound' h
  have hsame : references ctx (account [] os).2 (atLeast level os)
      = references ctx (account [] (atLeast level os)).2 (atLeast level os) := by
    rw [references_atLeast hfound, hfound', hreferences]
  intro o ho hlevel k hk first hmem
  rw [indexKey?.eq_def] at hk
  cases hsight : o.sight with
  | violation message => rw [hsight] at hk; cases hk
  | entry table key =>
    refine first_of_account_eq haccount ho hlevel (Observation.enters_iff.mpr ?_) first hmem
    rw [hsight] at hk ⊢
    cases table with
    | index name => cases hk; rfl
    | unique id tree address => cases hk
  | reference name key =>
    rw [hsight] at hk
    cases hk
    have hentered : ((account [] os).2.lookup (.index name, key)).isSome := by
      rw [lookup_account_nil, Option.mem_def.mp hmem]
      rfl
    obtain ⟨o', ho', henters⟩ :=
      exists_enters_of_references_eq hsame (mem_atLeast.mpr ⟨ho, hlevel⟩) hsight hentered
    obtain ⟨hmem', hlevel'⟩ := mem_atLeast.mp ho'
    exact first_of_account_eq haccount hmem' hlevel' henters first hmem

end Validation

/-! ## Validation -/

namespace Attachments

open Validation

variable {a : Attachments} {ctx : Context} {document : Node} {level : Level}

/-- What is used as an index at or above the level is filled there. -/
def KeepsIndexes (a : Attachments) (level : Level) : Prop :=
  ∀ e ∈ a.entries, ∀ e' ∈ a.entries, ∀ name keys, e.2.rule = .index name keys →
    e'.2.rule.indexName? = some name → level ≤ e'.2.level → level ≤ e.2.level

/-- If no index is filled below the level and used above, it makes no difference which document is
validated. -/
theorem KeepsIndexes.firstEnteredFrom (h : a.KeepsIndexes level) (ctx : Context) (document : Node) :
    FirstEnteredFrom level (a.observations ctx document) := by
  intro o ho hlevel k hk first hfirst
  obtain ⟨hmem, henters⟩ := mem_of_firstItem? hfirst
  obtain ⟨e', he', heq', n', hsees'⟩ := exists_of_mem_observations ho
  obtain ⟨e, he, heq, n, hsees⟩ := exists_of_mem_observations hmem
  rw [← heq'] at hlevel
  rw [← heq]
  rw [Observation.enters_iff.mp henters] at hsees
  obtain ⟨name, hname, hrule⟩ := exists_indexName?_of_sees hsees' hk
  rw [hname] at hsees
  cases hsees with
  | index key hfills => exact h e he e' he' name _ hfills hrule hlevel

/-- **What raising the reporting level changes.** If a validation that skips nothing gives a report
without failures, then one with a higher level finds the same at and above that level, as far as no
indexes are involved; and it finds the same altogether exactly if no key of an index that counts was
first entered by a skipped constraint. -/
theorem validate_leastLevel (ha : a.Identified) {s s' : Session}
    (hs : a.Repeatable ctx document s) (hs' : a.Repeatable ctx document s')
    (abortOnError abortOnError' : Bool) {r : Report}
    (hr : ((a.validate ⟨abortOnError, .debug⟩ ctx document).runIn s).1 = .ok r)
    (hok : r.errors = []) (level : Level) :
    ((∃ e, abortOnError' = true
        ∧ ((a.validate ⟨abortOnError', level⟩ ctx document).runIn s').1 = .error e)
      ∨ ∃ r', ((a.validate ⟨abortOnError', level⟩ ctx document).runIn s').1 = .ok r' ∧
        r'.findings.filter (fun f => !f.kind.usesIndexes)
          = (r.findings.filter fun f => level ≤ f.level).filter fun f => !f.kind.usesIndexes) ∧
    (((a.validate ⟨abortOnError', level⟩ ctx document).runIn s').1
        = .ok ⟨r.findings.filter fun f => level ≤ f.level, []⟩
      ↔ FirstEnteredFrom level (a.observations ctx document)) := by
  obtain ⟨findings, errors⟩ := r
  simp only at hok
  subst hok
  rw [hs.validate_eq, validate_eq_ok_iff rfl] at hr
  obtain ⟨hall, found, hfound, hfindings⟩ := hr
  have hos := ha.coherent ctx document
  have hobserved : observed ctx.uncached (checks a ⟨abortOnError', level⟩ document)
      = atLeast level (a.observations ctx document) := by
    rw [checks_eq_filter a {} _ rfl, observed_filter, observations]
  have hall' : AllSucceed ctx.uncached (checks a ⟨abortOnError', level⟩ document) := by
    intro p hp
    rw [checks_eq_filter a ⟨abortOnError, .debug⟩ _ rfl] at hp
    exact hall p (List.mem_filter.mp hp).1
  rw [hs'.validate_eq]
  constructor
  · refine (validate_cases rfl hall' {}).imp_right ?_
    rintro ⟨r', s₁, hrun, hfindings'⟩
    refine ⟨r', hrun, ?_⟩
    rw [hfindings', hobserved, hos.findings_filter_kind rfl hfound, hfindings]
    rfl
  · rw [validate_eq_ok_iff rfl, hobserved]
    constructor
    · rintro ⟨-, found', hfound', heq⟩
      refine hos.firstEnteredFrom_of_findings hfound hfound' ?_
      rw [← heq, hfindings]
      rfl
    · intro hfirst
      obtain ⟨haccount, hreferences⟩ := hos.findings_of_firstEnteredFrom hfirst hfound
      refine ⟨hall', findingsAtLeast level found, hreferences, ?_⟩
      rw [haccount, hfindings, ← findingsAtLeast_append]
      rfl

end Attachments

/-! A store with an index of its items, in which they are looked up. -/

namespace IndexSample

def info : ModuleInfo := ⟨"store", "urn:store", "1.0", none⟩

def root : AssemblyDefinition :=
  ⟨⟨⟨0, "store", none, info⟩, none, []⟩, [.field none ⟨⟨1, "item", none, info⟩, .string, []⟩]⟩

/-- A store with one item. -/
def document : Node :=
  Node.root (.document 0) (Tree.document root
    (.mk none [] [("item", .mk (some (.string "a")) [] [])]) none)

def item : Expression := ⟨"item", .step .model (.name "item")⟩

def text : KeyField := ⟨.contextItem, none, none⟩

/-- The items make up an index of some level, are looked up in an index, and are not listed. -/
def attachments (indexLevel : Level) (lookedUp : String) : Attachments :=
  ⟨[(0, ⟨0, none, indexLevel, item, none, none, none, [], .index "items" [text]⟩),
    (0, ⟨1, none, .error, item, none, none, none, [], .indexHasKey lookedUp [text] none⟩),
    (0, ⟨2, none, .informational, item, none, none, none, [], .allowedValues [] false⟩)]⟩

def ctx : Context := ⟨{ now := (⟨.first, .midnight⟩, .utc) }, ⟨[]⟩, false⟩

def unlisted : Finding :=
  ⟨none, .allowedValues, .informational, "/store[1]/item[1]", "value 'a' is not one of: "⟩

def missing (index : String) : Finding :=
  ⟨none, .indexHasKey, .error, "/store[1]/item[1]", "key (a) not found in index '" ++ index ++ "'"⟩

end IndexSample

open IndexSample in
/-- A skipped constraint leaves its index empty, so a reference that led to it leads nowhere. -/
theorem validate_index_skipped :
    (((attachments .warning "items").validate { leastLevel := .debug } ctx document).runIn {}).1
        = .ok ⟨[unlisted], []⟩ ∧
      (((attachments .warning "items").validate { leastLevel := .error } ctx document).runIn {}).1
        = .ok ⟨[missing "items"], []⟩ := by
  constructor
  · cbv
  · cbv

open IndexSample in
/-- Where no other index is looked up than one that nobody fills, only the level counts. -/
theorem validate_leastLevel_of_unknown_index :
    ∃ r,
      (((attachments .warning "others").validate ⟨true, .debug⟩ ctx document).runIn {}).1 = .ok r ∧
      r.findings = [unlisted, missing "others"] ∧
      (((attachments .warning "others").validate ⟨true, .error⟩ ctx document).runIn {}).1
        = .ok ⟨r.findings.filter fun f => Level.error ≤ f.level, []⟩ := by
  have hidentified : (attachments .warning "others").Identified := by
    intro e he e' he' h
    simp only [attachments, List.mem_cons, List.not_mem_nil, or_false] at he he'
    rcases he with rfl | rfl | rfl <;> rcases he' with rfl | rfl | rfl <;>
      first | rfl | exact absurd h (by decide)
  have hkeeps : (attachments .warning "others").KeepsIndexes .error := by
    intro e he e' he' name keys hrule hname hlevel
    simp only [attachments, List.mem_cons, List.not_mem_nil, or_false] at he he'
    rcases he with rfl | rfl | rfl
    · rcases he' with rfl | rfl | rfl
      · exact absurd hlevel (by decide)
      · cases hrule
        exact absurd (Option.some.inj hname) (by decide)
      · cases hname
    · cases hrule
    · cases hrule
  have hrepeatable : (attachments .warning "others").Repeatable ctx document {} := .inl rfl
  have hdebug : (((attachments .warning "others").validate ⟨true, .debug⟩ ctx document).runIn {}).1
      = .ok ⟨[unlisted, missing "others"], []⟩ := by
    cbv
  have hlevels := Attachments.validate_leastLevel hidentified hrepeatable hrepeatable true true
    hdebug rfl .error
  exact ⟨_, hdebug, rfl, hlevels.2.mpr (hkeeps.firstEnteredFrom ctx _)⟩

end TreePath
