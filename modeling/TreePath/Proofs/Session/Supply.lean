/-
TreePath.Proofs.Session.Supply — where the items of a session come from.

A session works on given trees, variables, literals and a current time. `Supply` says which nodes
and which zoned date-times there are; all other values are of no account here and may always occur.
Nothing that evaluations do with items leaves the supply: values of nodes are read from the trees,
arguments are converted without making up a date-time, and arithmetic gives numbers.
-/
import TreePath.Function.Call
import TreePath.Proofs.Atomic.Numeric
import TreePath.Proofs.Calendar.Instant
import TreePath.Proofs.Function.Conversion
import TreePath.Proofs.Tree.Place

namespace TreePath

/-- No instant occurs in two zones. -/
def UniqueZones (zoned : DateTime → Zone → Prop) : Prop :=
  ∀ t zone t' zone', zoned t zone → zoned t' zone' →
    t.instant (some zone) = t'.instant (some zone') → zone = zone'

/-- The trees of a session and the zoned date-times that may occur in it. -/
structure Supply where
  forest : Forest
  zoned : DateTime → Zone → Prop

namespace Supply

variable (S : Supply)

/-- The value may occur. -/
def HasValue : AtomicValue → Prop
  | .dateTimeWithTimezone t zone => S.zoned t zone
  | _ => True

/-- The item may occur. -/
def HasItem : Item → Prop
  | .node n => n.Within S.forest
  | .atomic v => S.HasValue v

/-- All items of the sequence may occur. -/
def HasItems (s : Sequence) : Prop := ∀ i ∈ s, S.HasItem i

/-- The environment and the trees hold nothing but what may occur. -/
structure Serves (env : Environment) : Prop where
  built : S.forest.Built
  typed : ∀ (n : Node) v, n.Within S.forest → n.typedValue = .ok (some v) → S.HasValue v
  globals : ∀ e ∈ env.globals, S.HasItems e.2
  now : S.zoned env.now.1 env.now.2

variable {S}

/-- Functions see the environment, but no variables. -/
theorem Serves.withoutGlobals {env : Environment} (h : S.Serves env) :
    S.Serves { env with globals := [] } :=
  ⟨h.built, h.typed, fun _ he => absurd he List.not_mem_nil, h.now⟩

/-! ## Values -/

/-- A value that is of a type other than zoned date-times, by its own type or by an ancestor. -/
theorem hasValue_of_isInstanceOf {v : AtomicValue} {t : Datatype} (h : v.isInstanceOf t = true)
    (ht : Datatype.dateTimeWithTimezone.isSubtypeOf t = false) : S.HasValue v := by
  cases v <;> first | trivial | skip
  rw [AtomicValue.isInstanceOf, AtomicValue.type, ht] at h
  cases h

theorem hasValue_of_isNumeric {v : AtomicValue} (h : v.isNumeric = true) : S.HasValue v :=
  hasValue_of_isInstanceOf (t := .decimal) h (by decide)

theorem HasItems.nil : S.HasItems [] := fun _ h => absurd h List.not_mem_nil

theorem HasItems.singleton {i : Item} (h : S.HasItem i) : S.HasItems [i] := by
  intro j hj
  rw [List.mem_singleton.mp hj]
  exact h

theorem hasItems_values {values : List AtomicValue} (h : ∀ v ∈ values, S.HasValue v) :
    S.HasItems (values.map .atomic) := by
  intro i hi
  obtain ⟨v, hv, rfl⟩ := List.mem_map.mp hi
  exact h v hv

/-! ## Values of items -/

variable {env : Environment}

theorem hasValue_of_atomize (hS : S.Serves env) {i : Item} (hi : S.HasItem i) {v : AtomicValue}
    (h : i.atomize = .ok (some v)) : S.HasValue v := by
  cases i with
  | node n => exact hS.typed n v hi h
  | atomic w => cases h; exact hi

/-- What a map over a list that may fail gives comes from the elements. -/
theorem exists_of_mem_mapM {α β : Type} {f : α → Except Error β} :
    ∀ {l : List α} {r : List β}, l.mapM f = .ok r → ∀ b ∈ r, ∃ a ∈ l, f a = .ok b
  | [], r, h, b, hb => by
      cases h
      exact absurd hb List.not_mem_nil
  | a :: l, r, h, b, hb => by
      rw [List.mapM_cons] at h
      cases ha : f a with
      | error e => rw [ha] at h; cases h
      | ok b₀ =>
        cases hl : l.mapM f with
        | error e => rw [ha, hl] at h; cases h
        | ok bs =>
          rw [ha, hl] at h
          cases h
          rcases List.mem_cons.mp hb with rfl | hb
          · exact ⟨a, List.mem_cons_self, ha⟩
          · obtain ⟨a', ha', hf⟩ := exists_of_mem_mapM hl b hb
            exact ⟨a', List.mem_cons_of_mem a ha', hf⟩

theorem hasValue_of_mem_atomize (hS : S.Serves env) {s : Sequence} (hs : S.HasItems s)
    {values : List AtomicValue} (h : s.atomize = .ok values) : ∀ v ∈ values, S.HasValue v := by
  intro v hv
  rw [Sequence.atomize] at h
  cases hm : s.mapM Item.atomize with
  | error e => rw [hm] at h; cases h
  | ok found =>
    rw [hm] at h
    cases h
    obtain ⟨o, ho, rfl⟩ := List.mem_filterMap.mp hv
    obtain ⟨i, hi, heq⟩ := exists_of_mem_mapM hm _ ho
    exact hasValue_of_atomize hS (hs i hi) heq

/-! ## Converted arguments -/

theorem hasValue_promote {t : SequenceType} {v : AtomicValue} (hv : S.HasValue v) :
    S.HasValue (t.promote v) := by
  rw [SequenceType.promote.eq_def]
  split
  · trivial
  · trivial
  · exact hv

theorem eq_of_checkItems {t : SequenceType} {s s' : Sequence} (h : t.checkItems s = .ok s') :
    s' = s := by
  rw [SequenceType.checkItems] at h
  split at h
  · cases h; rfl
  · cases h

theorem hasItems_convert (hS : S.Serves env) {t : SequenceType} {s s' : Sequence}
    (hs : S.HasItems s) (h : t.convert s = .ok s') : S.HasItems s' := by
  rw [SequenceType.convert] at h
  cases hn : t.checkCount s.length with
  | error e => rw [hn] at h; cases h
  | ok u =>
    rw [hn] at h
    simp only [bind, Except.bind] at h
    split at h
    · cases ha : s.atomize with
      | error e => rw [ha] at h; cases h
      | ok values =>
        rw [ha] at h
        simp only at h
        cases hv : t.checkCount values.length with
        | error e => rw [hv] at h; cases h
        | ok u =>
          rw [hv] at h
          rw [eq_of_checkItems h]
          intro i hi
          obtain ⟨v, hmem, rfl⟩ := List.mem_map.mp hi
          exact hasValue_promote (hasValue_of_mem_atomize hS hs ha v hmem)
    · rw [eq_of_checkItems h]
      exact hs

theorem hasItems_convertParameter (hS : S.Serves env) {p : Parameter} {s s' : Sequence}
    (hs : S.HasItems s) (h : p.convert s = .ok s') : S.HasItems s' := by
  rw [Parameter.convert] at h
  split at h
  · rename_i hc
    cases h
    exact hasItems_convert hS hs hc
  · cases h

/-- Converting gives as many arguments as there were, and makes up none. -/
theorem convertAll_spec (hS : S.Serves env) {f : Function} {last : Option Parameter}
    {args : List Sequence} {params : List Parameter} {args' : List Sequence}
    (hargs : ∀ s ∈ args, S.HasItems s) (h : f.convertAll last params args = .ok args') :
    args'.length = args.length ∧ ∀ s ∈ args', S.HasItems s := by
  have hconverts := Function.convertsFrom_of_convertAll h
  refine ⟨hconverts.length, fun s' hs' => ?_⟩
  obtain ⟨i, hi⟩ := List.mem_iff_getElem?.mp hs'
  obtain ⟨p, s, -, hs, hp⟩ := hconverts.origin hi
  exact hasItems_convertParameter hS (hargs s (List.mem_of_getElem? hs)) hp

theorem convertArguments_spec (hS : S.Serves env) {f : Function} {args args' : List Sequence}
    (hargs : ∀ s ∈ args, S.HasItems s) (h : f.convertArguments args = .ok args') :
    f.acceptsArity args'.length = true ∧ ∀ s ∈ args', S.HasItems s := by
  rw [Function.convertArguments] at h
  split at h
  · rename_i harity
    obtain ⟨hlen, hall⟩ := convertAll_spec hS hargs h
    exact ⟨by rw [hlen]; exact harity, hall⟩
  · cases h

end Supply

end TreePath
