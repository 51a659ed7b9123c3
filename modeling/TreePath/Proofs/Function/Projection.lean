/-
TreePath.Proofs.Function.Projection — conversion as a projection.

Conversion to a sequence type is a projection onto the sequences of that type: it leaves them as
they are, and it gives nothing else. Its results are described once for atomic types, where items
are replaced by their values, and once for all other types, where items stay as they are; when it
fails is what is left over.
-/
import TreePath.Proofs.Function.Conversion
import TreePath.Proofs.Function.Outcome

namespace TreePath

/-! ## The values of a sequence -/

namespace Sequence

variable {s : Sequence} {values : List AtomicValue}

theorem atomize_eq_ok_iff : s.atomize = .ok values ↔
    ∃ found, List.Forall₂ (fun i o => i.atomize = .ok o) s found ∧ values = found.filterMap id := by
  rw [atomize]
  constructor
  · intro h
    cases hfound : s.mapM Item.atomize with
    | error e => rw [hfound] at h; cases h
    | ok found =>
      rw [hfound] at h
      cases h
      exact ⟨found, Eval.mapM_eq_ok_iff.mp hfound, rfl⟩
  · rintro ⟨found, hfound, rfl⟩
    rw [Eval.mapM_eq_ok_iff.mpr hfound]
    rfl

/-- Values are their own values. -/
theorem atomize_map_atomic (values : List AtomicValue) :
    atomize (values.map .atomic) = .ok values := by
  refine atomize_eq_ok_iff.mpr ⟨values.map some, ?_, by simp⟩
  rw [List.forall₂_map_left_iff, List.forall₂_map_right_iff, List.forall₂_same]
  exact fun _ _ => rfl

theorem atomics_map_atomic (values : List AtomicValue) :
    atomics (values.map .atomic) = values := by
  rw [atomics, List.filterMap_map]
  exact List.filterMap_some

/-- The values can be told as soon as each item can tell its own. -/
theorem exists_atomize_eq_ok_iff :
    (∃ values, s.atomize = .ok values) ↔ ∀ i ∈ s, ∀ e, i.atomize ≠ .error e := by
  constructor
  · rintro ⟨values, h⟩ i hi e he
    obtain ⟨found, hfound, -⟩ := atomize_eq_ok_iff.mp h
    obtain ⟨o, -, ho⟩ := Eval.exists_of_forall₂_left hfound hi
    rw [he] at ho
    cases ho
  · intro h
    have heach : ∀ i ∈ s, ∃ o, i.atomize = .ok o := by
      intro i hi
      cases ho : i.atomize with
      | error e => exact absurd ho (h i hi e)
      | ok o => exact ⟨o, rfl⟩
    obtain ⟨found, hfound⟩ := Eval.exists_forall₂ heach
    exact ⟨_, atomize_eq_ok_iff.mpr ⟨found, hfound, rfl⟩⟩

end Sequence

namespace SequenceType

variable {t : SequenceType} {a : Datatype} {v : AtomicValue} {s r : Sequence}

/-! ## Values that a type takes -/

/-- The value is of the type as it stands, or it is a URI and the type is that of strings. -/
def Takes (a : Datatype) (v : AtomicValue) : Prop :=
  v.isInstanceOf a = true ∨ a = .string ∧ (v.type = .uri ∨ v.type = .uriReference)

instance (a : Datatype) (v : AtomicValue) : Decidable (Takes a v) :=
  inferInstanceAs (Decidable (_ ∨ _))

/-- URIs are no strings. -/
theorem not_isInstanceOf_string (h : v.type = .uri ∨ v.type = .uriReference) :
    v.isInstanceOf .string = false := by
  rw [AtomicValue.isInstanceOf]
  rcases h with h | h <;> rw [h] <;> rfl

/-- What is of the type already stays what it is. -/
theorem promote_of_isInstanceOf (ht : t.item = .atomic a) (h : v.isInstanceOf a = true) :
    t.promote v = v := by
  unfold promote
  split
  · rename_i s hitem
    cases ht.symm.trans hitem
    rw [not_isInstanceOf_string (.inl rfl)] at h
    cases h
  · rename_i s hitem
    cases ht.symm.trans hitem
    rw [not_isInstanceOf_string (.inr rfl)] at h
    cases h
  · rfl

/-- A value becomes one of the type exactly if the type takes it. -/
theorem isInstanceOf_promote_iff (ht : t.item = .atomic a) :
    (t.promote v).isInstanceOf a = true ↔ Takes a v := by
  unfold promote
  split
  · rename_i s hitem
    cases ht.symm.trans hitem
    exact ⟨fun _ => .inr ⟨rfl, .inl rfl⟩, fun _ => rfl⟩
  · rename_i s hitem
    cases ht.symm.trans hitem
    exact ⟨fun _ => .inr ⟨rfl, .inr rfl⟩, fun _ => rfl⟩
  · rename_i v _ _ huri hreference
    refine ⟨.inl, ?_⟩
    rintro (h | ⟨rfl, h⟩)
    · exact h
    · -- a URI would have been promoted
      cases v <;> simp_all [AtomicValue.type]

/-! ## What conversion gives -/

theorem checkCount_eq_ok_iff {n : Nat} :
    t.checkCount n = .ok () ↔ t.occurrence.accepts n = true := by
  refine ⟨accepts_of_checkCount, fun h => ?_⟩
  rw [checkCount, if_pos h]

theorem checkItems_eq_ok_iff :
    t.checkItems s = .ok r ↔ (∀ i ∈ s, t.item.accepts i = true) ∧ r = s := by
  rw [checkItems]
  split
  · rename_i hnone
    have hall : ∀ i ∈ s, t.item.accepts i = true := by simpa using hnone
    exact ⟨fun h => by cases h; exact ⟨hall, rfl⟩, fun ⟨_, h⟩ => by rw [h]⟩
  · rename_i i hsome
    have hbad : t.item.accepts i = false := by simpa using List.find?_some hsome
    refine ⟨nofun, fun ⟨hall, _⟩ => ?_⟩
    rw [hall i (List.mem_of_find?_eq_some hsome)] at hbad
    cases hbad

theorem bind_checkCount_eq_ok_iff {α : Type} {n : Nat} {k : Except Error α} {b : α} :
    (do t.checkCount n; k) = .ok b ↔ t.occurrence.accepts n = true ∧ k = .ok b := by
  rw [← checkCount_eq_ok_iff]
  cases t.checkCount n with
  | error e => exact ⟨nofun, nofun⟩
  | ok u => exact ⟨fun h => ⟨rfl, h⟩, fun h => h.2⟩

/-- **Conversion to an atomic type**: the values of the items, those that are taken for strings
promoted. -/
theorem convert_atomic_eq_ok_iff (ht : t.item = .atomic a) : t.convert s = .ok r ↔
    t.occurrence.accepts s.length = true ∧ ∃ values, s.atomize = .ok values ∧
      t.occurrence.accepts values.length = true ∧ (∀ v ∈ values, Takes a v) ∧
      r = values.map fun v => .atomic (t.promote v) := by
  rw [convert, bind_checkCount_eq_ok_iff, ht]
  refine and_congr_right fun _ => ?_
  cases s.atomize with
  | error e => exact ⟨nofun, nofun⟩
  | ok values =>
    have haccepts : (∀ i ∈ values.map fun v => Item.atomic (t.promote v),
        t.item.accepts i = true) ↔ ∀ v ∈ values, Takes a v := by
      rw [List.forall_mem_map, ht]
      exact forall₂_congr fun _ _ => isInstanceOf_promote_iff ht
    show (do t.checkCount values.length; t.checkItems _) = .ok r ↔ _
    rw [bind_checkCount_eq_ok_iff, checkItems_eq_ok_iff, haccepts]
    constructor
    · exact fun h => ⟨values, rfl, h⟩
    · rintro ⟨_, heq, h⟩
      cases heq
      exact h

/-- **Conversion to any other type**: the items as they are. -/
theorem convert_other_eq_ok_iff (ht : ∀ a, t.item ≠ .atomic a) : t.convert s = .ok r ↔
    t.occurrence.accepts s.length = true ∧ (∀ i ∈ s, t.item.accepts i = true) ∧ r = s := by
  rw [convert, bind_checkCount_eq_ok_iff, ← checkItems_eq_ok_iff]
  refine and_congr_right fun _ => ?_
  split
  · rename_i a ha
    exact absurd ha (ht a)
  · rfl

/-! ## Conversion as a projection -/

/-- An atomic type only has sequences of values. -/
theorem exists_values_of_accepts (ht : t.item = .atomic a) (h : t.accepts s = true) :
    ∃ values : List AtomicValue,
      s = values.map .atomic ∧ ∀ v ∈ values, v.isInstanceOf a = true := by
  obtain ⟨-, hitems⟩ := accepts_iff.mp h
  rw [ht] at hitems
  clear h
  induction s with
  | nil => exact ⟨[], rfl, fun _ hv => absurd hv List.not_mem_nil⟩
  | cons i rest ih =>
    obtain ⟨hi, hrest⟩ := List.forall_mem_cons.mp hitems
    obtain ⟨values, rfl, hvalues⟩ := ih hrest
    cases i with
    | node n => cases hi
    | atomic v => exact ⟨v :: values, rfl, List.forall_mem_cons.mpr ⟨hi, hvalues⟩⟩

/-- A sequence of the type stays what it is. -/
theorem convert_of_accepts (h : t.accepts s = true) : t.convert s = .ok s := by
  obtain ⟨hcount, hitems⟩ := accepts_iff.mp h
  by_cases ht : ∃ a, t.item = .atomic a
  · obtain ⟨a, ht⟩ := ht
    obtain ⟨values, rfl, hvalues⟩ := exists_values_of_accepts ht h
    refine (convert_atomic_eq_ok_iff ht).mpr
      ⟨hcount, values, Sequence.atomize_map_atomic values, ?_, fun v hv => .inl (hvalues v hv), ?_⟩
    · rwa [List.length_map] at hcount
    · exact List.map_congr_left fun v hv =>
        congrArg Item.atomic (promote_of_isInstanceOf ht (hvalues v hv)).symm
  · exact (convert_other_eq_ok_iff (not_exists.mp ht)).mpr ⟨hcount, hitems, rfl⟩

/-- Why a sequence cannot be converted. -/
inductive Refuses (t : SequenceType) (s : Sequence) : Prop
  | count : t.occurrence.accepts s.length = false → Refuses t s
  /-- An item cannot tell its value. -/
  | value {a : Datatype} {i : Item} {e : Error} : t.item = .atomic a → i ∈ s →
      i.atomize = .error e → Refuses t s
  /-- There are too many or too few values. -/
  | valueCount {a : Datatype} {values : List AtomicValue} : t.item = .atomic a →
      s.atomize = .ok values → t.occurrence.accepts values.length = false → Refuses t s
  /-- A value is not of the type and cannot be promoted. -/
  | valueType {a : Datatype} {values : List AtomicValue} {v : AtomicValue} : t.item = .atomic a →
      s.atomize = .ok values → v ∈ values → ¬ Takes a v → Refuses t s
  | item {i : Item} : (∀ a, t.item ≠ .atomic a) → i ∈ s → t.item.accepts i = false → Refuses t s

/-- **When conversion fails.** -/
theorem convert_eq_error_iff : (∃ e, t.convert s = .error e) ↔ t.Refuses s := by
  have hfails : (∃ e, t.convert s = .error e) ↔ ¬ ∃ r, t.convert s = .ok r := by
    cases t.convert s <;> simp
  rw [hfails]
  constructor
  · intro h
    by_contra hrefuses
    have hcount : t.occurrence.accepts s.length = true :=
      Bool.of_not_eq_false fun hn => hrefuses (.count hn)
    by_cases ht : ∃ a, t.item = .atomic a
    · obtain ⟨a, ht⟩ := ht
      obtain ⟨values, hvalues⟩ := Sequence.exists_atomize_eq_ok_iff.mpr
        fun i hi e he => hrefuses (.value ht hi he)
      refine h ⟨_, (convert_atomic_eq_ok_iff ht).mpr ⟨hcount, values, hvalues, ?_, ?_, rfl⟩⟩
      · exact Bool.of_not_eq_false fun hn => hrefuses (.valueCount ht hvalues hn)
      · exact fun v hv => by_contra fun hv' => hrefuses (.valueType ht hvalues hv hv')
    · refine h ⟨s, (convert_other_eq_ok_iff (not_exists.mp ht)).mpr ⟨hcount, fun i hi => ?_, rfl⟩⟩
      exact Bool.of_not_eq_false fun hn => hrefuses (.item (not_exists.mp ht) hi hn)
  · rintro hrefuses ⟨r, hr⟩
    cases hrefuses with
    | count hn =>
      by_cases ht : ∃ a, t.item = .atomic a
      · obtain ⟨a, ht⟩ := ht
        obtain ⟨hcount, -⟩ := (convert_atomic_eq_ok_iff ht).mp hr
        rw [hn] at hcount
        cases hcount
      · obtain ⟨hcount, -⟩ := (convert_other_eq_ok_iff (not_exists.mp ht)).mp hr
        rw [hn] at hcount
        cases hcount
    | value ht hi he =>
      obtain ⟨-, values, hvalues, -⟩ := (convert_atomic_eq_ok_iff ht).mp hr
      exact Sequence.exists_atomize_eq_ok_iff.mp ⟨values, hvalues⟩ _ hi _ he
    | valueCount ht hvalues hn =>
      obtain ⟨-, values', hvalues', hcount, -⟩ := (convert_atomic_eq_ok_iff ht).mp hr
      cases hvalues.symm.trans hvalues'
      rw [hn] at hcount
      cases hcount
    | valueType ht hvalues hv hnot =>
      obtain ⟨-, values', hvalues', -, htakes, -⟩ := (convert_atomic_eq_ok_iff ht).mp hr
      cases hvalues.symm.trans hvalues'
      exact hnot (htakes _ hv)
    | item ht hi hn =>
      obtain ⟨-, hitems, -⟩ := (convert_other_eq_ok_iff ht).mp hr
      rw [hitems _ hi] at hn
      cases hn

/-- **Conversion is a projection** onto the sequences of the type, and it fails for the reasons that
there are. -/
theorem convert_projection (t : SequenceType) (s : Sequence) :
    (∀ r, t.convert s = .ok r → t.accepts r = true ∧ t.convert r = .ok r) ∧
      (t.accepts s = true → t.convert s = .ok s) ∧
      ((∃ e, t.convert s = .error e) ↔ t.Refuses s) := by
  refine ⟨fun r hr => ?_, convert_of_accepts, convert_eq_error_iff⟩
  have haccepts : t.accepts r = true := accepts_of_convert hr
  exact ⟨haccepts, convert_of_accepts haccepts⟩

/-- A URI becomes a string, and nothing else is left to convert. -/
example : (⟨.atomic .string, .one⟩ : SequenceType).convert [.atomic (.uri "a:b")]
    = .ok [.atomic (.string "a:b")] := rfl

end SequenceType

/-! ## Arguments that need no conversion -/

theorem Parameter.convert_of_accepts {p : Parameter} {s : Sequence}
    (h : p.type.accepts s = true) : p.convert s = .ok s := by
  rw [convert, SequenceType.convert_of_accepts h]

namespace Function

variable {f : Function} {last : Option Parameter}

theorem convertAll_of_accepts {params : List Parameter} {args : List Sequence}
    (h : ∀ i s, args[i]? = some s →
      ∃ p, parameterFrom last params i = some p ∧ p.type.accepts s = true) :
    f.convertAll last params args = .ok args := by
  induction args generalizing params with
  | nil => rw [convertAll]
  | cons s rest ih =>
    obtain ⟨p, hp, hs⟩ := h 0 s rfl
    have hrest : f.convertAll last params.tail rest = .ok rest := by
      refine ih fun i r hr => ?_
      rw [← parameterFrom_succ]
      exact h (i + 1) r hr
    rw [convertAll_cons hp, Parameter.convert_of_accepts hs, hrest]
    rfl

/-- Arguments that are admitted as they stand get to the handler unchanged. -/
theorem convertArguments_of_admits {args : List Sequence} (h : f.Admits args) :
    f.convertArguments args = .ok args := by
  rw [convertArguments, if_pos h.count]
  exact convertAll_of_accepts h.typed

end Function

end TreePath
