/-
TreePath.Proofs.Function.Conversion — the arguments that a handler gets.

A call converts its arguments one after another, each for its own parameter; beyond the declared
ones the last parameter counts (`Function.parameterAt?`). Either every argument can be converted,
and then each of them is of the type of its parameter (`Function.Admits`), or the call fails as the
first one fails that cannot (`Function.Refuses`).

That there is a parameter for every argument is a matter of how functions are built: without a
declared parameter there is no last one, but such a function is never unbounded.
-/
import TreePath.Function.Basic

namespace TreePath

/-! ## One argument -/

namespace SequenceType

variable {t : SequenceType} {s s' : Sequence}

theorem accepts_iff : t.accepts s = true ↔
    t.occurrence.accepts s.length = true ∧ ∀ i ∈ s, t.item.accepts i = true := by
  simp [accepts]

theorem accepts_of_checkCount {n : Nat} {u : Unit} (h : t.checkCount n = .ok u) :
    t.occurrence.accepts n = true := by
  unfold checkCount at h
  split at h
  · assumption
  · cases h

/-- A sequence that passes both checks is of the type, and it is not changed by them. -/
theorem accepts_of_checkItems (hn : t.occurrence.accepts s.length = true)
    (h : t.checkItems s = .ok s') : t.accepts s' = true := by
  unfold checkItems at h
  split at h
  · rename_i hnone
    cases h
    rw [accepts_iff]
    exact ⟨hn, by simpa using hnone⟩
  · cases h

/-- **What conversion gives is of the type.** -/
theorem accepts_of_convert (h : t.convert s = .ok s') : t.accepts s' = true := by
  unfold convert at h
  cases hn : t.checkCount s.length with
  | error e => rw [hn] at h; cases h
  | ok u =>
    rw [hn] at h
    simp only [bind, Except.bind] at h
    split at h
    · -- the number is checked again, since nodes without a value are gone
      cases hvalues : s.atomize with
      | error e => rw [hvalues] at h; cases h
      | ok values =>
        rw [hvalues] at h
        simp only at h
        cases hm : t.checkCount values.length with
        | error e => rw [hm] at h; cases h
        | ok u =>
          rw [hm] at h
          refine accepts_of_checkItems ?_ h
          rw [List.length_map]
          exact accepts_of_checkCount hm
    · exact accepts_of_checkItems (accepts_of_checkCount hn) h

end SequenceType

theorem Parameter.accepts_of_convert {p : Parameter} {s s' : Sequence}
    (h : p.convert s = .ok s') : p.type.accepts s' = true := by
  unfold Parameter.convert at h
  split at h
  · rename_i hconvert
    cases h
    exact SequenceType.accepts_of_convert hconvert
  · cases h

/-! ## The parameter of an argument -/

/-- The parameter that counts for the argument at `i`, if `params` are those not used yet. -/
def parameterFrom (last : Option Parameter) (params : List Parameter) (i : Nat) :
    Option Parameter :=
  params[i]?.or last

theorem parameterFrom_succ (last : Option Parameter) (params : List Parameter) (i : Nat) :
    parameterFrom last params (i + 1) = parameterFrom last params.tail i := by
  simp [parameterFrom]

/-- All arguments can be converted, and this is what they become. -/
structure ConvertsFrom (param : Nat → Option Parameter) (args converted : List Sequence) :
    Prop where
  length : converted.length = args.length
  each : ∀ i s, args[i]? = some s →
    ∃ p s', param i = some p ∧ p.convert s = .ok s' ∧ converted[i]? = some s'

/-- What an argument became was made of the argument in its place. -/
theorem ConvertsFrom.origin {param : Nat → Option Parameter} {args converted : List Sequence}
    (h : ConvertsFrom param args converted) {i : Nat} {s' : Sequence}
    (hs' : converted[i]? = some s') :
    ∃ p s, param i = some p ∧ args[i]? = some s ∧ p.convert s = .ok s' := by
  have hi : i < args.length := by
    rw [← h.length]
    exact (List.getElem?_eq_some_iff.mp hs').1
  obtain ⟨p, r, hp, hr, hr'⟩ := h.each i args[i] (List.getElem?_eq_getElem hi)
  rw [hs'] at hr'
  cases hr'
  exact ⟨p, args[i], hp, List.getElem?_eq_getElem hi, hr⟩

theorem ConvertsFrom.typed {param : Nat → Option Parameter} {args converted : List Sequence}
    (h : ConvertsFrom param args converted) {i : Nat} {s' : Sequence}
    (hs' : converted[i]? = some s') : ∃ p, param i = some p ∧ p.type.accepts s' = true := by
  obtain ⟨p, s, hp, -, hs⟩ := h.origin hs'
  exact ⟨p, hp, Parameter.accepts_of_convert hs⟩

theorem ConvertsFrom.cons {last : Option Parameter} {params : List Parameter} {p : Parameter}
    {s s' : Sequence} {rest rest' : List Sequence} (hp : parameterFrom last params 0 = some p)
    (hs : p.convert s = .ok s') (h : ConvertsFrom (parameterFrom last params.tail) rest rest') :
    ConvertsFrom (parameterFrom last params) (s :: rest) (s' :: rest') := by
  refine ⟨congrArg Nat.succ h.length, fun i r hr => ?_⟩
  cases i with
  | zero =>
    cases hr
    exact ⟨p, s', hp, hs, rfl⟩
  | succ i =>
    rw [parameterFrom_succ]
    exact h.each i r hr

/-- The argument at `i` is the first that cannot be converted, and `e` says why. -/
structure FailsFrom (param : Nat → Option Parameter) (args : List Sequence) (i : Nat) (e : Error) :
    Prop where
  here : ∃ p s, param i = some p ∧ args[i]? = some s ∧ p.convert s = .error e
  earlier : ∀ j < i, ∃ p s s', param j = some p ∧ args[j]? = some s ∧ p.convert s = .ok s'

/-- There is only one such argument, and one reason. -/
theorem FailsFrom.unique {param : Nat → Option Parameter} {args : List Sequence} {i j : Nat}
    {e e' : Error} (h : FailsFrom param args i e) (h' : FailsFrom param args j e') :
    i = j ∧ e = e' := by
  obtain ⟨p, s, hp, hs, he⟩ := h.here
  obtain ⟨q, t, hq, ht, he'⟩ := h'.here
  rcases Nat.lt_trichotomy i j with hlt | rfl | hlt
  · obtain ⟨p', s', r, hp', hs', hr⟩ := h'.earlier i hlt
    simp_all
  · simp_all
  · obtain ⟨p', s', r, hp', hs', hr⟩ := h.earlier j hlt
    simp_all

theorem ConvertsFrom.not_failsFrom {param : Nat → Option Parameter}
    {args converted : List Sequence} {i : Nat} {e : Error} (h : ConvertsFrom param args converted) :
    ¬ FailsFrom param args i e := by
  rintro ⟨⟨p, s, hp, hs, he⟩, -⟩
  obtain ⟨q, s', hq, hs', -⟩ := h.each i s hs
  simp_all

theorem FailsFrom.cons {last : Option Parameter} {params : List Parameter} {p : Parameter}
    {s s' : Sequence} {rest : List Sequence} {i : Nat} {e : Error}
    (hp : parameterFrom last params 0 = some p) (hs : p.convert s = .ok s')
    (h : FailsFrom (parameterFrom last params.tail) rest i e) :
    FailsFrom (parameterFrom last params) (s :: rest) (i + 1) e := by
  constructor
  · simpa only [parameterFrom_succ, List.getElem?_cons_succ] using h.here
  · intro j hj
    cases j with
    | zero => exact ⟨p, s, s', hp, rfl, hs⟩
    | succ j =>
      simpa only [parameterFrom_succ, List.getElem?_cons_succ] using
        h.earlier j (Nat.lt_of_succ_lt_succ hj)

/-! ## All arguments -/

namespace Function

variable {f : Function} {last : Option Parameter} {params : List Parameter}
  {args converted : List Sequence}

theorem convertAll_cons {p : Parameter} (hp : parameterFrom last params 0 = some p) (s : Sequence)
    (rest : List Sequence) : f.convertAll last params (s :: rest)
      = (do let s ← p.convert s
            return s :: (← f.convertAll last params.tail rest)) := by
  cases params with
  | cons q params =>
    cases hp
    rw [convertAll, List.tail_cons]
  | nil =>
    have hlast : last = some p := hp
    subst hlast
    rw [convertAll, List.tail_nil]

theorem convertAll_cons_none (hp : parameterFrom last params 0 = none) (s : Sequence)
    (rest : List Sequence) : f.convertAll last params (s :: rest)
      = .error ⟨.unknownFunction, f.name.display ++ " takes no arguments", none⟩ := by
  cases params with
  | cons q params => cases hp
  | nil =>
    have hlast : last = none := hp
    subst hlast
    rw [convertAll]

/-- **Arguments are converted in order.** -/
theorem convertsFrom_of_convertAll (h : f.convertAll last params args = .ok converted) :
    ConvertsFrom (parameterFrom last params) args converted := by
  induction args generalizing params converted with
  | nil =>
    rw [convertAll] at h
    cases h
    exact ⟨rfl, fun i s hs => by simp at hs⟩
  | cons s rest ih =>
    cases hp : parameterFrom last params 0 with
    | none =>
      rw [convertAll_cons_none hp] at h
      cases h
    | some p =>
      rw [convertAll_cons hp] at h
      cases hs : p.convert s with
      | error e => rw [hs] at h; cases h
      | ok s' =>
        cases hr : f.convertAll last params.tail rest with
        | error e => rw [hs] at h; simp only [bind, Except.bind, hr] at h; cases h
        | ok rest' =>
          rw [hs] at h
          simp only [bind, Except.bind, hr] at h
          cases h
          exact (ih hr).cons hp hs

/-- **The first failure counts**, as long as each argument has a parameter. -/
theorem failsFrom_of_convertAll (hparams : ∀ i < args.length, (parameterFrom last params i).isSome)
    {e : Error} (h : f.convertAll last params args = .error e) :
    ∃ i, FailsFrom (parameterFrom last params) args i e := by
  induction args generalizing params with
  | nil =>
    rw [convertAll] at h
    cases h
  | cons s rest ih =>
    obtain ⟨p, hp⟩ := Option.isSome_iff_exists.mp (hparams 0 (Nat.succ_pos _))
    rw [convertAll_cons hp] at h
    cases hs : p.convert s with
    | error e' =>
      rw [hs] at h
      cases h
      exact ⟨0, ⟨p, s, hp, rfl, hs⟩, fun j hj => absurd hj (Nat.not_lt_zero j)⟩
    | ok s' =>
      cases hr : f.convertAll last params.tail rest with
      | ok rest' => rw [hs] at h; simp only [bind, Except.bind, hr] at h; cases h
      | error e' =>
        rw [hs] at h
        simp only [bind, Except.bind, hr] at h
        cases h
        obtain ⟨i, hi⟩ := ih (fun i hi => by
          rw [← parameterFrom_succ]
          exact hparams (i + 1) (Nat.succ_lt_succ hi)) hr
        exact ⟨i + 1, hi.cons hp hs⟩

/-! ## The arguments of a function -/

/-- The parameter that counts for the argument at `i`: the one declared there, or the last one. -/
def parameterAt? (f : Function) (i : Nat) : Option Parameter :=
  parameterFrom f.parameters.getLast? f.parameters i

/-- There are as many arguments as the function accepts, and each of them is of the type of its
parameter as it stands. -/
structure Admits (f : Function) (args : List Sequence) : Prop where
  count : f.acceptsArity args.length = true
  typed : ∀ i s, args[i]? = some s → ∃ p, f.parameterAt? i = some p ∧ p.type.accepts s = true

/-- Why the arguments of a call cannot be converted. -/
inductive Refuses (f : Function) (args : List Sequence) : Error → Prop
  | count : f.acceptsArity args.length = false → Refuses f args (f.wrongArity args.length)
  | first {i : Nat} {e : Error} : f.acceptsArity args.length = true →
      FailsFrom f.parameterAt? args i e → Refuses f args e

theorem Refuses.unique {e e' : Error} (h : f.Refuses args e) (h' : f.Refuses args e') : e = e' := by
  cases h with
  | count hn =>
    cases h' with
    | count => rfl
    | first hn' => rw [hn] at hn'; cases hn'
  | first hn hfirst =>
    cases h' with
    | count hn' => rw [hn] at hn'; cases hn'
    | first hn' hfirst' => exact (hfirst.unique hfirst').2

/-- A function that came out of a draft. -/
def Built (f : Function) : Prop := ∃ d : FunctionDraft, d.build f.id = .ok f

/-- Only functions with parameters repeat the last one. -/
theorem Built.parameters_ne_nil (h : f.Built) (hf : f.isUnbounded = true) : f.parameters ≠ [] := by
  obtain ⟨d, hd⟩ := h
  unfold FunctionDraft.build at hd
  split at hd
  · cases hd
  · split at hd
    · cases hd
    · rename_i hnot
      split at hd
      · cases hd
      · cases hd
      · injection hd with hd
        rw [← hd] at hf ⊢
        intro hnil
        simp_all [isUnbounded]

/-- The draft that the function may have come out of. -/
def draft (f : Function) : FunctionDraft where
  name := some f.name
  parameters := f.parameters
  result := some f.result
  properties := f.properties
  handler := some f.handler

theorem built_iff : f.Built ↔ (f.isUnbounded = true → f.parameters ≠ []) := by
  refine ⟨Built.parameters_ne_nil, fun h => ⟨f.draft, ?_⟩⟩
  unfold FunctionDraft.build draft
  simp only
  rw [if_neg]
  intro hempty
  rw [Bool.and_eq_true, List.isEmpty_iff] at hempty
  exact h hempty.1 hempty.2

/-- Every argument of an accepted number has a parameter. -/
theorem Built.isSome_parameterAt? (h : f.Built) {n i : Nat} (hn : f.acceptsArity n = true)
    (hi : i < n) : (f.parameterAt? i).isSome := by
  unfold acceptsArity at hn
  unfold parameterAt? parameterFrom
  split at hn
  · rename_i hunbounded
    have hlast : f.parameters.getLast?.isSome := by
      simpa using h.parameters_ne_nil hunbounded
    simp [Option.isSome_or, hlast]
  · have hlength : i < f.parameters.length := by
      rw [beq_iff_eq] at hn
      unfold arity at hn
      omega
    simp [hlength]

/-- **The arguments that a handler gets.** They are as many as were given, and admitted; or none are
given to it, for the reason that there is. -/
theorem Built.convertArguments_outcome (h : f.Built) (args : List Sequence) :
    match f.convertArguments args with
    | .ok converted =>
      f.acceptsArity args.length = true ∧ ConvertsFrom f.parameterAt? args converted
    | .error e => f.Refuses args e := by
  unfold convertArguments
  cases hn : f.acceptsArity args.length with
  | false => exact .count hn
  | true =>
    rw [if_pos rfl]
    cases hconvert : f.convertAll f.parameters.getLast? f.parameters args with
    | ok converted => exact ⟨rfl, convertsFrom_of_convertAll hconvert⟩
    | error e =>
      obtain ⟨i, hi⟩ := failsFrom_of_convertAll (fun i hi => h.isSome_parameterAt? hn hi) hconvert
      exact .first hn hi

theorem Built.admits (h : f.Built) (hconvert : f.convertArguments args = .ok converted) :
    converted.length = args.length ∧ f.Admits converted := by
  have houtcome := h.convertArguments_outcome args
  rw [hconvert] at houtcome
  obtain ⟨hn, hconverts⟩ := houtcome
  refine ⟨hconverts.length, ?_, fun i s hs => hconverts.typed hs⟩
  rw [hconverts.length]
  exact hn

/-- **A call is refused for the reason that there is**, and only then. -/
theorem Built.convertArguments_eq_error_iff (h : f.Built) {e : Error} :
    f.convertArguments args = .error e ↔ f.Refuses args e := by
  have houtcome := h.convertArguments_outcome args
  constructor
  · intro he
    rw [he] at houtcome
    exact houtcome
  · intro hrefuses
    cases hconvert : f.convertArguments args with
    | error e' =>
      rw [hconvert] at houtcome
      rw [hrefuses.unique houtcome]
    | ok converted =>
      rw [hconvert] at houtcome
      obtain ⟨hn, hconverts⟩ := houtcome
      cases hrefuses with
      | count hn' => rw [hn] at hn'; cases hn'
      | first _ hfirst => exact absurd hfirst hconverts.not_failsFrom

end Function

end TreePath
