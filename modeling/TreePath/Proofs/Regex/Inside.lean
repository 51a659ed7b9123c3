/-
TreePath.Proofs.Regex.Inside — every part of the parser reads inside a group as on its own.

The parts are taken in the order of the parser: blanks, numbers and names, references, escapes,
brackets, repetitions, groups and levels. The parts that look at all that is left to read are put
beside what they do in front of the closing parenthesis; the others follow from the parts that they
are made of.
-/
import TreePath.Proofs.Regex.Parsing

namespace TreePath.Regex.Parser

open TreePath.Text TreePath.Text.Unicode

variable {w : Wrapping} {α : Type} {k : Nat}

/-! ## Comments -/

theorem afterComment_cons {c : Char} (h₁ : c ≠ ')') (h₂ : c ≠ '\\') (s : List Char) :
    afterComment (c :: s) = afterComment s := by
  rw [afterComment]
  · exact h₁
  · exact fun h _ => h₂ h
  · exact fun _ _ h _ => h₂ h

theorem afterComment_suffix {s u : List Char} (h : afterComment s = some u) : u <:+ s := by
  fun_induction afterComment s with
  | case1 => cases h
  | case2 s =>
    cases h
    exact List.suffix_cons _ _
  | case3 => cases h
  | case4 c s ih => exact (ih h).trans ((List.suffix_cons _ _).trans (List.suffix_cons _ _))
  | case5 c s _ _ _ ih => exact (ih h).trans (List.suffix_cons _ _)

/-- A comment that ends does so whatever follows, and one that does not end runs on at least up to
the parenthesis. -/
theorem afterComment_append (s : List Char) :
    (∀ u, afterComment s = some u → afterComment (s ++ closing) = some (u ++ closing)) ∧
      (afterComment s = none → ∀ u, afterComment (s ++ closing) = some u → u <:+ ['$']) := by
  fun_induction afterComment s with
  | case1 =>
    refine ⟨nofun, fun _ u h => ?_⟩
    cases h
    exact List.suffix_refl _
  | case2 s =>
    refine ⟨fun u h => ?_, nofun⟩
    cases h
    rfl
  | case3 => exact ⟨nofun, fun _ u h => by cases h⟩
  | case4 c s ih => exact ih
  | case5 c s h₁ h₂ h₃ ih =>
    have hslash : c ≠ '\\' := by
      cases s with
      | nil => exact fun h => h₂ h rfl
      | cons d s => exact fun h => h₃ d s h rfl
    rw [List.cons_append, afterComment_cons h₁ hslash]
    exact ih

/-! ## Blanks -/

/-- The text begins with the sign for a comment of its own. -/
def startsComment (s : List Char) : Bool := "(?#".toList.isPrefixOf s

/-- White space between the parts of a pattern, where it is allowed. -/
def isBlank (extended : Bool) (c : Char) : Bool :=
  extended && (c == ' ' || c == '\r' || c == '\n' || c == '\t')

/-- What becomes of one blank. -/
inductive Skipping where
  /-- There is none. -/
  | stop
  | goOn (s : List Char)
  /-- A comment does not end. -/
  | fail

/-- What follows one blank, if one comes next. -/
def skipOne (extended : Bool) (s : List Char) : Skipping :=
  if startsComment s then
    match afterComment (s.drop 3) with
    | some u => .goOn u
    | none => .fail
  else match s with
    | [] => .stop
    | c :: s =>
      if c = '#' then
        if extended then .goOn ((s.dropWhile (· != '\n')).drop 1) else .stop
      else if isBlank extended c then .goOn s else .stop

theorem skipOne_comment {extended : Bool} {s : List Char} (h : startsComment s = true) :
    skipOne extended s = match afterComment (s.drop 3) with
      | some u => .goOn u
      | none => .fail := by
  rw [skipOne.eq_def, if_pos h]

theorem skipOne_cons {extended : Bool} {c : Char} {s : List Char}
    (h : ¬ startsComment (c :: s) = true) :
    skipOne extended (c :: s)
      = if c = '#' then
          if extended then .goOn ((s.dropWhile (· != '\n')).drop 1) else .stop
        else if isBlank extended c then .goOn s else .stop := by
  rw [skipOne.eq_def, if_neg h]

theorem skipBlanks_succ (extended : Bool) (n : Nat) (s : List Char) :
    skipBlanks extended (n + 1) s = match skipOne extended s with
      | .stop => some s
      | .goOn u => skipBlanks extended n u
      | .fail => none := by
  rw [skipBlanks.eq_def]
  simp only
  split
  · rename_i s
    have hstart : startsComment ('(' :: '?' :: '#' :: s) = true := rfl
    rw [skipOne_comment hstart, List.drop_succ_cons, List.drop_succ_cons, List.drop_succ_cons,
      List.drop_zero]
    cases afterComment s <;> rfl
  · cases extended <;> rfl
  · rename_i c s hcomment hsign
    have hstart : ¬ startsComment (c :: s) = true := by
      intro h
      obtain ⟨s', hs'⟩ := List.isPrefixOf_iff_prefix.mp h
      obtain ⟨rfl, rfl⟩ := List.cons.inj hs'
      exact hcomment s' rfl rfl
    have hc : c ≠ '#' := fun h => hsign h
    rw [skipOne_cons hstart, if_neg hc, isBlank]
    split <;> rfl
  · rfl

theorem startsComment_append {s : List Char} (hs : s ≠ []) :
    startsComment (s ++ closing) = startsComment s := by
  match s with
  | [a] => simp [startsComment, closing, List.isPrefixOf]
  | [a, b] => simp [startsComment, closing, List.isPrefixOf]
  | a :: b :: c :: s => simp [startsComment, List.isPrefixOf]

theorem eq_of_startsComment {s : List Char} (h : startsComment s = true) :
    ∃ s', s = '(' :: '?' :: '#' :: s' := by
  obtain ⟨s', hs'⟩ := List.isPrefixOf_iff_prefix.mp h
  exact ⟨s', hs'.symm⟩

/-- A comment up to the end of its line, where something else follows. -/
theorem dropLine_append (s : List Char) :
    ((s ++ closing).dropWhile (· != '\n')).drop 1
        = (s.dropWhile (· != '\n')).drop 1 ++ closing ∨
      '\n' ∉ s ∧ (s.dropWhile (· != '\n')).drop 1 = [] ∧
        ((s ++ closing).dropWhile (· != '\n')).drop 1 = [] := by
  induction s with
  | nil => exact .inr ⟨by simp, rfl, rfl⟩
  | cons c s ih =>
    by_cases hc : c = '\n'
    · exact .inl (by simp [hc])
    · simpa [hc, Ne.symm hc] using ih

theorem skipOne_goOn {extended : Bool} {s u : List Char} (h : skipOne extended s = .goOn u) :
    u <:+ s ∧ u.length < s.length := by
  by_cases hstart : startsComment s = true
  · rw [skipOne_comment hstart] at h
    obtain ⟨s, rfl⟩ := eq_of_startsComment hstart
    cases hafter : afterComment s with
    | none => simp [hafter] at h
    | some v =>
      simp only [List.drop_succ_cons, List.drop_zero, hafter, Skipping.goOn.injEq] at h
      subst h
      have hsuffix := afterComment_suffix hafter
      have := hsuffix.length_le
      refine ⟨hsuffix.trans (List.suffix_append ['(', '?', '#'] s), ?_⟩
      simp only [List.length_cons]
      omega
  · cases s with
    | nil => cases h
    | cons c s =>
      have hline : (s.dropWhile (· != '\n')).drop 1 <:+ s :=
        (List.drop_suffix 1 _).trans (List.dropWhile_suffix _)
      have hshort : ∀ {u : List Char}, u <:+ s → u <:+ c :: s ∧ u.length < (c :: s).length :=
        fun hu => ⟨hu.trans (List.suffix_cons _ _), Nat.lt_succ_of_le hu.length_le⟩
      rw [skipOne_cons hstart] at h
      split at h
      · split at h
        · cases h
          exact hshort hline
        · cases h
      · split at h
        · cases h
          exact hshort (List.suffix_refl _)
        · cases h

/-- One blank inside the group. A comment at the end of the pattern takes all that follows. -/
theorem skipOne_append (extended : Bool) (s : List Char) :
    match skipOne extended s with
    | .stop => skipOne extended (s ++ closing) = .stop
    | .goOn u => skipOne extended (s ++ closing) = .goOn (u ++ closing) ∨
        skipOne extended (s ++ closing) = .goOn [] ∧ u = [] ∧ extended = true ∧ HasLateSign s
    | .fail => skipOne extended (s ++ closing) = .fail ∨
        ∃ u, skipOne extended (s ++ closing) = .goOn u ∧ u <:+ ['$'] := by
  by_cases hs : s = []
  · subst hs
    show skipOne extended closing = .stop
    cases extended <;> rfl
  by_cases hstart : startsComment s = true
  · have hstart' : startsComment (s ++ closing) = true := by rw [startsComment_append hs, hstart]
    rw [skipOne_comment hstart, skipOne_comment hstart']
    obtain ⟨s, rfl⟩ := eq_of_startsComment hstart
    simp only [List.cons_append, List.drop_succ_cons, List.drop_zero]
    obtain ⟨hsome, hnone⟩ := afterComment_append s
    cases hafter : afterComment s with
    | some u => simp only [hsome u hafter, true_or]
    | none =>
      cases hafter' : afterComment (s ++ closing) with
      | none => exact .inl rfl
      | some u => exact .inr ⟨u, rfl, hnone hafter u hafter'⟩
  · have hstart' : ¬ startsComment (s ++ closing) = true := by rwa [startsComment_append hs]
    cases s with
    | nil => exact absurd rfl hs
    | cons c s =>
      rw [List.cons_append] at hstart' ⊢
      rw [skipOne_cons hstart, skipOne_cons hstart']
      by_cases hc : c = '#'
      · rw [if_pos hc, if_pos hc]
        cases extended with
        | false => rfl
        | true =>
          obtain hline | ⟨hmem, hline, hline'⟩ := dropLine_append s
          · exact .inl (by rw [hline]; rfl)
          · exact .inr ⟨by rw [hline']; rfl, hline, rfl, [], s, by rw [hc, List.nil_append], hmem⟩
      · rw [if_neg hc, if_neg hc]
        cases isBlank extended c with
        | false => rfl
        | true => exact .inl rfl

theorem skipBlanks_suffix {extended : Bool} {n : Nat} {s u : List Char}
    (h : skipBlanks extended n s = some u) : u <:+ s := by
  induction n generalizing s with
  | zero =>
    cases h
    exact List.suffix_refl _
  | succ n ih =>
    rw [skipBlanks_succ] at h
    cases hone : skipOne extended s with
    | stop =>
      rw [hone] at h
      cases h
      exact List.suffix_refl _
    | goOn v =>
      rw [hone] at h
      exact (ih h).trans (skipOne_goOn hone).1
    | fail =>
      rw [hone] at h
      cases h

theorem HasLateSign.of_suffix {s t : List Char} (hs : HasLateSign s) (h : s <:+ t) :
    HasLateSign t := by
  obtain ⟨before, after, rfl, hafter⟩ := hs
  obtain ⟨front, rfl⟩ := h
  exact ⟨front ++ before, after, by rw [List.append_assoc], hafter⟩

theorem skipBlanks_nil (extended : Bool) (n : Nat) : skipBlanks extended n [] = some [] := by
  cases n <;> rfl

/-- Blanks are skipped inside the group as well, unless they end in a comment at the end of the
pattern. -/
theorem skipBlanks_append_of_some {extended : Bool} {n m : Nat} {s u : List Char}
    (hn : s.length < n) (hm : s.length + 2 < m) (h : skipBlanks extended n s = some u)
    (hu : u = [] → extended = true → ¬ HasLateSign s) :
    skipBlanks extended m (s ++ closing) = some (u ++ closing) := by
  induction n generalizing s m with
  | zero => cases hn
  | succ n ih =>
    obtain _ | m := m
    · cases hm
    have hboth := skipOne_append extended s
    rw [skipBlanks_succ] at h ⊢
    cases hone : skipOne extended s with
    | stop =>
      rw [hone] at h hboth
      cases h
      simp only [hboth]
    | goOn v =>
      rw [hone] at h hboth
      obtain ⟨hsuffix, hlength⟩ := skipOne_goOn hone
      obtain hboth | ⟨-, rfl, hextended, hlate⟩ := hboth
      · simp only [hboth]
        exact ih (by omega) (by omega) h fun hnil hext hlate =>
          hu hnil hext (hlate.of_suffix hsuffix)
      · simp only [skipBlanks_nil] at h
        exact absurd hlate (hu (Option.some.inj h).symm hextended)
    | fail =>
      rw [hone] at h
      cases h

/-- Inside the group nothing else can be skipped, short of going past the parenthesis. -/
theorem skipBlanks_append {extended : Bool} {n m : Nat} {s u : List Char}
    (hn : s.length < n) (hm : s.length + 2 < m)
    (h : skipBlanks extended m (s ++ closing) = some u) :
    (∃ v, u = v ++ closing ∧ skipBlanks extended n s = some v) ∨ u <:+ ['$'] := by
  induction n generalizing s m with
  | zero => cases hn
  | succ n ih =>
    obtain _ | m := m
    · cases hm
    have hboth := skipOne_append extended s
    rw [skipBlanks_succ] at h ⊢
    cases hone : skipOne extended s with
    | stop =>
      rw [hone] at hboth
      simp only [hboth] at h
      cases h
      exact .inl ⟨s, rfl, rfl⟩
    | goOn v =>
      rw [hone] at hboth
      have hlength := (skipOne_goOn hone).2
      obtain hboth | ⟨hboth, -⟩ := hboth
      · simp only [hboth] at h
        exact ih (by omega) (by omega) h
      · simp only [hboth, skipBlanks_nil] at h
        cases h
        exact .inr (List.nil_suffix)
    | fail =>
      rw [hone] at hboth
      obtain hboth | ⟨v, hboth, hv⟩ := hboth
      · simp only [hboth] at h
        cases h
      · simp only [hboth] at h
        exact .inr ((skipBlanks_suffix h).trans hv)

theorem skip_eq_some {st st' : State} {u : Unit} :
    skip st = some (u, st') ↔ ∃ s, behindBlanks st.flags.extended st.rest = some s ∧
      st' = { st with rest := s } := by
  show (do
    let s ← liftM (behindBlanks st.flags.extended st.rest)
    setRest s : Parse Unit) st = some (u, st') ↔ _
  cases behindBlanks st.flags.extended st.rest with
  | none => exact ⟨nofun, nofun⟩
  | some s =>
    constructor
    · intro h
      cases h
      exact ⟨s, rfl, rfl⟩
    · rintro ⟨_, hs, rfl⟩
      cases hs
      rfl

/-- Leaving out characters. -/
theorem Step.ofSuffix {st : State} {s : List Char} (h : s <:+ st.rest) :
    Step k st { st with rest := s } where
  rest := h
  numberBound := rfl
  references := List.Subset.refl _
  numbered := id
  weight := by
    have := h.sublist.countP_le (p := (· != '$'))
    simp only [State.weight]
    omega

theorem tame_skip : Tame w k skip where
  step h := by
    obtain ⟨s, hs, rfl⟩ := skip_eq_some.mp h
    exact .ofSuffix (skipBlanks_suffix hs)
  forward {st _ _} hst h hcalm := by
    obtain ⟨s, hs, rfl⟩ := skip_eq_some.mp h
    refine skip_eq_some.mpr ⟨s ++ closing, ?_, rfl⟩
    refine skipBlanks_append_of_some (Nat.lt_succ_self _) (Nat.lt_succ_of_le ?_) hs ?_
    · exact (length_widen_rest st).ge
    · exact fun hnil hext hlate => hcalm hnil hext (hlate.of_suffix hst.1)
  backward {st _ _} hst h := by
    obtain ⟨u, hu, rfl⟩ := skip_eq_some.mp h
    obtain ⟨v, rfl, hv⟩ | hlost := skipBlanks_append (Nat.lt_succ_self st.rest.length)
      (Nat.lt_succ_of_le (length_widen_rest st).ge) hu
    · exact .inl ⟨{ st with rest := v }, rfl, skip_eq_some.mpr ⟨v, hv, rfl⟩⟩
    · exact .inr (.inl hlost)
  flags h _ := by
    obtain ⟨s, -, rfl⟩ := skip_eq_some.mp h
    rfl

/-! ## Texts and numbers -/

theorem stripStart_append {text : List Char} (htext : ')' ∉ text) (s : List Char) :
    stripStart text (s ++ closing) = (stripStart text s).map (· ++ closing) := by
  induction text generalizing s with
  | nil => cases s <;> rfl
  | cons a text ih =>
    obtain ⟨ha, htext⟩ := not_or.mp (mt List.mem_cons.mpr htext)
    cases s with
    | nil =>
      show stripStart (a :: text) (')' :: ['$']) = none
      rw [stripStart, if_neg (Ne.symm ha)]
    | cons c s =>
      rw [List.cons_append, stripStart, stripStart]
      split
      · exact ih htext s
      · rfl

theorem accept_eq (text : String) (st : State) :
    accept text st = match stripStart text.toList st.rest with
      | some s => some (true, { st with rest := s })
      | none => some (false, st) := by
  show (match stripStart text.toList st.rest with
    | some s => (do setRest s; return true)
    | none => return false : Parse Bool) st = _
  cases stripStart text.toList st.rest <;> rfl

theorem accept_eq_true {text : String} {st st' : State} (h : accept text st = some (true, st')) :
    st.rest = text.toList ++ st'.rest ∧ st' = { st with rest := st'.rest } := by
  rw [accept_eq] at h
  cases hstrip : stripStart text.toList st.rest with
  | none =>
    rw [hstrip] at h
    cases h
  | some s =>
    rw [hstrip] at h
    cases h
    exact ⟨stripStart_eq_some_iff.mp hstrip, rfl⟩

theorem accept_eq_false {text : String} {st st' : State} (h : accept text st = some (false, st')) :
    st' = st := by
  rw [accept_eq] at h
  split at h
  · cases h
  · cases h
    rfl

/-- A text without a parenthesis is recognised inside the group if it is on its own. -/
theorem tame_accept {text : String} (htext : ')' ∉ text.toList) : Tame w k (accept text) := by
  refine .of_exact (fun {st a st'} h => ?_) fun st _ => ?_
  · cases a with
    | false =>
      obtain rfl := accept_eq_false h
      exact ⟨.refl k _, rfl⟩
    | true =>
      obtain ⟨hrest, heq⟩ := accept_eq_true h
      rw [heq]
      exact ⟨.ofSuffix (hrest ▸ List.suffix_append _ _), rfl⟩
  · rw [accept_eq, accept_eq]
    show (match stripStart text.toList (st.rest ++ closing) with
      | some s => some (true, { w.widen st with rest := s })
      | none => some (false, w.widen st)) = _
    rw [stripStart_append htext]
    cases stripStart text.toList st.rest <;> rfl

/-- Reading a parenthesis, or failing. -/
theorem tame_acceptClose {f : Parse α} (hf : Loose w (k + 1) f) :
    Tame w k (accept ")" >>= fun b => if b = true then f else failure) := by
  let close : List Char → Parse α
    | [] => failure
    | c :: s => if c = ')' then setRest s >>= fun _ => f else failure
  have heq : (accept ")" >>= fun b => if b = true then f else failure) = rest >>= close := by
    funext st
    show (accept ")" st).bind (fun p => (if p.1 = true then f else failure) p.2) =
      close st.rest st
    rw [accept_eq]
    show (match stripStart [')'] st.rest with
      | some s => some (true, { st with rest := s })
      | none => some (false, st)).bind (fun p => (if p.1 = true then f else failure) p.2) = _
    match st.rest with
    | [] => rfl
    | c :: s =>
      show _ = (if c = ')' then setRest s >>= fun _ => f else failure) st
      rw [stripStart]
      by_cases hc : c = ')'
      · subst hc
        rfl
      · rw [if_neg (Ne.symm hc), if_neg hc]
        rfl
  rw [heq]
  refine .next (fun _ => false) (fun _ => failure) (fun c => if c = ')' then f else failure)
    (fun st _ => rfl) (fun c s st _ => ?_) (fun _ => .failure) fun c => ?_
  · show (if c = ')' then setRest s >>= fun _ => f else failure) st = _
    split <;> rfl
  · split
    · rename_i hc
      subst hc
      exact hf
    · exact Tame.failure.toLoose

/-! ## Numbers and names -/

theorem takeWhile_closing {p : Char → Bool} (hp : p ')' = false) (s : List Char) :
    (s ++ closing).takeWhile p = s.takeWhile p := by
  induction s with
  | nil => exact List.takeWhile_cons_of_neg (by rw [hp]; exact Bool.false_ne_true)
  | cons c s ih =>
    rw [List.cons_append, List.takeWhile_cons, List.takeWhile_cons, ih]

theorem drop_takeWhile_closing (p : Char → Bool) (s : List Char) :
    (s ++ closing).drop (s.takeWhile p).length = s.drop (s.takeWhile p).length ++ closing :=
  List.drop_append_of_le_length (List.takeWhile_prefix p).length_le

theorem number?_append (s : List Char) :
    number? (s ++ closing) = (number? s).map fun p => (p.1, p.2 ++ closing) := by
  rw [number?, takeWhile_closing rfl, drop_takeWhile_closing, number?]
  split <;> rfl

theorem number?_eq_some {s u : List Char} {n : Nat} (h : number? s = some (n, u)) :
    ∃ c s', s = c :: s' ∧ charge c = 1 ∧ u <:+ s' := by
  rw [number?] at h
  split at h
  · cases h
  · rename_i hdigits
    cases h
    cases s with
    | nil => exact absurd rfl hdigits
    | cons c s =>
      by_cases hc : isDigit c = true
      · refine ⟨c, s, rfl, ?_, ?_⟩
        · have hsign : c ≠ '$' := fun h => absurd hc (h ▸ Bool.false_ne_true)
          simp [charge, hsign]
        · rw [List.takeWhile_cons_of_pos hc]
          exact List.drop_suffix _ s
      · simp [List.takeWhile_cons_of_neg hc] at hdigits

theorem number?_suffix {s u : List Char} {n : Nat} (h : number? s = some (n, u)) : u <:+ s := by
  obtain ⟨c, s, rfl, -, hu⟩ := number?_eq_some h
  exact hu.trans (List.suffix_cons c s)

/-- A character of a name. -/
def isNameCharacter (c : Char) : Bool := isAlphanumeric c || c == '_'

theorem identifier_eq (st : State) : identifier st =
    let found := st.rest.takeWhile isNameCharacter
    some (found, { st with rest := st.rest.drop found.length }) := rfl

theorem tame_identifier : Tame w k identifier := by
  refine .of_exact (fun {st a st'} h => ?_) fun st _ => ?_
  · rw [identifier_eq] at h
    cases h
    exact ⟨.ofSuffix (List.drop_suffix _ _), rfl⟩
  · have hclose : isNameCharacter ')' = false := by decide +kernel
    rw [identifier_eq, identifier_eq]
    simp only [Wrapping.widen, takeWhile_closing hclose, drop_takeWhile_closing, Option.map_some]

theorem tame_referTo (index : Nat) : Tame w k (referTo index) := by
  refine .of_exact (fun {st a st'} h => ?_) fun _ _ => rfl
  cases h
  refine ⟨?_, rfl⟩
  exact {
    rest := List.suffix_refl _
    numberBound := rfl
    references := List.subset_cons_self _ _
    numbered := id
    weight := Nat.le_add_right _ _ }

theorem numberedReference_eq (st : State) : numberedReference st =
    match number? st.rest with
    | none => none
    | some (n, s) =>
      if st.numberBound ≤ n then none
      else some (n, { st with rest := s, references := n :: st.references, numbered := true }) := by
  show (do
    let r ← liftM (number? st.rest)
    let st ← get
    if st.numberBound ≤ r.1 then failure
    setRest r.2
    modify fun st => { st with numbered := true }
    referTo r.1 : Parse Nat) st = _
  cases number? st.rest with
  | none => rfl
  | some p =>
    obtain ⟨n, s⟩ := p
    show (if st.numberBound ≤ n then _ else _ : Parse Nat) st = if st.numberBound ≤ n then _ else _
    split <;> rfl

theorem numberedReference_eq_some {st st' : State} {n : Nat} :
    numberedReference st = some (n, st') ↔ ∃ s, number? st.rest = some (n, s) ∧ n < st.numberBound ∧
      st' = { st with rest := s, references := n :: st.references, numbered := true } := by
  rw [numberedReference_eq]
  cases number? st.rest with
  | none => simp
  | some p =>
    obtain ⟨m, s⟩ := p
    simp only [Option.some.injEq, Prod.mk.injEq]
    constructor
    · intro h
      split at h
      · cases h
      · rename_i hm
        cases h
        exact ⟨s, ⟨rfl, rfl⟩, Nat.lt_of_not_le hm, rfl⟩
    · rintro ⟨_, ⟨rfl, rfl⟩, hm, rfl⟩
      rw [if_neg (Nat.not_le.mpr hm)]

/-- A number that is accepted inside the group only loses the way. -/
theorem tame_numberedReference : Tame w (k + 1) numberedReference where
  step {st n st'} h := by
    obtain ⟨s, hnumber, -, rfl⟩ := numberedReference_eq_some.mp h
    obtain ⟨c, u, hrest, hcharge, hsuffix⟩ := number?_eq_some hnumber
    refine .of_cons hrest ?_
    rw [hcharge]
    exact {
      rest := hsuffix
      numberBound := rfl
      references := List.subset_cons_self _ _
      numbered := fun _ => rfl
      weight := by
        have := hsuffix.sublist.countP_le (p := (· != '$'))
        simp only [State.weight, if_true]
        omega }
  forward {st n st'} hst h _ := by
    obtain ⟨s, hnumber, hn, rfl⟩ := numberedReference_eq_some.mp h
    refine numberedReference_eq_some.mpr ⟨s ++ closing, ?_, ?_, rfl⟩
    · show number? (st.rest ++ closing) = _
      rw [number?_append, hnumber, Option.map_some]
    · rw [hst.2] at hn
      exact hn.trans_le w.le
  backward {st n st'} hst h := by
    obtain ⟨_, hwide, -, rfl⟩ := numberedReference_eq_some.mp h
    obtain ⟨⟨m, s⟩, hnumber, heq⟩ := Option.map_eq_some_iff.mp ((number?_append _).symm.trans hwide)
    cases heq
    by_cases hn : w.alone ≤ m
    · exact .inr (.inr ⟨rfl, m, List.mem_cons_self, hn⟩)
    · have hless : m < st.numberBound := hst.2 ▸ Nat.lt_of_not_le hn
      exact .inl ⟨_, rfl, numberedReference_eq_some.mpr ⟨s, hnumber, hless, rfl⟩⟩
  flags h _ := by
    obtain ⟨s, -, -, rfl⟩ := numberedReference_eq_some.mp h
    rfl

/-- Reading with a function that looks at what follows at most to go past the parenthesis. -/
theorem tame_reading_past {γ : Type} {g : List Char → Option (γ × List Char)} {f : γ → Parse α}
    {p : Parse α}
    (hp : ∀ st, p st = (g st.rest).bind fun r => f r.1 { st with rest := r.2 })
    (hsuffix : ∀ {s r}, g s = some r → r.2 <:+ s)
    (happend : ∀ s, g (s ++ closing) = (g s).map (fun r => (r.1, r.2 ++ closing)) ∨
      g s = none ∧ ∀ r, g (s ++ closing) = some r → r.2 <:+ ['$'])
    (hf : ∀ a, Tame w k (f a)) : Tame w k p where
  step {st a st'} h := by
    rw [hp, Option.bind_eq_some_iff] at h
    obtain ⟨r, hr, h⟩ := h
    exact Nat.zero_add k ▸ (Step.ofSuffix (k := 0) (hsuffix hr)).trans ((hf _).step h)
  forward {st a st'} hst h hcalm := by
    rw [hp, Option.bind_eq_some_iff] at h
    obtain ⟨r, hr, h⟩ := h
    have hwide : g (w.widen st).rest = (g st.rest).map fun r => (r.1, r.2 ++ closing) :=
      (happend st.rest).resolve_right fun hnone => nomatch hr.symm.trans hnone.1
    rw [hp, hwide, hr, Option.map_some, Option.bind_some]
    exact (hf r.1).forward (hst.of_suffix (hsuffix hr)) h hcalm
  backward {st a st'} hst h := by
    rw [hp, Option.bind_eq_some_iff] at h
    obtain ⟨r', hr', h⟩ := h
    replace hr' : g (st.rest ++ closing) = some r' := hr'
    obtain hwide | ⟨-, hpast⟩ := happend st.rest
    · obtain ⟨r, hr, rfl⟩ := Option.map_eq_some_iff.mp (hwide.symm.trans hr')
      rw [hp, hr, Option.bind_some]
      exact (hf r.1).backward (hst.of_suffix (hsuffix hr)) h
    · exact .inr (.inl (((hf _).step h).rest.trans (hpast r' hr')))
  flags {st a st'} h hlength := by
    rw [hp, Option.bind_eq_some_iff] at h
    obtain ⟨r, hr, h⟩ := h
    have hle : st'.rest.length ≤ r.2.length := ((hf r.1).step h).rest.length_le
    have hlength' : st'.rest.length = r.2.length :=
      Nat.le_antisymm hle (hlength ▸ (hsuffix hr).length_le)
    rw [(hf r.1).flags h hlength']

/-- Reading with a function that does not look at what follows. -/
theorem tame_reading {γ : Type} {g : List Char → Option (γ × List Char)} {f : γ → Parse α}
    {p : Parse α}
    (hp : ∀ st, p st = (g st.rest).bind fun r => f r.1 { st with rest := r.2 })
    (hsuffix : ∀ {s r}, g s = some r → r.2 <:+ s)
    (happend : ∀ s, g (s ++ closing) = (g s).map fun r => (r.1, r.2 ++ closing))
    (hf : ∀ a, Tame w k (f a)) : Tame w k p :=
  tame_reading_past hp hsuffix (fun s => .inl (happend s)) hf

theorem relativeReference_eq (behind : Bool) (st : State) : relativeReference behind st =
    (number? st.rest).bind fun r => (do
      let count := (← get).groupCount
      if behind then referTo (count + r.1)
      else if r.1 ≤ count + 1 then referTo (if r.1 = 0 then count else count + 1 - r.1)
      else failure : Parse Nat) { st with rest := r.2 } := by
  show (do
    let r ← liftM (number? st.rest)
    setRest r.2
    let count := (← get).groupCount
    if behind then referTo (count + r.1)
    else if r.1 ≤ count + 1 then referTo (if r.1 = 0 then count else count + 1 - r.1)
    else failure : Parse Nat) st = _
  cases number? st.rest <;> rfl

theorem tame_relativeReference (behind : Bool) : Tame w k (relativeReference behind) := by
  refine tame_reading (f := fun n => do
    let count := (← get).groupCount
    if behind then referTo (count + n)
    else if n ≤ count + 1 then referTo (if n = 0 then count else count + 1 - n)
    else failure) (relativeReference_eq behind) number?_suffix number?_append
    fun n => ?_
  exact .get (fun _ => .ite (tame_referTo _) (.ite (tame_referTo _) .failure)) fun _ => rfl

theorem tame_referenceTo (index : Nat) : Tame w k (referenceTo index) :=
  .get (fun _ => .pure _) fun _ => rfl

/-- The texts that end names. -/
def IsNameEnd (close : String) : Prop := close = "" ∨ close = "'" ∨ close = ">" ∨ close = ")"

theorem tame_nameEnd {close : String} (hclose : IsNameEnd close) {f : Parse α}
    (hf : ∀ k, Tame w k f) :
    Tame w k (accept close >>= fun b => if b = true then f else failure) := by
  obtain rfl | rfl | rfl | rfl := hclose
  · exact .seq (tame_accept (by decide)) fun _ => .ite (hf k) .failure
  · exact .seq (tame_accept (by decide)) fun _ => .ite (hf k) .failure
  · exact .seq (tame_accept (by decide)) fun _ => .ite (hf k) .failure
  · exact tame_acceptClose (hf _).toLoose

theorem tame_newName {close : String} (hclose : IsNameEnd close) : Tame w k (newName close) := by
  have hend : ∀ found : List Char, Tame w k
      (accept close >>= fun b => if b = true then pure found else failure) :=
    fun found => tame_nameEnd hclose fun _ => .pure found
  exact .seq tame_identifier fun found => .ite (.seq .failure fun _ => hend found) (hend found)

theorem tame_namedReference (relative : Bool) {close : String} (hclose : IsNameEnd close) :
    Tame w k (namedReference relative close) := by
  have hend : ∀ index : Nat, Tame w k
      (accept close >>= fun b => if b = true then pure index else failure) :=
    fun index => tame_nameEnd hclose fun _ => .pure index
  refine .seq tame_identifier fun found => .ite (.ite (.seq .failure hend) ?_) ?_
  · refine .seq (tame_accept (by decide)) fun _ => .ite (.seq (tame_relativeReference _) hend) ?_
    exact .seq (tame_accept (by decide)) fun _ =>
      .ite (.seq (tame_relativeReference _) hend) (.seq .failure hend)
  · refine .get (fun st => ?_) fun _ => rfl
    dsimp only
    split
    · exact .seq (tame_referTo _) hend
    · split
      · exact .ite (.seq .failure hend) (.seq (tame_referTo _) hend)
      · exact .seq .failure hend

/-! ## Escapes -/

theorem head?_closing {c : Char} (hc : c ≠ ')') (s : List Char) :
    (s ++ closing).head? = some c ↔ s.head? = some c := by
  cases s with
  | nil =>
    refine ⟨fun h => absurd (Option.some.inj h).symm hc, nofun⟩
  | cons d s => rfl

theorem bracedDigits?_eq (s : List Char) : bracedDigits? s =
    let digits := s.tail.takeWhile isHexDigit
    if s.head? = some '\x7b' ∧ (s.tail.drop digits.length).head? = some '\x7d' ∧
        1 ≤ digits.length ∧ digits.length ≤ 8 then
      some (digits, (s.tail.drop digits.length).tail)
    else none := by
  rw [bracedDigits?.eq_def]
  split
  · dsimp only [List.tail_cons]
    split
    · rename_i heq
      simp [heq]
    · rename_i hne
      refine (if_neg ?_).symm
      rintro ⟨-, hhead, -⟩
      obtain ⟨u, hu⟩ := List.head?_eq_some_iff.mp hhead
      exact hne u hu
  · rename_i hne
    refine (if_neg ?_).symm
    rintro ⟨hhead, -⟩
    obtain ⟨u, hu⟩ := List.head?_eq_some_iff.mp hhead
    exact hne u hu

theorem bracedDigits?_suffix {s : List Char} {r : List Char × List Char}
    (h : bracedDigits? s = some r) : r.2 <:+ s := by
  rw [bracedDigits?_eq] at h
  dsimp only at h
  split at h
  · cases h
    exact ((List.tail_suffix _).trans (List.drop_suffix _ _)).trans (List.tail_suffix s)
  · cases h

theorem tail_append_closing {s : List Char} (hs : s ≠ []) :
    (s ++ closing).tail = s.tail ++ closing := List.tail_append_of_ne_nil hs

theorem bracedDigits?_append (s : List Char) :
    bracedDigits? (s ++ closing) = (bracedDigits? s).map fun r => (r.1, r.2 ++ closing) := by
  by_cases hs : s = []
  · subst hs
    rfl
  rw [bracedDigits?_eq, bracedDigits?_eq]
  dsimp only
  simp only [tail_append_closing hs, takeWhile_closing (p := isHexDigit) rfl,
    drop_takeWhile_closing, head?_closing (show '\x7b' ≠ ')' by decide),
    head?_closing (show '\x7d' ≠ ')' by decide)]
  split
  · rename_i h
    have hne : s.tail.drop (s.tail.takeWhile isHexDigit).length ≠ [] := by
      intro hnil
      rw [hnil] at h
      exact nomatch h.2.1
    rw [tail_append_closing hne]
    rfl
  · rfl

theorem hexDigits?_suffix {width : Nat} {s : List Char} {r : List Char × List Char}
    (h : hexDigits? width s = some r) : r.2 <:+ s := by
  rw [hexDigits?] at h
  split at h
  · cases h
    exact List.drop_suffix _ _
  · exact bracedDigits?_suffix h

theorem hexDigits?_append (width : Nat) (s : List Char) :
    hexDigits? width (s ++ closing) = (hexDigits? width s).map fun r => (r.1, r.2 ++ closing) := by
  rw [hexDigits?, hexDigits?]
  by_cases hlength : width ≤ s.length
  · rw [List.take_append_of_le_length hlength, List.drop_append_of_le_length hlength]
    split
    · rfl
    · exact bracedDigits?_append s
  · have hshort : (s.take width).length ≠ width := by
      rw [List.length_take]
      omega
    have hclose : ((s ++ closing).take width).all isHexDigit = false := by
      rw [List.take_append, List.take_of_length_le (by omega), List.all_append]
      obtain ⟨m, hm⟩ : ∃ m, width - s.length = m + 1 := ⟨width - s.length - 1, by omega⟩
      rw [hm, closing, List.take_succ_cons, List.all_cons]
      simp [show isHexDigit ')' = false from rfl]
    rw [hclose, Bool.and_false, decide_eq_false hshort, Bool.false_and]
    exact bracedDigits?_append s

theorem tame_hexCharacter (width : Nat) : Tame w k (hexCharacter width) := by
  refine tame_reading (g := hexDigits? width) (f := fun digits => do
    let n := hexDigitsValue digits
    if n < 0xD800 || (0xDFFF < n && n < 0x110000) then
      return .char (Char.ofNat n) (← get).flags.caseless
    else failure) (fun st => ?_) hexDigits?_suffix (hexDigits?_append width) fun digits => ?_
  · show (do
      let r ← liftM (hexDigits? width st.rest)
      setRest r.2
      let n := hexDigitsValue r.1
      if n < 0xD800 || (0xDFFF < n && n < 0x110000) then
        return .char (Char.ofNat n) (← get).flags.caseless
      else failure : Parse Escape) st = _
    cases hexDigits? width st.rest <;> rfl
  · exact .ite (.get (fun _ => .pure _) fun _ => rfl) .failure

theorem propertyName?_suffix {s : List Char} {r : List Char × List Char}
    (h : propertyName? s = some r) : r.2 <:+ s := by
  rw [propertyName?.eq_def] at h
  split at h
  · obtain ⟨⟨before, after⟩, hcut, rfl⟩ := Option.map_eq_some_iff.mp h
    rw [(cutFirst_eq_some_iff.mp hcut).1]
    exact (List.suffix_cons _ after).trans (List.suffix_append ('\x7b' :: before) _)
  · cases h
    exact List.suffix_cons _ _
  · cases h

theorem propertyName?_append (s : List Char) :
    propertyName? (s ++ closing) = (propertyName? s).map (fun r => (r.1, r.2 ++ closing)) ∨
      propertyName? s = none ∧ ∀ r, propertyName? (s ++ closing) = some r → r.2 <:+ ['$'] := by
  match s with
  | [] =>
    refine .inr ⟨rfl, fun r h => ?_⟩
    cases h
    exact List.suffix_refl _
  | c :: s =>
    left
    by_cases hc : c = '\x7b'
    · subst hc
      show (cutFirst '\x7d' (s ++ closing)).map _ = ((cutFirst '\x7d' s).map _).map _
      rw [cutFirst_append (by decide), Option.map_map, Option.map_map]
      rfl
    · rw [List.cons_append, propertyName?.eq_2 _ _ fun h => hc h,
        propertyName?.eq_2 _ _ fun h => hc h]
      rfl

theorem tame_propertySet (letter : Char) : Tame w k (propertySet letter) := by
  refine .get (fun st => ?_) fun _ => rfl
  refine tame_reading_past (g := propertyName?)
    (f := fun found => pure (.set ('\\' :: letter :: found) st.flags.caseless)) (fun st => ?_)
    propertyName?_suffix propertyName?_append fun _ => .pure _
  show (do
    let r ← liftM (propertyName? st.rest)
    setRest r.2
    return .set ('\\' :: letter :: r.1) _ : Parse Escape) st = _
  cases propertyName? st.rest <;> rfl

/-- Looking at the next character, where the end is as the parenthesis. -/
theorem tame_peek {f : Option Char → Parse α} (hclose : f none = f (some ')'))
    (hf : ∀ c, Tame w k (f c)) : Tame w k (peek >>= f) := by
  have heq : peek >>= f = rest >>= fun s => f s.head? := rfl
  have hhead : ∀ s : List Char, f (s ++ closing).head? = f s.head? := by
    intro s
    cases s with
    | nil => exact hclose.symm
    | cons c s => rfl
  rw [heq]
  exact .get (fun st => hf st.rest.head?) fun st => hhead st.rest

theorem tame_boundary (a : Anchor) : Tame w k (boundary a) :=
  .seq tame_skip fun _ => tame_peek rfl fun _ => .ite .failure (.pure _)

theorem tame_commonEscape (c : Char) (bracketed : Bool) : Tame w k (commonEscape c bracketed) := by
  unfold commonEscape
  split
  · exact .pure _
  · exact .pure _
  · exact tame_hexCharacter 2
  · exact tame_hexCharacter 4
  · exact tame_hexCharacter 8
  · exact tame_propertySet _
  · exact tame_propertySet _
  · refine .ite (.get (fun _ => .pure _) fun _ => rfl) ?_
    split
    · exact .pure _
    · exact .ite .failure (.pure _)

theorem tame_memberEscape : Tame w k memberEscape := by
  refine .next isDigit (fun _ => failure)
    (fun c => if c == 'b' then pure (.char '\x08' false) else commonEscape c true)
    (fun _ _ => rfl) (fun c s st _ => ?_) (fun _ => .failure)
    fun c => (Tame.ite (.pure _) (tame_commonEscape c true)).toLoose
  dsimp only
  split <;> rfl

theorem tame_reference (relative : Bool) {close : String} (hclose : IsNameEnd close) :
    Tame w k (namedReference relative close >>= fun n => referenceTo n) :=
  .seq (tame_namedReference relative hclose) tame_referenceTo

theorem tame_signEscape (c : Char) : Tame w k (signEscape c) := by
  unfold signEscape
  dsimp only
  split
  · refine .seq (tame_accept (by decide)) fun _ => .ite ?_ ?_
    · exact .seq (tame_namedReference true (by simp [IsNameEnd])) fun n =>
        .seq (tame_referenceTo n) fun _ => .pure _
    · refine .seq (tame_accept (by decide)) fun _ => .ite ?_ .failure
      exact .seq (tame_namedReference true (by simp [IsNameEnd])) fun n =>
        .seq (tame_referenceTo n) fun _ => .pure _
  · exact .pure _
  · exact .pure _
  · exact .pure _
  · exact tame_boundary _
  · exact tame_boundary _
  · exact .pure _
  · exact .pure _
  · exact .pure _
  · exact .pure _
  · exact .pure _
  · exact tame_commonEscape _ _

theorem tame_escape : Tame w (k + 1) escape := by
  refine .next isDigit
    (fun _ => numberedReference >>= fun n => referenceTo n >>= fun r => pure (.pattern r))
    signEscape (fun _ _ => rfl) (fun c s st _ => ?_)
    (fun _ => tame_numberedReference.bind (l := 0) fun n =>
      .seq (tame_referenceTo n) fun _ => .pure _)
    fun c => (tame_signEscape c).toLoose
  dsimp only
  split <;> rfl

end TreePath.Regex.Parser
