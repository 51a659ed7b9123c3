/-
TreePath.Proofs.Regex.Pieces — how the parts of a regular pattern are read.

Where white space is not skipped, what the reader of regular patterns does with a text can be told
from its first character. This module says so for each part of the reader: bounds of repetitions,
atoms, groups, pieces of sequences, and alternatives. What is read of the front of a text is given
as an option, so that one equation says when it can be read and what comes of it.
-/
import TreePath.Proofs.Regex.Brackets
import TreePath.Proofs.Text.Digits
import TreePath.Regex.Notation
import TreePath.Regex.Regular.Parser

namespace TreePath.Regex.Regular.Parser

open TreePath.Text TreePath.Text.Unicode

variable {α β : Type} {flags : Flags} {inner : Parse Regular} {k n m : Nat} {s t w : List Char}

/-! ## What comes next -/

/-- The state in front of a text, behind so many groups. -/
def State.before (flags : Flags) (k : Nat) (s : List Char) : State :=
  { rest := s, flags, groupCount := k }

/-- The text does not begin with a sign of repetition. -/
def NoSign (s : List Char) : Prop := ∀ c ∈ s.head?, c ∉ ['?', '*', '+', '\x7b']

/-- The text begins with an atom. -/
def Starts (s : List Char) : Prop := ∃ c ∈ s.head?, c ∉ ['|', ')', '?', '*', '+', '\x7b']

/-- A sequence ends in front of the text. -/
def Ends (s : List Char) : Prop := ∀ c ∈ s.head?, c ∈ ['|', ')']

/-- A group, or the whole text, ends in front of the text. -/
def Closes (s : List Char) : Prop := ∀ c ∈ s.head?, c = ')'

theorem Closes.ends (h : Closes s) : Ends s := fun c hc => by simp [h c hc]

theorem closes_cons (s : List Char) : Closes (')' :: s) := fun c hc => by simpa using hc.symm

theorem Ends.noSign (h : Ends s) : NoSign s := fun c hc => by
  obtain rfl | rfl : c = '|' ∨ c = ')' := by simpa using h c hc
  all_goals decide

theorem Starts.noSign (h : Starts s) : NoSign s := by
  obtain ⟨c, hc, hno⟩ := h
  intro d hd
  cases hc.symm.trans hd
  simp at hno ⊢
  tauto

theorem Starts.append (h : Starts s) (t : List Char) : Starts (s ++ t) := by
  obtain ⟨c, hc, hno⟩ := h
  cases s with
  | nil => cases hc
  | cons => exact ⟨c, hc, hno⟩

theorem Starts.ne_nil (h : Starts s) : s ≠ [] := by
  rintro rfl
  obtain ⟨c, hc, -⟩ := h
  cases hc

theorem starts_cons {c : Char} (hc : c ∉ ['|', ')', '?', '*', '+', '\x7b']) (s : List Char) :
    Starts (c :: s) := ⟨c, rfl, hc⟩
theorem noSign_bar (s : List Char) : NoSign ('|' :: s) := by simp [NoSign]

/-! ## Sequences -/

theorem bind_apply (f : Parse α) (g : α → Parse β) (st : State) :
    (f >>= g) st = (f st).bind fun x => g x.1 x.2 := rfl

theorem upcoming_before (hplain : flags.extended = false) :
    upcoming (.before flags k s) = some (s, .before flags k s) := by
  show some (next flags s, State.before flags k (next flags s)) = _
  rw [next_plain hplain]
theorem repeated_of_noSign (hplain : flags.extended = false) (hs : NoSign s) (r : Regular) :
    repeated n r (.before flags k s) = some (r, .before flags k s) := by
  cases n with
  | zero => rfl
  | succ n =>
    rw [repeated, bind_apply, upcoming_before hplain]
    simp only [Option.bind_some]
    split
    all_goals first | rfl | exact absurd (hs _ rfl) (by simp)

theorem pieces_of_ends (hplain : flags.extended = false) (hs : Ends s) :
    pieces inner (n + 1) (.before flags k s) = some ([], .before flags k s) := by
  rw [pieces, bind_apply, upcoming_before hplain]
  cases s with
  | nil => rfl
  | cons c s =>
    obtain rfl | rfl : c = '|' ∨ c = ')' := by simpa using hs c rfl
    all_goals rfl

theorem pieces_of_starts (hplain : flags.extended = false) (hs : Starts s) :
    pieces inner (n + 1) (.before flags k s) =
      (atom inner (.before flags k s)).bind fun x =>
        match x.1 with
        | some r => (repeated (s.length + 1) r x.2).bind fun y =>
          (pieces inner n y.2).map fun z => (y.1 :: z.1, z.2)
        | none => pieces inner n x.2 := by
  obtain ⟨c, hc, hno⟩ := hs
  rw [pieces, bind_apply, upcoming_before hplain]
  simp only [Option.bind_some]
  split
  · cases hc
  · cases hc; simp at hno
  · cases hc; simp at hno
  · rw [bind_apply]
    refine congrArg _ (funext fun x => ?_)
    obtain ⟨_ | r, st⟩ := x
    · rfl
    · dsimp only
      rw [bind_apply]
      refine congrArg _ (funext fun y => ?_)
      rw [bind_apply]
      cases pieces inner n y.2 <;> rfl

/-! ## Bounds -/

/-- The bounds are in order, and none is too great to be written. -/
def fits (least : Nat) (most : Option Nat) : Bool :=
  least ≤ maxCount && most.all fun m => least ≤ m && m ≤ maxCount

theorem digits_append {ds rest : List Char} (hds : ∀ c ∈ ds, isDigit c = true)
    (hrest : NoDigit rest)
    (hn : ds.length ≤ n) : digits {} n (ds ++ rest) = (ds, rest) := by
  induction ds generalizing n with
  | nil =>
    cases n with
    | zero => rfl
    | succ n =>
      cases rest with
      | nil => rfl
      | cons c rest =>
        rw [List.nil_append, digits, if_neg]
        simp [hrest c rfl]
  | cons d ds ih =>
    obtain _ | n := n
    · cases hn
    rw [List.cons_append, digits, if_pos (hds d (by simp)), next_plain rfl,
      ih (fun c hc => hds c (by simp [hc])) (Nat.le_of_succ_le_succ hn)]

theorem count?_natDigits {c : Char} (m : Nat) (hc : c ∈ [',', '\x7d']) :
    count? {} (natDigits m ++ c :: s) = if maxCount < m then none else some (m, c :: s) := by
  obtain ⟨d, ds, hm, hd⟩ := natDigits_eq_cons m
  have hdrop : (natDigits m ++ c :: s).dropWhile isWhiteSpace = natDigits m ++ c :: s := by
    rw [hm, List.cons_append, List.dropWhile_cons_of_neg (by simp [not_white_of_isDigit hd])]
  have hend : isDigit c = false ∧ isWhiteSpace c = false := by
    obtain rfl | rfl : c = ',' ∨ c = '\x7d' := by simpa using hc
    all_goals decide
  have hdigits : digits {} (natDigits m ++ c :: s).length (natDigits m ++ c :: s) =
      (natDigits m, c :: s) :=
    digits_append (fun _ => isDigit_of_mem_natDigits) (noDigit_cons hend.1) (by simp)
  have hcount : count? {} (natDigits m ++ c :: s) =
      if (natDigits m).isEmpty || maxCount < digitsValue (natDigits m) then none
      else some (digitsValue (natDigits m), (c :: s).dropWhile isWhiteSpace) := by
    rw [count?, hdrop, hdigits]
    rfl
  rw [hcount, digitsValue_natDigits, List.dropWhile_cons_of_neg (by simp [hend.2])]
  simp [natDigits_ne_nil]

theorem bounds_exact (m : Nat) :
    bounds {} (natDigits m ++ '\x7d' :: s) =
      if fits m (some m) then some ((m, some m), s) else none := by
  rw [bounds, next_plain rfl, count?_natDigits m (by simp)]
  by_cases hm : maxCount < m
  · rw [if_pos hm, if_neg (by simp [fits]; omega)]
    rfl
  · rw [if_neg hm, if_pos (by simp [fits]; omega)]
    simp [next_plain]

theorem bounds_from (m : Nat) :
    bounds {} (natDigits m ++ ',' :: '\x7d' :: s) =
      if fits m none then some ((m, none), s) else none := by
  rw [bounds, next_plain rfl, count?_natDigits m (by simp)]
  by_cases hm : maxCount < m
  · rw [if_pos hm, if_neg (by simp [fits]; omega)]
    rfl
  · rw [if_neg hm, if_pos (by simp [fits]; omega)]
    simp [next_plain]

theorem bounds_between (least most : Nat) :
    bounds {} (natDigits least ++ ',' :: (natDigits most ++ '\x7d' :: s)) =
      if fits least (some most) then some ((least, some most), s) else none := by
  obtain ⟨d, ds, hmost, hd⟩ := natDigits_eq_cons most
  have hd' : d ≠ '\x7d' := by rintro rfl; exact absurd hd (by decide)
  rw [bounds, next_plain rfl, count?_natDigits least (by simp)]
  by_cases hleast : maxCount < least
  · rw [if_pos hleast, if_neg (by simp [fits]; omega)]
    rfl
  · rw [if_neg hleast]
    have hnext : next {} (natDigits most ++ '\x7d' :: s) = d :: (ds ++ '\x7d' :: s) := by
      rw [next_plain rfl, hmost, List.cons_append]
    have hcount := count?_natDigits (s := s) most (c := '\x7d') (by simp)
    rw [hmost, List.cons_append] at hcount
    simp only [Option.bind_eq_bind, Option.bind_some, hnext]
    split
    · rename_i heq
      exact absurd (List.cons.inj heq).1 hd'
    · rw [hcount]
      by_cases hm : maxCount < most
      · rw [if_pos hm, if_neg (by simp [fits]; omega)]
        rfl
      · rw [if_neg hm]
        by_cases hle : least ≤ most
        · rw [if_pos (by simp [fits]; omega)]
          simp [next_plain]
          omega
        · rw [if_neg (by simp [fits]; omega)]
          simp
          omega

/-- Goes on behind the sign of a repetition. -/
def times (n : Nat) (r : Regular) (least : Nat) (most : Option Nat) (s : List Char) :
    Parse Regular := do
  let swap := (← get).flags.swapGreed
  match s with
  | '?' :: s =>
    setRest s
    repeated n (.repeat r least most swap)
  | s =>
    setRest s
    repeated n (.repeat r least most !swap)

theorem repeated_succ (n : Nat) (r : Regular) : repeated (n + 1) r = (do
    match ← upcoming with
    | '?' :: s => times n r 0 (some 1) s
    | '*' :: s => times n r 0 none s
    | '+' :: s => times n r 1 none s
    | '\x7b' :: s =>
      match bounds (← get).flags s with
      | some ((least, most), s) => times n r least most s
      | none => failure
    | _ => return r) := rfl

/-- A question mark behind a repetition says that it is reluctant. -/
def reluctance (greedy : Bool) : List Char := if greedy then [] else ['?']

theorem times_reluctance {u : List Char} {r : Regular} {least : Nat} {most : Option Nat}
    (greedy : Bool) (hs : NoSign s) :
    times n r least most (reluctance greedy ++ s) (.before {} k u) =
      some (.repeat r least most greedy, .before {} k s) := by
  cases greedy with
  | false => exact repeated_of_noSign rfl hs _
  | true =>
    cases s with
    | nil => exact repeated_of_noSign rfl hs _
    | cons c s =>
      have hsign : c ≠ '?' := fun h => hs c rfl (by simp [h])
      have htimes (f g : List Char → Parse Regular) : (match c :: s with
          | '?' :: s => f s
          | s => g s) = g (c :: s) := by
        split
        · exact absurd (List.cons.inj ‹_›).1 hsign
        · rfl
      exact (congrFun (htimes _ _) _).trans (repeated_of_noSign rfl hs _)

theorem repeated_brace (r : Regular) : repeated (n + 1) r (.before {} k ('\x7b' :: s)) =
    (bounds {} s).bind fun x => times n r x.1.1 x.1.2 x.2 (.before {} k ('\x7b' :: s)) := by
  rw [repeated_succ, bind_apply, upcoming_before rfl]
  simp only [Option.bind_some, bind_apply]
  show (match bounds {} s with
    | some ((least, most), s) => times n r least most s
    | none => failure : Parse Regular) _ = _
  cases bounds {} s <;> rfl

theorem repeated_writtenBounds (least : Nat) (most : Option Nat) (greedy : Bool) (r : Regular)
    (hs : NoSign s) :
    repeated (n + 1) r
        (.before {} k (writtenBounds least most ++ reluctance greedy ++ s)) =
      if fits least most then some (.repeat r least most greedy, .before {} k s) else none := by
  have hbraced (v : List Char) (hv : bounds {} (v ++ (reluctance greedy ++ s)) =
      if fits least most then some ((least, most), reluctance greedy ++ s) else none) :
      repeated (n + 1) r (.before {} k ('\x7b' :: v ++ (reluctance greedy ++ s))) =
        if fits least most then some (.repeat r least most greedy, .before {} k s) else none := by
    rw [List.cons_append, repeated_brace, hv]
    split
    · exact times_reluctance greedy hs
    · rfl
  rw [List.append_assoc, writtenBounds.eq_def]
  split
  · exact times_reluctance greedy hs
  · exact times_reluctance greedy hs
  · exact times_reluctance greedy hs
  · refine hbraced (natDigits _ ++ [',', '\x7d']) ?_
    rw [List.append_assoc]
    exact bounds_from _
  · split
    · subst least
      refine hbraced (natDigits _ ++ ['\x7d']) ?_
      rw [List.append_assoc]
      exact bounds_exact _
    · refine hbraced (natDigits _ ++ ',' :: natDigits _ ++ ['\x7d']) ?_
      rw [List.append_assoc, List.append_assoc]
      exact bounds_between _ _


/-! ## Atoms -/

section
variable (hplain : flags.extended = false)
include hplain

theorem atom_any : atom inner (.before flags k ('.' :: s)) =
    some (some (.set (if flags.dotMatchesNewline then .all
      else (CharSet.singleton '\n').complement)), .before flags k s) := by
  rw [atom, bind_apply, upcoming_before hplain]
  rfl

theorem atom_start : atom inner (.before flags k ('^' :: s)) =
    some (some (.edge (if flags.multiline then .lineStart else .textStart)),
      .before flags k s) := by
  rw [atom, bind_apply, upcoming_before hplain]
  rfl

theorem atom_end : atom inner (.before flags k ('$' :: s)) =
    some (some (.edge (if flags.multiline then .lineEnd else .textEnd)), .before flags k s) := by
  rw [atom, bind_apply, upcoming_before hplain]
  rfl

theorem atom_group : atom inner (.before flags k ('(' :: s)) = group inner (.before flags k s) := by
  rw [atom, bind_apply, upcoming_before hplain]
  rfl

theorem atom_bracket : atom inner (.before flags k ('[' :: s)) =
    (readBracket flags s).map fun x => (some (Regular.set x.1), .before flags k x.2) := by
  rw [atom, bind_apply, upcoming_before hplain]
  show ((readBracket flags s).map fun x => (x.1, State.before flags k x.2)).bind _ = _
  cases readBracket flags s <;> rfl

theorem atom_escape : atom inner (.before flags k ('\\' :: s)) =
    (readEscape flags s).map fun x => (some (match x.1 with
      | .char c => literal flags c
      | .set t => .set t), .before flags k x.2) := by
  rw [atom, bind_apply, upcoming_before hplain]
  show ((readEscape flags s).map fun x => (x.1, State.before flags k x.2)).bind _ = _
  obtain _ | ⟨_ | _, _⟩ := readEscape flags s <;> rfl

theorem atom_plain {c : Char} (hc : c ∉ specialSigns) :
    atom inner (.before flags k (c :: s)) = some (some (literal flags c), .before flags k s) := by
  have hsign : ¬ (['?', '*', '+', '\x7b'].contains c = true) := by
    simp [specialSigns] at hc ⊢
    tauto
  rw [atom, bind_apply, upcoming_before hplain, Option.bind_some, bind_apply]
  simp only [if_neg hsign]
  show ((setRest s >>= _ : Parse (Option Regular)) (.before flags k (c :: s))) = _
  rw [bind_apply]
  show (Option.bind (some ((), State.before flags k s)) _) = _
  rw [Option.bind_some]
  split
  case h_7 => rfl
  all_goals exact absurd hc (by simp [specialSigns])

end

/-! ## Groups -/

/-- A group has been read, if its inside has been read up to the end of the group. -/
theorem inside_eq {o : Option (Regular × Nat)} (hplain : flags.extended = false)
    (h : inner (.before flags k s) = o.map fun x => (x.1, .before flags x.2 (')' :: t))) :
    inside inner (.before flags k s) = o.map fun x => (x.1, .before flags x.2 t) := by
  rw [inside, bind_apply, h]
  cases o with
  | none => rfl
  | some x =>
    show (upcoming >>= _ : Parse Regular) (.before flags x.2 (')' :: t)) = _
    rw [bind_apply, upcoming_before hplain]
    rfl

theorem group_keeping {o : Option (Regular × Nat)} (hs : NoSign s)
    (h : inner (.before {} (k + 1) s) = o.map fun x => (x.1, .before {} x.2 (')' :: t))) :
    group inner (.before {} k s) =
      o.map fun x => (some (.group (some (k + 1)) x.1), .before {} x.2 t) := by
  have hinside := inside_eq rfl h
  have hkeeping : (keeping inner >>= fun r => pure (some r) : Parse (Option Regular))
      (.before {} k s) = o.map fun x => (some (.group (some (k + 1)) x.1), .before {} x.2 t) := by
    show Option.bind (Option.bind (Option.bind (inside inner (.before {} (k + 1) s)) _) _) _ = _
    rw [hinside]
    cases o <;> rfl
  rw [group, bind_apply, upcoming_before rfl, Option.bind_some]
  dsimp only
  split
  · exact absurd (hs _ rfl) (by simp)
  · exact absurd (hs _ rfl) (by simp)
  · exact absurd (hs _ rfl) (by simp)
  · exact hkeeping

/-- The flags that a group sets with one letter, or with none. -/
def withLetter : Option Char → Flags
  | some 'i' => { caseless := true }
  | some 's' => { dotMatchesNewline := true }
  | some 'm' => { multiline := true }
  | _ => {}

/-- A group that keeps nothing, and the flags inside it. -/
def plainGroup (inner : Parse Regular) (flags : Flags) (s : List Char) :
    Parse (Option Regular) := do
  let r ← keepingFlags do
    modify fun st => { st with rest := s, flags }
    inside inner
  return some (.group none r)

theorem group_plain {letter : Option Char}
    (hletter : letter ∈ [none, some 'i', some 's', some 'm']) :
    group inner (.before {} k ('?' :: (letter.toList ++ ':' :: s))) =
      plainGroup inner (withLetter letter) s (.before {} k s) := by
  have hnone : s.length + 1 - s.length - 1 = 0 := by omega
  have hone : s.length + 1 + 1 - s.length - 1 = 1 := by omega
  rw [group, bind_apply, upcoming_before rfl, Option.bind_some]
  obtain rfl | rfl | rfl | rfl : letter = none ∨ letter = some 'i' ∨ letter = some 's' ∨
    letter = some 'm' := by simpa using hletter
  · show (if ((List.take (s.length + 1 - s.length - 1) _).getLast? == _) = true then _ else _ :
      Parse (Option Regular)) _ = _
    rw [hnone]
    rfl
  all_goals
    show (if ((List.take (s.length + 1 + 1 - s.length - 1) _).getLast? == _) = true then _ else _ :
      Parse (Option Regular)) _ = _
    rw [hone]
    rfl

theorem group_letter {o : Option (Regular × Nat)} {letter : Option Char}
    (hletter : letter ∈ [none, some 'i', some 's', some 'm'])
    (h : inner (.before (withLetter letter) k s) =
      o.map fun x => (x.1, .before (withLetter letter) x.2 (')' :: t))) :
    group inner (.before {} k ('?' :: (letter.toList ++ ':' :: s))) =
      o.map fun x => (some (.group none x.1), .before {} x.2 t) := by
  have hplain : (withLetter letter).extended = false := by
    unfold withLetter
    split <;> rfl
  rw [group_plain hletter]
  show Option.bind (Option.bind (inside inner (.before (withLetter letter) k s)) _) _ = _
  rw [inside_eq hplain h]
  cases o <;> rfl

/-! ## Levels -/

theorem match_of_no_bar {γ : Type} (u : List Char) (f : List Char → γ) (a : γ) :
    (∀ t, u ≠ '|' :: t) →
    (match u with
      | '|' :: t => f t
      | _ => a) = a := by
  intro h
  split
  · exact absurd rfl (h _)
  · rfl

theorem branches_succ (n : Nat) (st : State) : branches inner (n + 1) st =
    (pieces inner (st.rest.length + 1) st).bind fun x =>
      (upcoming x.2).bind fun y =>
        match y.1 with
        | '|' :: t => (branches inner n { y.2 with rest := t }).map fun z =>
          (sequence x.1 :: z.1, z.2)
        | _ => some ([sequence x.1], y.2) := by
  rw [branches, bind_apply]
  show ((pieces inner (st.rest.length + 1) >>= _ : Parse _) st) = _
  rw [bind_apply]
  refine congrArg _ (funext fun x => ?_)
  show ((upcoming >>= _ : Parse _) x.2) = _
  rw [bind_apply]
  refine congrArg _ (funext fun ⟨u, st'⟩ => ?_)
  by_cases hbar : ∃ t, u = '|' :: t
  · obtain ⟨t, rfl⟩ := hbar
    show Option.bind (branches inner n { st' with rest := t }) _ =
      Option.map _ (branches inner n { st' with rest := t })
    cases branches inner n { st' with rest := t } <;> rfl
  · have hother (t : List Char) (h : u = '|' :: t) : False := hbar ⟨t, h⟩
    exact (congrFun (match_of_no_bar u _ _ hother) _).trans (match_of_no_bar u _ _ hother).symm

theorem branches_of_closes {o : Option (List Regular × Nat)} (hplain : flags.extended = false)
    (ht : Closes t) (h : pieces inner (s.length + 1) (.before flags k s) =
      o.map fun x => (x.1, .before flags x.2 t)) :
    branches inner (n + 1) (.before flags k s) =
      o.map fun x => ([sequence x.1], .before flags x.2 t) := by
  rw [branches_succ]
  show Option.bind (pieces inner (s.length + 1) (.before flags k s)) _ = _
  rw [h]
  cases o with
  | none => rfl
  | some x =>
    simp only [Option.map_some, Option.bind_some, upcoming_before hplain]
    split
    · exact absurd (ht _ rfl) (by decide)
    · rfl

theorem branches_of_bar {o : Option (List Regular × Nat)} (hplain : flags.extended = false)
    (h : pieces inner (s.length + 1) (.before flags k s) =
      o.map fun x => (x.1, .before flags x.2 ('|' :: t))) :
    branches inner (n + 1) (.before flags k s) = o.bind fun x =>
      (branches inner n (.before flags x.2 t)).map fun z => (sequence x.1 :: z.1, z.2) := by
  rw [branches_succ]
  show Option.bind (pieces inner (s.length + 1) (.before flags k s)) _ = _
  rw [h]
  cases o with
  | none => rfl
  | some x => simp only [Option.map_some, Option.bind_some, upcoming_before hplain]; rfl

theorem level_of_branches {o : Option (List Regular × Nat)}
    (h : branches inner (s.length + 1) (.before flags k s) =
      o.map fun x => (x.1, .before flags x.2 t)) :
    level inner (.before flags k s) =
      o.map fun x => (alternatives x.1, .before flags x.2 t) := by
  rw [level, bind_apply]
  show ((branches inner (s.length + 1) >>= _ : Parse _) (.before flags k s)) = _
  rw [bind_apply, h]
  cases o <;> rfl

theorem level_of_pieces {o : Option (List Regular × Nat)} (hplain : flags.extended = false)
    (ht : Closes t) (h : pieces inner (s.length + 1) (.before flags k s) =
      o.map fun x => (x.1, .before flags x.2 t)) :
    level inner (.before flags k s) =
      o.map fun x => (sequence x.1, .before flags x.2 t) := by
  have hbranches : branches inner (s.length + 1) (.before flags k s) =
      (o.map fun x => ([sequence x.1], x.2)).map fun x => (x.1, .before flags x.2 t) := by
    rw [branches_of_closes hplain ht h]
    cases o <;> rfl
  rw [level_of_branches hbranches]
  cases o <;> rfl

/-- What `o` says can be read as a piece of a sequence in front of the text `t`. -/
def ReadsPiece (inner : Parse Regular) (flags : Flags) (k : Nat) (w t : List Char)
    (o : Option (Regular × Nat)) : Prop :=
  ∀ n, pieces inner (n + 1) (.before flags k (w ++ t)) = o.bind fun x =>
    (pieces inner n (.before flags x.2 t)).map fun z => (x.1 :: z.1, z.2)

theorem ReadsPiece.pieces_of_ends {o : Option (Regular × Nat)} (hplain : flags.extended = false)
    (h : ReadsPiece inner flags k w t o) (ht : Ends t) (n : Nat) :
    pieces inner (n + 1 + 1) (.before flags k (w ++ t)) =
      (o.map fun x => ([x.1], x.2)).map fun x => (x.1, .before flags x.2 t) := by
  rw [h (n + 1)]
  cases o with
  | none => rfl
  | some x => simp only [Option.bind_some, Parser.pieces_of_ends hplain ht]; rfl

/-- An atom without a repetition. -/
theorem readsPiece_of_atom {o : Option (Regular × Nat)} (hplain : flags.extended = false)
    (hw : Starts w) (ht : NoSign t)
    (h : atom inner (.before flags k (w ++ t)) = o.map fun x => (some x.1, .before flags x.2 t)) :
    ReadsPiece inner flags k w t o := by
  intro n
  rw [pieces_of_starts hplain (hw.append t), h]
  cases o with
  | none => rfl
  | some x => simp only [Option.map_some, Option.bind_some, repeated_of_noSign hplain ht]

/-- A piece on its own. -/
theorem ReadsPiece.level {o : Option (Regular × Nat)} (hplain : flags.extended = false)
    (h : ReadsPiece inner flags k w t o) (hw : Starts w) (ht : Closes t) :
    level inner (.before flags k (w ++ t)) = o.map fun x => (x.1, .before flags x.2 t) := by
  obtain ⟨m, hm⟩ : ∃ m, (w ++ t).length = m + 1 :=
    Nat.exists_eq_succ_of_ne_zero (by simp [hw.ne_nil])
  have hone := h.pieces_of_ends hplain ht.ends m
  rw [← hm] at hone
  rw [level_of_pieces hplain ht hone]
  cases o <;> rfl

end TreePath.Regex.Regular.Parser
