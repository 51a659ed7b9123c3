/-
TreePath.Proofs.Regex.Brackets — reading a set of characters in front of other text.

Where white space is not skipped, a set is read in the same way whatever follows it: an escape, a
member or a bracket that has been read to its end leaves the text behind it alone (`Reads`). Only
the names of ASCII classes are looked for further on than they may stand; but behind a bracket that
is closed later on, no name of a class is found that way (`readAsciiClass_append`).
-/
import TreePath.Regex.Regular.Bracket

namespace TreePath.Regex.Regular

open TreePath.Text TreePath.Text.Unicode

variable {α : Type} {flags : Flags}

/-- What `f` reads from the text is read whatever follows. -/
structure Reads (f : List Char → Option (α × List Char)) (s : List Char) (a : α)
    (rest : List Char) : Prop where
  suffix : rest <:+ s
  append (t : List Char) : f (s ++ t) = some (a, rest ++ t)

theorem Reads.map {β : Type} {f : List Char → Option (α × List Char)} {s rest : List Char} {a : α}
    (h : Reads f s a rest) (g : α → β) :
    Reads (fun s => (f s).map fun (a, rest) => (g a, rest)) s (g a) rest :=
  ⟨h.suffix, fun t => by simp only [h.append t, Option.map_some]⟩

/-! ## Without blanks -/

theorem next_plain (hplain : flags.extended = false) (s : List Char) : next flags s = s := by
  simp [next, hplain]

theorem peekBehind_plain (hplain : flags.extended = false) (s : List Char) :
    peekBehind flags s = s.head? := by
  simp [peekBehind, hplain]

/-! ## Escapes -/

theorem bracedName_cons (hplain : flags.extended = false) (n : Nat) (c : Char) (s : List Char) :
    bracedName flags (n + 1) (c :: s) = if c = '\x7d' then some ([], s)
      else (bracedName flags n s).map fun (name, rest) => (c :: name, rest) := by
  rw [bracedName, next_plain hplain]
  split
  · contradiction
  · rename_i heq
    cases heq
    rfl
  · rename_i hc heq
    cases heq
    rw [if_neg hc]

theorem bracedName_append (hplain : flags.extended = false) {n m : Nat}
    {s name rest : List Char} (h : bracedName flags n s = some (name, rest)) (hm : n ≤ m) :
    rest <:+ s ∧ ∀ t, bracedName flags m (s ++ t) = some (name, rest ++ t) := by
  induction n generalizing m s name with
  | zero => cases h
  | succ n ih =>
    obtain _ | m := m
    · cases hm
    cases s with
    | nil =>
      rw [bracedName, next_plain hplain] at h
      cases h
    | cons c s =>
      rw [bracedName_cons hplain] at h
      simp only [List.cons_append, bracedName_cons hplain]
      split at h
      · cases h
        exact ⟨List.suffix_cons _ _, fun t => if_pos ‹_›⟩
      · obtain ⟨⟨name', rest'⟩, hname, heq⟩ := Option.map_eq_some_iff.mp h
        cases heq
        obtain ⟨hsuffix, happend⟩ := ih hname (Nat.le_of_succ_le_succ hm)
        refine ⟨hsuffix.trans (List.suffix_cons _ _), fun t => ?_⟩
        rw [if_neg ‹_›, happend t]
        rfl

/-- The name of a property, one letter or in braces. -/
def propertyName (flags : Flags) : List Char → Option (List Char × List Char)
  | [] => none
  | c :: s =>
    if c = '\x7b' then bracedName flags (s.length + 1) s
    else if c = '\\' then none
    else some ([c], s)

theorem readProperty_eq (hplain : flags.extended = false) (negated : Bool) (s : List Char) :
    readProperty flags negated s = (propertyName flags s).bind fun x =>
      (property? x.1).map fun (found, outside) =>
        ((withoutCase flags found.toSet).negateIf (negated != outside), x.2) := by
  have hmap (name rest : List Char) : ((property? name).bind fun (x : Selection × Bool) =>
      some ((withoutCase flags x.1.toSet).negateIf (negated != x.2), rest)) =
      (property? name).map fun (found, outside) =>
        ((withoutCase flags found.toSet).negateIf (negated != outside), rest) := by
    cases property? name <;> rfl
  rw [readProperty, next_plain hplain]
  cases s with
  | nil => rfl
  | cons c s =>
    rw [propertyName]
    by_cases hbrace : c = '\x7b'
    · subst hbrace
      rw [if_pos rfl]
      exact congrArg (bracedName flags (s.length + 1) s).bind (funext fun x => hmap x.1 x.2)
    · rw [if_neg hbrace]
      split
      · exact absurd (List.cons.inj ‹_›).1 hbrace
      · rename_i heq
        cases heq
        by_cases hslash : c = '\\'
        · subst hslash
          rfl
        · rw [if_neg hslash, if_neg (by simpa using hslash)]
          exact hmap _ _
      · contradiction

theorem reads_propertyName (hplain : flags.extended = false) {s name rest : List Char}
    (h : propertyName flags s = some (name, rest)) : Reads (propertyName flags) s name rest := by
  cases s with
  | nil => cases h
  | cons c s =>
    rw [propertyName] at h
    split at h
    · subst c
      have hbraced := bracedName_append hplain h (Nat.le_refl _)
      refine ⟨hbraced.1.trans (List.suffix_cons _ _), fun t => ?_⟩
      refine (bracedName_append hplain h ?_).2 t
      simp
    · split at h
      · cases h
      · cases h
        refine ⟨List.suffix_cons _ _, fun t => ?_⟩
        rw [List.cons_append, propertyName, if_neg ‹_›, if_neg ‹_›]

/-- A property is read whatever follows. -/
theorem reads_property (hplain : flags.extended = false) {negated : Bool} {s rest : List Char}
    {cs : CharSet} (h : readProperty flags negated s = some (cs, rest)) :
    Reads (readProperty flags negated) s cs rest := by
  rw [readProperty_eq hplain] at h
  obtain ⟨⟨name, rest'⟩, hname, h⟩ := Option.bind_eq_some_iff.mp h
  obtain ⟨⟨found, outside⟩, hfound, heq⟩ := Option.map_eq_some_iff.mp h
  cases heq
  have hreads := reads_propertyName hplain hname
  refine ⟨hreads.suffix, fun t => ?_⟩
  rw [readProperty_eq hplain, hreads.append t, Option.bind_some, hfound]
  rfl

/-- An escape is read whatever follows. -/
theorem reads_escape (hplain : flags.extended = false) {s rest : List Char} {e : Escaped}
    (h : readEscape flags s = some (e, rest)) : Reads (readEscape flags) s e rest := by
  have hletter {c : Char} {e : Escaped} (hc : ∀ s, readEscape flags (c :: s) = some (e, s))
      (s : List Char) : Reads (readEscape flags) (c :: s) e s :=
    ⟨List.suffix_cons c s, fun t => hc (s ++ t)⟩
  have hproperty {c : Char} {negated : Bool} {s rest : List Char} {e : Escaped}
      (hc : ∀ s, readEscape flags (c :: s) =
        (readProperty flags negated s).map fun x => (.set x.1, x.2))
      (h : ((readProperty flags negated s).map fun x => (Escaped.set x.1, x.2)) = some (e, rest)) :
      Reads (readEscape flags) (c :: s) e rest := by
    obtain ⟨⟨cs, rest'⟩, hread, heq⟩ := Option.map_eq_some_iff.mp h
    cases heq
    have hreads := reads_property hplain hread
    refine ⟨hreads.suffix.trans (List.suffix_cons _ _), fun t => ?_⟩
    rw [List.cons_append, hc, hreads.append t]
    rfl
  rw [readEscape.eq_def] at h
  split at h
  · cases h
  iterate 6
    · cases h
      exact hletter (fun _ => rfl) _
  · exact hproperty (fun _ => rfl) h
  · exact hproperty (fun _ => rfl) h
  · cases h
    exact hletter (fun _ => rfl) _
  · split at h
    · cases h
      refine hletter (fun s => ?_) _
      rw [readEscape, if_pos ‹_›]
      all_goals assumption
    · cases h

/-! ## Members of brackets -/

theorem reads_member (hplain : flags.extended = false) {s rest : List Char} {e : Escaped}
    (h : readMember flags s = some (e, rest)) : Reads (readMember flags) s e rest := by
  rw [readMember.eq_def] at h
  split at h
  · cases h
  · have hreads := reads_escape hplain h
    exact ⟨hreads.suffix.trans (List.suffix_cons _ _), hreads.append⟩
  · cases h
    refine ⟨List.suffix_cons _ _, fun t => ?_⟩
    rw [List.cons_append, readMember]
    assumption

/-- The set of one member. -/
def Escaped.toSet : Escaped → CharSet
  | char c => .singleton c
  | set s => s

/-- What a member is with what follows it: a member on its own, or the beginning of a range. -/
def readRange (flags : Flags) (first : Escaped) : List Char → Option (CharSet × List Char)
  | [] => some (first.toSet, [])
  | c :: behind =>
    if c = '-' ∧ ¬ (behind.head? = some ']' ∨ behind.head? = some '-') then
      (readMember flags behind).bind fun x =>
        match first, x.1 with
        | .char a, .char b => if a ≤ b then some (.range a b, x.2) else none
        | _, _ => none
    else some (first.toSet, c :: behind)

theorem readItem_eq (hplain : flags.extended = false) (s : List Char) :
    readItem flags s = (readMember flags s).bind fun x => readRange flags x.1 x.2 := by
  rw [readItem]
  cases readMember flags s with
  | none => rfl
  | some x =>
    obtain ⟨first, rest⟩ := x
    simp only [Option.bind_some, bind, next_plain hplain, peekBehind_plain hplain]
    cases rest with
    | nil => cases first <;> rfl
    | cons c behind =>
      rw [readRange]
      split
      · rename_i heq
        cases heq
        by_cases hsingle : behind.head? = some ']' ∨ behind.head? = some '-'
        · rw [if_pos (by simpa using hsingle), if_neg (fun h => h.2 hsingle)]
          cases first <;> rfl
        · rw [if_neg (by simpa using hsingle), if_pos ⟨rfl, hsingle⟩]
          cases readMember flags behind with
          | none => rfl
          | some y => cases first <;> cases y.1 <;> rfl
      · rename_i hc
        rw [if_neg fun (h : c = '-' ∧ _) => hc behind (h.1 ▸ rfl)]
        cases first <;> rfl

/-- A member or a range is read whatever follows, if it is not the last text that there is. -/
theorem reads_item (hplain : flags.extended = false) {s rest : List Char} {cs : CharSet}
    (h : readItem flags s = some (cs, rest)) (hrest : rest ≠ []) :
    Reads (readItem flags) s cs rest := by
  rw [readItem_eq hplain] at h
  obtain ⟨⟨first, behind⟩, hfirst, h⟩ := Option.bind_eq_some_iff.mp h
  have hreads := reads_member hplain hfirst
  have happend (t : List Char) : readItem flags (s ++ t) = readRange flags first (behind ++ t) := by
    rw [readItem_eq hplain, hreads.append t, Option.bind_some]
  cases behind with
  | nil =>
    cases h
    exact absurd rfl hrest
  | cons c behind =>
    simp only [readRange] at h
    split at h
    · rename_i hrange
      obtain ⟨⟨second, rest'⟩, hsecond, hset⟩ := Option.bind_eq_some_iff.mp h
      have hreads' := reads_member hplain hsecond
      obtain ⟨d, behind, rfl⟩ : ∃ d behind', behind = d :: behind' := by
        cases behind with
        | nil => cases hsecond
        | cons d behind => exact ⟨d, behind, rfl⟩
      have hrest' : rest' = rest ∧ ∀ t, readItem flags (s ++ t) = some (cs, rest' ++ t) := by
        cases first with
        | set _ => cases hset
        | char a =>
          cases second with
          | set _ => cases hset
          | char b =>
            simp only at hset
            split at hset
            · cases hset
              refine ⟨rfl, fun t => ?_⟩
              rw [happend, List.cons_append, readRange]
              refine (if_pos hrange).trans ?_
              rw [hreads'.append t, Option.bind_some]
              exact if_pos ‹_›
            · cases hset
      obtain ⟨rfl, happend⟩ := hrest'
      exact ⟨(hreads'.suffix.trans (List.suffix_cons _ _)).trans hreads.suffix, happend⟩
    · rename_i hsingle
      cases h
      refine ⟨hreads.suffix, fun t => ?_⟩
      rw [happend, List.cons_append, readRange, if_neg]
      cases behind with
      | nil => exact fun h => hsingle ⟨h.1, by simp⟩
      | cons _ _ => exact hsingle

/-! ## Named classes -/

theorem close_not_mem_of_lookup {name : String} {ranges : List (Char × Char)}
    (h : asciiClasses.lookup name = some ranges) : ']' ∉ name.toList := by
  have hnames : ∀ entry ∈ asciiClasses, ']' ∉ entry.1.toList := by decide +kernel
  obtain ⟨front, back, heq, -⟩ := List.lookup_eq_some_iff.mp h
  exact hnames (name, ranges) (heq ▸ List.mem_append_right _ List.mem_cons_self)

/-- What follows the signs at the end of a named class. -/
def afterClass : List Char → Option (List Char)
  | ':' :: ']' :: rest => some rest
  | _ => none

/-- A named class from its name on. -/
def readClassName (flags : Flags) (negated : Bool) (s : List Char) :
    Option (CharSet × List Char) :=
  (afterClass (s.dropWhile (· != ':'))).bind fun rest =>
    (asciiClasses.lookup (String.ofList (s.takeWhile (· != ':')))).map fun ranges =>
      let found := ranges.foldr (fun (a, b) t => (CharSet.range a b).union t) .empty
      ((withoutCase flags found).negateIf negated, rest)

theorem readAsciiClass_cons (flags : Flags) (c d : Char) (s : List Char) :
    readAsciiClass flags (c :: d :: s) = if c = ':' then
      if d = '^' then readClassName flags true s else readClassName flags false (d :: s)
    else none := by
  have hend (u : List Char) (g : List Char → Option (CharSet × List Char)) :
      (match u with
        | ':' :: ']' :: rest => g rest
        | _ => none) = (afterClass u).bind g := by
    unfold afterClass
    split <;> rfl
  rw [readAsciiClass.eq_def]
  split
  · rename_i heq
    cases heq
    rw [if_pos rfl]
    by_cases hd : d = '^'
    · subst hd
      rw [if_pos rfl]
      exact hend _ _
    · rw [if_neg hd]
      split
      rename_i heq
      split at heq
      · rename_i heq'
        exact absurd (List.cons.inj heq').1 hd
      · cases heq
        exact hend _ _
  · rename_i hc
    rw [if_neg fun (h : c = ':') => hc (d :: s) (h ▸ rfl)]

theorem afterClass_cons (c : Char) (s : List Char) :
    afterClass (':' :: c :: s) = if c = ']' then some s else none := by
  unfold afterClass
  split
  · rename_i heq
    cases heq
    rfl
  · rename_i hc
    rw [if_neg fun (h : c = ']') => hc s (h ▸ rfl)]

theorem readClassName_append {negated : Bool} {s : List Char} (hclose : ']' ∈ s) (t : List Char) :
    readClassName flags negated (s ++ t) =
      (readClassName flags negated s).map fun (cs, rest) => (cs, rest ++ t) := by
  -- A name that goes as far as the bracket is not that of a class.
  have hnone {name : List Char} {α : Type} (h : ']' ∈ name) (g : List (Char × Char) → α) :
      (asciiClasses.lookup (String.ofList name)).map g = none := by
    rw [Option.map_eq_none_iff]
    cases hlookup : asciiClasses.lookup (String.ofList name) with
    | none => rfl
    | some ranges => exact absurd (by simpa using h) (close_not_mem_of_lookup hlookup)
  by_cases hcolon : ':' ∈ s
  · obtain ⟨front, back, rfl, hfront⟩ := List.eq_append_cons_of_mem hcolon
    have hplain : ∀ c ∈ front, (c != ':') = true := fun c hc =>
      bne_iff_ne.mpr fun h => hfront (h ▸ hc)
    have hends (back : List Char) : (front ++ ':' :: back).dropWhile (· != ':') = ':' :: back ∧
        (front ++ ':' :: back).takeWhile (· != ':') = front := by
      constructor
      · rw [List.dropWhile_append_of_pos hplain]
        rfl
      · rw [List.takeWhile_append_of_pos hplain]
        simp
    rw [List.append_assoc, List.cons_append, readClassName, readClassName, (hends _).1, (hends _).2,
      (hends _).1, (hends _).2]
    cases back with
    | nil =>
      have hname : ']' ∈ front := by simpa using hclose
      simp only [hnone hname, Option.bind_fun_none, Option.map_none]
    | cons c back =>
      rw [List.cons_append, afterClass_cons, afterClass_cons]
      split
      · simp [Option.map_map, Function.comp_def]
      · rfl
  · have hends : s.dropWhile (· != ':') = [] ∧ (s ++ t).takeWhile (· != ':')
        = s ++ t.takeWhile (· != ':') := by
      have hplain : ∀ c ∈ s, (c != ':') = true := fun c hc =>
        bne_iff_ne.mpr fun h => hcolon (h ▸ hc)
      refine ⟨?_, List.takeWhile_append_of_pos hplain⟩
      rw [← List.append_nil s, List.dropWhile_append_of_pos hplain, List.dropWhile_nil]
    rw [readClassName, readClassName, hends.1, hends.2]
    simp only [hnone (List.mem_append_left _ hclose), Option.bind_fun_none]
    rfl

theorem readClassName_suffix {negated : Bool} {s rest : List Char} {cs : CharSet}
    (h : readClassName flags negated s = some (cs, rest)) : rest <:+ s := by
  obtain ⟨rest', hafter, h⟩ := Option.bind_eq_some_iff.mp h
  obtain ⟨ranges, -, heq⟩ := Option.map_eq_some_iff.mp h
  cases heq
  refine List.IsSuffix.trans ?_ (List.dropWhile_suffix (· != ':'))
  generalize s.dropWhile (· != ':') = u at hafter
  unfold afterClass at hafter
  split at hafter
  · cases hafter
    exact List.suffix_append [':', ']'] _
  · cases hafter

/-- A named class is read whatever follows; and in front of a closing bracket, none is read because
of what follows. -/
theorem readAsciiClass_append {s : List Char} (hclose : ']' ∈ s) (t : List Char) :
    readAsciiClass flags (s ++ t) =
      (readAsciiClass flags s).map fun (cs, rest) => (cs, rest ++ t) := by
  match s with
  | [c] =>
    obtain rfl := List.mem_singleton.mp hclose
    rfl
  | c :: d :: s =>
    rw [List.cons_append, List.cons_append, readAsciiClass_cons, readAsciiClass_cons]
    split
    · subst c
      have hclose : ']' ∈ d :: s := (List.mem_cons.mp hclose).resolve_left (by decide)
      split
      · subst d
        exact readClassName_append ((List.mem_cons.mp hclose).resolve_left (by decide)) t
      · exact readClassName_append hclose t
    · rfl

theorem readAsciiClass_suffix {s rest : List Char} {cs : CharSet}
    (h : readAsciiClass flags s = some (cs, rest)) : rest <:+ s := by
  match s with
  | [] => cases h
  | [c] =>
    by_cases hc : c = ':'
    · subst hc
      cases h
    · rw [readAsciiClass] at h
      · cases h
      · exact fun rest heq => hc (List.cons.inj heq).1
  | c :: d :: s =>
    rw [readAsciiClass_cons] at h
    split at h
    · split at h
      · exact (readClassName_suffix h).trans (List.suffix_append [c, d] s)
      · exact (readClassName_suffix h).trans (List.suffix_cons c _)
    · cases h

/-! ## Brackets -/

theorem skipHyphens_cons (hplain : flags.extended = false) (n : Nat) (c : Char) (s : List Char) :
    skipHyphens flags (n + 1) (c :: s) = if c = '-' then skipHyphens flags n s else c :: s := by
  by_cases hc : c = '-'
  · subst hc
    rw [skipHyphens, next_plain hplain, if_pos rfl]
  · rw [skipHyphens, if_neg hc]
    exact fun m s' _ heq => hc (List.cons.inj heq).1

theorem skipHyphens_append (hplain : flags.extended = false) {n m : Nat} {s rest : List Char}
    (h : skipHyphens flags n s = rest) (hn : s.length ≤ n) (hm : n ≤ m) (hrest : rest ≠ []) :
    rest <:+ s ∧ ∀ t, skipHyphens flags m (s ++ t) = rest ++ t := by
  induction s generalizing n m with
  | nil =>
    have hnil : skipHyphens flags n [] = [] := by cases n <;> rfl
    exact absurd (h.symm.trans hnil) hrest
  | cons c s ih =>
    obtain _ | n := n
    · cases hn
    obtain _ | m := m
    · cases hm
    rw [skipHyphens_cons hplain] at h
    simp only [List.cons_append, skipHyphens_cons hplain]
    split at h
    · obtain ⟨hsuffix, happend⟩ := ih h (Nat.le_of_succ_le_succ hn) (Nat.le_of_succ_le_succ hm)
      exact ⟨hsuffix.trans (List.suffix_cons _ _), fun t => by rw [if_pos ‹_›, happend t]⟩
    · subst h
      exact ⟨List.suffix_refl _, fun t => if_neg ‹_›⟩

/-- The beginning of a bracket behind the sign that negates it. -/
def openMembers (flags : Flags) (negated : Bool) : List Char → OpenSet × List Char
  | [] => ({ negated }, [])
  | c :: s =>
    let base : OpenSet := { negated }
    if c = '-' then (base.add (.singleton '-'), skipHyphens flags (s.length + 1) (c :: s))
    else if c = ']' then (base.add (.singleton ']'), s)
    else (base, c :: s)

theorem openSet_cons (hplain : flags.extended = false) (c : Char) (s : List Char) :
    openSet flags (c :: s) =
      if c = '^' then openMembers flags true s else openMembers flags false (c :: s) := by
  rw [openSet]
  simp only [next_plain hplain]
  by_cases hc : c = '^'
  · subst hc
    rw [if_pos rfl]
    cases s with
    | nil => rfl
    | cons d s =>
      by_cases hhyphen : d = '-'
      · subst hhyphen
        rfl
      by_cases hclose : d = ']'
      · subst hclose
        rfl
      rw [openMembers, if_neg hhyphen, if_neg hclose]
      split
      · exact absurd (List.cons.inj ‹_›).1 hhyphen
      · exact absurd (List.cons.inj ‹_›).1 hclose
      · rfl
  · rw [if_neg hc, openMembers]
    simp only [List.cons.injEq, hc, false_and, imp_self, implies_true, List.length_cons]
    split
    · rename_i heq
      cases heq
      rfl
    · rename_i heq
      cases heq
      rfl
    · rename_i hhyphen hclose
      rw [if_neg fun h : c = '-' => hhyphen s (h ▸ rfl),
        if_neg fun h : c = ']' => hclose s (h ▸ rfl)]

theorem openMembers_append (hplain : flags.extended = false) {negated : Bool} {s rest : List Char}
    {o : OpenSet} (h : openMembers flags negated s = (o, rest)) (hrest : rest ≠ []) :
    rest <:+ s ∧ ∀ t, openMembers flags negated (s ++ t) = (o, rest ++ t) := by
  cases s with
  | nil =>
    cases h
    exact absurd rfl hrest
  | cons c s =>
    simp only [openMembers] at h
    simp only [List.cons_append, openMembers]
    split at h
    · obtain ⟨rfl, hskip⟩ := Prod.mk.inj h
      refine ⟨(skipHyphens_append hplain hskip (Nat.le_refl _) (Nat.le_refl _) hrest).1,
        fun t => ?_⟩
      have happend := (skipHyphens_append hplain hskip (m := (s ++ t).length + 1) (Nat.le_refl _)
        (by simp) hrest).2 t
      rw [if_pos ‹_›, ← happend, List.cons_append]
    · split at h
      · cases h
        exact ⟨List.suffix_cons _ _, fun t => by rw [if_neg ‹_›, if_pos ‹_›]⟩
      · cases h
        exact ⟨List.suffix_refl _, fun t => by rw [if_neg ‹_›, if_neg ‹_›, List.cons_append]⟩

/-- Where a bracket begins is read whatever follows, if something of the text is left. -/
theorem openSet_append (hplain : flags.extended = false) {s rest : List Char} {o : OpenSet}
    (h : openSet flags s = (o, rest)) (hrest : rest ≠ []) :
    rest <:+ s ∧ ∀ t, openSet flags (s ++ t) = (o, rest ++ t) := by
  cases s with
  | nil =>
    rw [openSet, next_plain hplain] at h
    cases h
    exact absurd rfl hrest
  | cons c s =>
    rw [openSet_cons hplain] at h
    simp only [List.cons_append, openSet_cons hplain]
    split at h
    · obtain ⟨hsuffix, happend⟩ := openMembers_append hplain h hrest
      exact ⟨hsuffix.trans (List.suffix_cons _ _), fun t => by rw [if_pos ‹_›, happend]⟩
    · obtain ⟨hsuffix, happend⟩ := openMembers_append hplain h hrest
      exact ⟨hsuffix, fun t => by rw [if_neg ‹_›, ← happend]; rfl⟩

theorem readSet_item (hplain : flags.extended = false) {n : Nat} {current : OpenSet}
    {outer : List OpenSet} {c d : Char} {s : List Char} (hopen : c ≠ '[') (hclose : c ≠ ']')
    (htwice : ¬ (c = d ∧ ['&', '-', '~'].contains c)) :
    readSet flags (n + 1) current outer (c :: d :: s) =
      match readItem flags (c :: d :: s) with
      | some (t, rest) => readSet flags n (current.add t) outer rest
      | none => none := by
  rw [readSet, next_plain hplain]
  split
  · contradiction
  · rename_i heq
    exact absurd (List.cons.inj heq).1 hopen
  · rename_i heq
    exact absurd (List.cons.inj heq).1 hclose
  iterate 3
    · rename_i heq
      cases heq
      exact absurd ⟨rfl, rfl⟩ htwice
  · rfl

theorem readSet_twice (hplain : flags.extended = false) (n : Nat) (current : OpenSet)
    (outer : List OpenSet) {c : Char} {op : SetOperator}
    (hop : (c, op) ∈
      [('&', SetOperator.intersection), ('-', .difference), ('~', .symmetricDifference)])
    (s : List Char) :
    readSet flags (n + 1) current outer (c :: c :: s) =
      readSet flags n (current.operator flags op) outer s := by
  rw [readSet, next_plain hplain]
  simp only [List.mem_cons, Prod.mk.injEq, List.not_mem_nil, or_false] at hop
  rcases hop with ⟨rfl, rfl⟩ | ⟨rfl, rfl⟩ | ⟨rfl, rfl⟩ <;> rfl

/-- The rest of a set in brackets is read up to its end, whatever follows it. -/
structure ReadsSet (flags : Flags) (n : Nat) (current : OpenSet) (outer : List OpenSet)
    (s : List Char) (cs : CharSet) (rest : List Char) : Prop where
  suffix : ']' :: rest <:+ s
  append : ∀ m t, n ≤ m → readSet flags m current outer (s ++ t) = some (cs, rest ++ t)

section

variable {n : Nat} {current current' : OpenSet} {outer outer' : List OpenSet}
  {s s' rest : List Char} {cs : CharSet}

theorem ReadsSet.ne_nil (h : ReadsSet flags n current outer s cs rest) : s ≠ [] := by
  rintro rfl
  cases List.suffix_nil.mp h.suffix

theorem ReadsSet.step (h : ReadsSet flags n current' outer' s' cs rest) (hsuffix : s' <:+ s)
    (hstep : ∀ m t, readSet flags (m + 1) current outer (s ++ t) =
      readSet flags m current' outer' (s' ++ t)) :
    ReadsSet flags (n + 1) current outer s cs rest := by
  refine ⟨h.suffix.trans hsuffix, fun m t hm => ?_⟩
  obtain _ | m := m
  · cases hm
  · exact (hstep m t).trans (h.append m t (Nat.le_of_succ_le_succ hm))

theorem readsSet_end (hplain : flags.extended = false) :
    ReadsSet flags (n + 1) current [] (']' :: rest) (current.close flags) rest := by
  refine ⟨List.suffix_refl _, fun m t hm => ?_⟩
  obtain _ | m := m
  · cases hm
  · rw [List.cons_append, readSet, next_plain hplain]
    rfl

theorem readsSet_parent (hplain : flags.extended = false) {parent : OpenSet}
    (h : ReadsSet flags n (parent.add (current.close flags)) outer s cs rest) :
    ReadsSet flags (n + 1) current (parent :: outer) (']' :: s) cs rest :=
  h.step (List.suffix_cons _ _) fun m t => by
    rw [List.cons_append, readSet, next_plain hplain]
    rfl

theorem readsSet_operator (hplain : flags.extended = false) {c : Char} {op : SetOperator}
    (hop : (c, op) ∈
      [('&', SetOperator.intersection), ('-', .difference), ('~', .symmetricDifference)])
    (h : ReadsSet flags n (current.operator flags op) outer s cs rest) :
    ReadsSet flags (n + 1) current outer (c :: c :: s) cs rest :=
  h.step (List.suffix_append [c, c] s) fun m t => by
    rw [List.cons_append, List.cons_append, readSet_twice hplain _ _ _ hop]

theorem readsSet_class (hplain : flags.extended = false) {item : CharSet}
    (hclass : readAsciiClass flags s = some (item, s'))
    (h : ReadsSet flags n (current.add item) outer s' cs rest) :
    ReadsSet flags (n + 1) current outer ('[' :: s) cs rest := by
  have hsuffix := readAsciiClass_suffix hclass
  have hclose := h.suffix.trans hsuffix
  refine h.step (hsuffix.trans (List.suffix_cons _ _)) fun m t => ?_
  rw [List.cons_append, readSet, next_plain hplain]
  simp only [readAsciiClass_append (hclose.subset List.mem_cons_self), hclass, Option.map_some]

theorem readsSet_opened (hplain : flags.extended = false) {opened : OpenSet}
    (hclass : readAsciiClass flags s = none) (hset : openSet flags s = (opened, s'))
    (h : ReadsSet flags n opened (current :: outer) s' cs rest) :
    ReadsSet flags (n + 1) current outer ('[' :: s) cs rest := by
  obtain ⟨hsuffix, happend⟩ := openSet_append hplain hset h.ne_nil
  have hclose := h.suffix.trans hsuffix
  refine h.step (hsuffix.trans (List.suffix_cons _ _)) fun m t => ?_
  rw [List.cons_append, readSet, next_plain hplain]
  simp only [readAsciiClass_append (hclose.subset List.mem_cons_self), hclass, Option.map_none,
    happend]

theorem readsSet_item (hplain : flags.extended = false) {item : CharSet}
    (hopen : ∀ u, s ≠ '[' :: u) (hclose : ∀ u, s ≠ ']' :: u)
    (htwice : ∀ c ∈ ['&', '-', '~'], ∀ u, s ≠ c :: c :: u)
    (hitem : readItem flags s = some (item, s'))
    (h : ReadsSet flags n (current.add item) outer s' cs rest) :
    ReadsSet flags (n + 1) current outer s cs rest := by
  have hreads := reads_item hplain hitem h.ne_nil
  refine h.step hreads.suffix fun m t => ?_
  obtain _ | ⟨c, _ | ⟨d, s⟩⟩ := s
  · exact absurd (List.suffix_nil.mp hreads.suffix) h.ne_nil
  · -- the only character would have to be the closing bracket
    have hend := (h.suffix.trans hreads.suffix).eq_of_length_le (by simp)
    exact absurd hend.symm (hclose rest)
  · have hpair : ¬ (c = d ∧ ['&', '-', '~'].contains c = true) := by
      rintro ⟨rfl, hmem⟩
      exact htwice c (List.contains_iff_mem.mp hmem) s rfl
    rw [List.cons_append, List.cons_append,
      readSet_item hplain (fun h => hopen (d :: s) (h ▸ rfl))
        (fun h => hclose (d :: s) (h ▸ rfl)) hpair,
      ← List.cons_append, ← List.cons_append, hreads.append t]

end

/-- A set in brackets that has been read to its end is read whatever follows. -/
theorem readsSet_of_readSet (hplain : flags.extended = false) {n : Nat} {current : OpenSet}
    {outer : List OpenSet} {s rest : List Char} {cs : CharSet}
    (h : readSet flags n current outer s = some (cs, rest)) :
    ReadsSet flags n current outer s cs rest := by
  induction n generalizing current outer s with
  | zero => cases h
  | succ n ih =>
    rw [readSet, next_plain hplain] at h
    split at h
    · cases h
    · rename_i s
      cases hclass : readAsciiClass flags s with
      | some found =>
        rw [hclass] at h
        exact readsSet_class hplain hclass (ih h)
      | none =>
        cases hset : openSet flags s with
        | mk opened u =>
          rw [hclass, hset] at h
          exact readsSet_opened hplain hclass hset (ih h)
    · cases outer with
      | nil =>
        cases h
        exact readsSet_end hplain
      | cons parent outer => exact readsSet_parent hplain (ih h)
    · exact readsSet_operator hplain (by simp) (ih h)
    · exact readsSet_operator hplain (by simp) (ih h)
    · exact readsSet_operator hplain (by simp) (ih h)
    · rename_i hopen hclose hand hminus htilde
      cases hitem : readItem flags s with
      | none =>
        rw [hitem] at h
        cases h
      | some found =>
        rw [hitem] at h
        refine readsSet_item hplain hopen hclose ?_ hitem (ih h)
        rintro c hc u rfl
        simp only [List.mem_cons, List.not_mem_nil, or_false] at hc
        rcases hc with rfl | rfl | rfl
        · exact hand u rfl
        · exact hminus u rfl
        · exact htilde u rfl

/-- **Sets.** A set in brackets is read whatever follows. -/
theorem reads_bracket (hplain : flags.extended = false) {s rest : List Char} {cs : CharSet}
    (h : readBracket flags s = some (cs, rest)) : Reads (readBracket flags) s cs rest := by
  rw [readBracket] at h
  cases hset : openSet flags s with
  | mk opened u =>
    rw [hset] at h
    have hreads := readsSet_of_readSet hplain h
    obtain ⟨hsuffix, happend⟩ := openSet_append hplain hset hreads.ne_nil
    refine ⟨((List.suffix_cons _ _).trans hreads.suffix).trans hsuffix, fun t => ?_⟩
    rw [readBracket, happend t]
    exact hreads.append _ t (by simp)

end TreePath.Regex.Regular
