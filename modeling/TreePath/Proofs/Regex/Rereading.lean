/-
TreePath.Proofs.Regex.Rereading — reading regular patterns as they are written.

The regular parts of a pattern are written down and read again. `asRegular` says along the tree of
the pattern what is read then, and how deep groups have to nest for it; each form is written so that
the reader finds the same form again, in a group where its place asks for one (`atom_written`,
`level_written`). So reading what has been written needs no reader (`read?_written`).
-/
import TreePath.Proofs.Regex.Pieces

namespace TreePath.Regex

open TreePath.Text

namespace Pattern

/-! ## What is read -/

/-- The set of characters that a text stands for, if it is one bracket or one escape. -/
def setOf? (flags : Flags) : List Char → Option CharSet
  | '[' :: s =>
    match Regular.readBracket flags s with
    | some (t, []) => some t
    | _ => none
  | '\\' :: s =>
    match Regular.readEscape flags s with
    | some (.set t, []) => some t
    | _ => none
  | _ => none

/-- What is read one group further inside. -/
def oneDeeper (n : Nat) (f : Nat → Option (Regular × Nat)) : Option (Regular × Nat) :=
  match n with
  | 0 => none
  | n + 1 => f n

/-- Puts a pattern into a group that keeps nothing, if one is needed. -/
def enclosed (needed : Bool) (n : Nat) (f : Nat → Option (Regular × Nat)) :
    Option (Regular × Nat) :=
  if needed then (oneDeeper n f).map fun (r, k) => (.group none r, k) else f n

mutual

/-- What the pattern is read as at a place, where groups may nest `n` deep and `k` groups have been
opened; and how many have been opened behind it. -/
def asRegular (n : Nat) (place : Place) (k : Nat) : Pattern → Option (Regular × Nat)
  | empty => some (.empty, k)
  | literal c caseless => enclosed caseless n fun _ =>
    some (Regular.Parser.literal { caseless } c, k)
  | set s caseless => enclosed caseless n fun _ => (setOf? { caseless } s).map fun t => (.set t, k)
  | any newline => enclosed newline n fun _ =>
    some (.set (if newline then .all else (CharSet.singleton '\n').complement), k)
  | anchor (.edge e) => enclosed (e = .lineStart || e = .lineEnd) n fun _ => some (.edge e, k)
  | seq parts => enclosed (place == .part || place == .repeated) n fun n =>
    (partsAsRegular n k parts).map fun (rs, k) => (Regular.sequence rs, k)
  | alt options => enclosed (place != .alone) n fun n =>
    (optionsAsRegular n k options).map fun (rs, k) => (Regular.alternatives rs, k)
  | group _ r => (oneDeeper n fun n => asRegular n .alone (k + 1) r).map fun (r, k') =>
    (.group (some (k + 1)) r, k')
  | «repeat» r least most greedy => enclosed (place == .repeated) n fun n =>
    (asRegular n .repeated k r).bind fun (r, k) =>
      if Regular.Parser.fits least most then some (.repeat r least most greedy, k) else none
  | _ => none

/-- What the patterns are read as one after another; nothing is read for empty ones. -/
def partsAsRegular (n : Nat) (k : Nat) : List Pattern → Option (List Regular × Nat)
  | [] => some ([], k)
  | r :: rest =>
    if r.isEmpty then partsAsRegular n k rest
    else (asRegular n .part k r).bind fun (r, k) =>
      (partsAsRegular n k rest).map fun (rs, k) => (r :: rs, k)

def optionsAsRegular (n : Nat) (k : Nat) : List Pattern → Option (List Regular × Nat)
  | [] => some ([], k)
  | r :: rest => (asRegular n .option k r).bind fun (r, k) =>
    (optionsAsRegular n k rest).map fun (rs, k) => (r :: rs, k)

end

/-! ## Patterns that are read as they are written -/

mutual

/-- Every set is one bracket or one escape, and nothing empty is repeated. -/
def isClear : Pattern → Bool
  | empty | literal .. | any _ | anchor (.edge _) => true
  | set s caseless => (setOf? { caseless } s).isSome
  | seq parts => areClear parts
  | alt options => areClear options
  | group _ r => isClear r
  | «repeat» r _ _ _ => !r.isEmpty && isClear r
  | _ => false

def areClear : List Pattern → Bool
  | [] => true
  | r :: rest => isClear r && areClear rest

end

end Pattern


namespace Regular.Parser

open Pattern

variable {flags : Flags} {inner : Parse Regular} {k n m : Nat} {s t w : List Char}

/-! ## Single characters -/

theorem atom_quotedLiteral (hplain : flags.extended = false) (c : Char) :
    atom inner (.before flags k (quotedLiteral c ++ s)) =
      some (some (literal flags c), .before flags k s) := by
  by_cases hc : specialSigns.contains c
  · rw [quotedLiteral, quoted, if_pos hc, List.cons_append, List.cons_append, List.nil_append,
      atom_escape hplain]
    have hread : readEscape flags (c :: s) = some (.char c, s) := by
      simp only [specialSigns, List.contains_cons, List.contains_nil, Bool.or_false,
        Bool.or_eq_true, beq_iff_eq] at hc
      rcases hc with rfl | rfl | rfl | rfl | rfl | rfl | rfl | rfl | rfl | rfl | rfl | rfl | rfl |
        rfl | rfl
      all_goals rfl
    rw [hread]
    rfl
  · rw [quotedLiteral, quoted, if_neg hc]
    exact atom_plain hplain (by simpa using hc)

theorem atom_setOf (hplain : flags.extended = false) {w : List Char} {cs : CharSet}
    (h : setOf? flags w = some cs) :
    atom inner (.before flags k (w ++ s)) = some (some (.set cs), .before flags k s) := by
  unfold setOf? at h
  split at h
  · split at h
    · cases h
      rw [List.cons_append, atom_bracket hplain, (reads_bracket hplain ‹_›).append]
      rfl
    · cases h
  · split at h
    · cases h
      rw [List.cons_append, atom_escape hplain, (reads_escape hplain ‹_›).append]
      rfl
    · cases h
  · cases h

theorem starts_setOf {w : List Char} {cs : CharSet} (h : setOf? flags w = some cs) : Starts w := by
  unfold setOf? at h
  split at h
  · exact ⟨_, rfl, by decide⟩
  · exact ⟨_, rfl, by decide⟩
  · cases h

theorem starts_quotedLiteral (c : Char) : Starts (quotedLiteral c) := by
  rw [quotedLiteral, quoted]
  split
  · exact ⟨_, rfl, by decide⟩
  · refine ⟨c, rfl, ?_⟩
    simp [specialSigns] at *
    tauto

/-! ## Patterns -/

theorem starts_grouped {needed : Bool} (h : needed = true) (s : List Char) :
    Starts (grouped needed s) := by
  subst h
  exact starts_cons (by decide) _

theorem starts_caselessGroup {needed : Bool} (hs : Starts s) : Starts (caselessGroup needed s) := by
  cases needed with
  | true => exact starts_cons (by decide) _
  | false => exact hs

theorem starts_repeated : ∀ {r : Pattern}, isClear r = true → r.isEmpty = false →
    Starts (written .repeated r)
  | .literal c _, _, _ => starts_caselessGroup (starts_quotedLiteral c)
  | .set s caseless, h, _ => by
    obtain ⟨cs, hcs⟩ := Option.isSome_iff_exists.mp h
    exact starts_caselessGroup (starts_setOf hcs)
  | .any newline, _, _ => by
    rw [written]
    split
    all_goals exact starts_cons (by decide) _
  | .anchor (.edge e), _, _ => by cases e <;> exact starts_cons (by decide) _
  | .seq _, _, _ => starts_grouped rfl _
  | .alt _, _, _ => starts_grouped rfl _
  | .group _ _, _, _ => starts_cons (by decide) _
  | .repeat .., _, _ => starts_grouped rfl _

theorem starts_part : ∀ {r : Pattern}, isClear r = true → r.isEmpty = false →
    Starts (written .part r)
  | .repeat r least most greedy, h, _ => by
    simp only [isClear, Bool.and_eq_true, Bool.not_eq_true'] at h
    exact ((starts_repeated h.2 h.1).append _).append _
  | .seq _, _, _ | .alt _, _, _ => starts_grouped rfl _
  | .literal .., h, hne | .set .., h, hne | .any _, h, hne | .anchor (.edge _), h, hne
  | .group .., h, hne => starts_repeated h hne

mutual

theorem noSign_written (place : Place) : ∀ {r : Pattern}, isClear r = true →
    ∀ {s : List Char}, NoSign s → NoSign (written place r ++ s)
  | .empty, _, _, hs => hs
  | .seq parts, h, _, hs => by
    rw [written]
    cases hplace : place == .part || place == .repeated with
    | true => exact ((starts_grouped rfl _).append _).noSign
    | false => exact noSign_writtenParts h hs
  | .alt options, h, _, hs => by
    rw [written]
    cases hplace : place != .alone with
    | true => exact ((starts_grouped rfl _).append _).noSign
    | false => exact noSign_writtenOptions h hs
  | .repeat r least most greedy, h, s, hs => by
    have hpart := starts_part h rfl
    rw [written]
    cases hplace : place == .repeated with
    | true => exact ((starts_grouped rfl _).append s).noSign
    | false => exact (hpart.append s).noSign
  | .literal .., h, s, _ | .set .., h, s, _ | .any _, h, s, _ | .anchor (.edge _), h, s, _
  | .group .., h, s, _ => ((starts_repeated h rfl).append s).noSign

theorem noSign_writtenParts : ∀ {parts : List Pattern}, areClear parts = true →
    ∀ {s : List Char}, NoSign s → NoSign (writtenParts parts ++ s)
  | [], _, _, hs => hs
  | r :: rest, h, _, hs => by
    simp only [areClear, Bool.and_eq_true] at h
    rw [writtenParts, List.append_assoc]
    exact noSign_written .part h.1 (noSign_writtenParts h.2 hs)

theorem noSign_writtenOptions : ∀ {options : List Pattern}, areClear options = true →
    ∀ {s : List Char}, NoSign s → NoSign (writtenOptions options ++ s)
  | [], _, _, hs => hs
  | [r], h, _, hs => by
    simp only [areClear, Bool.and_eq_true] at h
    exact noSign_written .option h.1 hs
  | r :: r' :: rest, h, s, hs => by
    simp only [areClear, Bool.and_eq_true] at h
    rw [writtenOptions, List.append_assoc]
    · exact noSign_written .option h.1 (noSign_bar _)
    · simp

end

/-! ## Groups -/

/-- A group around what can be read as a whole level. -/
theorem atom_enclosed {f : Nat → Option (Regular × Nat)} (letter : Option Char)
    (hletter : letter ∈ [none, some 'i', some 's', some 'm'])
    (h : ∀ n, level (nested n) (.before (withLetter letter) k (w ++ ')' :: s)) =
      (f n).map fun x => (x.1, .before (withLetter letter) x.2 (')' :: s))) :
    atom (nested n)
        (.before {} k ('(' :: '?' :: (letter.toList ++ ':' :: (w ++ ')' :: s)))) =
      (enclosed true n f).map fun x => (some x.1, .before {} x.2 s) := by
  rw [atom_group rfl]
  cases n with
  | zero =>
    have hdeep : nested 0 (.before (withLetter letter) k (w ++ ')' :: s)) =
      (none : Option (Regular × Nat)).map fun x =>
        (x.1, .before (withLetter letter) x.2 (')' :: s)) := rfl
    exact group_letter hletter hdeep
  | succ n =>
    rw [nested, group_letter hletter (h n)]
    show _ = ((f n).map _).map _
    rw [Option.map_map]
    rfl

theorem grouped_append (w s : List Char) : grouped true w ++ s =
    '(' :: '?' :: ((none : Option Char).toList ++ ':' :: (w ++ ')' :: s)) := by
  simp [grouped]

theorem caselessGroup_append (w s : List Char) : caselessGroup true w ++ s =
    '(' :: '?' :: ((some 'i').toList ++ ':' :: (w ++ ')' :: s)) := by
  simp [caselessGroup]

/-- One character, in a group with a letter if flags are to be set for it. -/
theorem atom_of_letter {o : Option (Regular × Nat)} (letter : Char)
    (hletter : some letter ∈ [none, some 'i', some 's', some 'm']) (hw : Starts w)
    (h : ∀ n, atom (nested n) (.before (withLetter letter) k (w ++ ')' :: s)) =
      o.map fun x => (some x.1, .before (withLetter letter) x.2 (')' :: s))) :
    atom (nested n)
        (.before {} k ('(' :: '?' :: ((some letter).toList ++ ':' :: (w ++ ')' :: s)))) =
      (enclosed true n fun _ => o).map fun x => (some x.1, .before {} x.2 s) := by
  have hplain : (withLetter letter).extended = false := by
    unfold withLetter
    split <;> rfl
  refine atom_enclosed _ hletter fun n => ?_
  exact (readsPiece_of_atom hplain hw (closes_cons s).ends.noSign (h n)).level hplain hw
    (closes_cons s)

theorem readsPiece_repeat {o : Option (Regular × Nat)} (least : Nat) (most : Option Nat)
    (greedy : Bool) (hs : NoSign s) (hw : Starts w)
    (h : ∀ s, atom inner (.before {} k (w ++ s)) =
      o.map fun x => (some x.1, .before {} x.2 s)) :
    ReadsPiece inner {} k (w ++ writtenBounds least most ++ reluctance greedy) s
      (o.bind fun x =>
        if fits least most then some (.repeat x.1 least most greedy, x.2) else none) := by
  intro n
  rw [List.append_assoc, List.append_assoc]
  rw [pieces_of_starts rfl (hw.append _), h]
  cases o with
  | none => rfl
  | some x =>
    simp only [Option.map_some, Option.bind_some]
    rw [← List.append_assoc (writtenBounds _ _), repeated_writtenBounds _ _ _ _ hs]
    split <;> rfl

/-! ## Reading what is written -/

theorem lt_length_append (w s : List Char) : w.length < (w ++ s).length + 1 := by
  rw [List.length_append]
  omega

/-- A text is read as a sequence. -/
def ReadsSequence (inner : Parse Regular) (k : Nat) (w : List Char) (o : Option (Regular × Nat)) :
    Prop :=
  ∃ o' : Option (List Regular × Nat), (o'.map fun x => (sequence x.1, x.2)) = o ∧
    ∀ {s : List Char}, Ends s → pieces inner ((w ++ s).length + 1) (.before {} k (w ++ s)) =
      o'.map fun x => (x.1, .before {} x.2 s)

theorem readsSequence_of_readsPiece {o : Option (Regular × Nat)} (hw : Starts w)
    (h : ∀ {s : List Char}, NoSign s → ReadsPiece inner {} k w s o) :
    ReadsSequence inner k w o := by
  refine ⟨o.map fun x => ([x.1], x.2), by cases o <;> rfl, fun {s} hs => ?_⟩
  obtain ⟨m, hm⟩ : ∃ m, (w ++ s).length = m + 1 :=
    Nat.exists_eq_succ_of_ne_zero (by simp [hw.ne_nil])
  rw [hm]
  exact (h hs.noSign).pieces_of_ends rfl hs m

theorem ReadsSequence.level {o : Option (Regular × Nat)} (h : ReadsSequence inner k w o)
    (hs : Closes s) :
    level inner (.before {} k (w ++ s)) = o.map fun x => (x.1, .before {} x.2 s) := by
  obtain ⟨o', rfl, hread⟩ := h
  rw [level_of_pieces rfl hs (hread hs.ends), Option.map_map]
  rfl

mutual

/-- A pattern in front of a repetition is read as one atom. -/
theorem atom_written (n k : Nat) : ∀ {r : Pattern}, isClear r = true → r.isEmpty = false →
    ∀ s, atom (nested n) (.before {} k (written .repeated r ++ s)) =
      (asRegular n .repeated k r).map fun x => (some x.1, .before {} x.2 s)
  | .literal c false, _, _, s => atom_quotedLiteral rfl c
  | .literal c true, _, _, s => by
    rw [written, caselessGroup_append]
    exact atom_of_letter 'i' (by simp) (starts_quotedLiteral c) fun n => atom_quotedLiteral rfl c
  | .set w false, h, _, s => by
    obtain ⟨cs, hcs⟩ := Option.isSome_iff_exists.mp h
    rw [asRegular, hcs]
    exact atom_setOf rfl hcs
  | .set w true, h, _, s => by
    obtain ⟨cs, hcs⟩ := Option.isSome_iff_exists.mp h
    rw [written, caselessGroup_append, asRegular, hcs]
    exact atom_of_letter 'i' (by simp) (starts_setOf hcs) fun n => atom_setOf rfl hcs
  | .any false, _, _, s => atom_any rfl
  | .any true, _, _, s => atom_of_letter 's' (w := ['.']) (by simp)
      (starts_cons (by decide) _) fun n => atom_any rfl
  | .anchor (.edge .textStart), _, _, s => atom_start rfl
  | .anchor (.edge .textEnd), _, _, s => atom_end rfl
  | .anchor (.edge .lineStart), _, _, s => atom_of_letter 'm' (w := ['^']) (by simp)
      (starts_cons (by decide) _) fun n => atom_start rfl
  | .anchor (.edge .lineEnd), _, _, s => atom_of_letter 'm' (w := ['$']) (by simp)
      (starts_cons (by decide) _) fun n => atom_end rfl
  | .seq parts, h, _, s => by
    rw [written, show (Place.repeated == .part || Place.repeated == .repeated) = true from rfl,
      grouped_append, asRegular]
    exact atom_enclosed none (by simp) fun n => level_parts n k h (closes_cons s)
  | .alt options, h, _, s => by
    rw [written, show (Place.repeated != .alone) = true from rfl, grouped_append, asRegular]
    exact atom_enclosed none (by simp) fun n => level_options n k h (closes_cons s)
  | .group index r, h, _, s => by
    rw [isClear] at h
    have hsign : NoSign (written .alone r ++ ')' :: s) :=
      noSign_written .alone h (closes_cons s).ends.noSign
    rw [written, asRegular]
    simp only [List.cons_append, List.append_assoc, List.nil_append]
    rw [atom_group rfl]
    cases n with
    | zero =>
      have hdeep : nested 0 (.before {} (k + 1) (written .alone r ++ ')' :: s)) =
        (none : Option (Regular × Nat)).map fun x => (x.1, .before {} x.2 (')' :: s)) := rfl
      exact group_keeping hsign hdeep
    | succ n =>
      rw [nested, group_keeping hsign (level_written n (k + 1) h (closes_cons s)), oneDeeper,
        Option.map_map]
      rfl
  | .repeat r least most greedy, h, _, s => by
    simp only [isClear, Bool.and_eq_true, Bool.not_eq_true'] at h
    have hstarts := starts_repeated h.2 h.1
    rw [written, show (Place.repeated == .repeated) = true from rfl, grouped_append, asRegular]
    refine atom_enclosed none (by simp) fun n => ?_
    have hpiece : ReadsPiece (nested n) {} k _ (')' :: s) _ :=
      readsPiece_repeat least most greedy
        (closes_cons s).ends.noSign hstarts (atom_written n k h.2 h.1)
    exact hpiece.level rfl ((hstarts.append _).append _) (closes_cons s)
termination_by r => (sizeOf r, 0)

/-- A pattern in a sequence is read as a piece. -/
theorem readsPiece_written (n k : Nat) : ∀ {r : Pattern}, isClear r = true → r.isEmpty = false →
    ∀ {s : List Char}, NoSign s →
      ReadsPiece (nested n) {} k (written .part r) s (asRegular n .part k r)
  | .repeat r least most greedy, h, _, s, hs => by
    simp only [isClear, Bool.and_eq_true, Bool.not_eq_true'] at h
    exact readsPiece_repeat least most greedy hs (starts_repeated h.2 h.1)
      (atom_written n k h.2 h.1)
  | .literal _ _, h, hne, s, hs | .set _ _, h, hne, s, hs | .any _, h, hne, s, hs
  | .anchor (.edge _), h, hne, s, hs | .seq _, h, hne, s, hs | .alt _, h, hne, s, hs
  | .group _ _, h, hne, s, hs =>
    readsPiece_of_atom rfl (starts_part h hne) hs (atom_written n k h hne s)
termination_by r => (sizeOf r, 1)

theorem pieces_writtenParts (n k : Nat) : ∀ {parts : List Pattern}, areClear parts = true →
    ∀ {s : List Char}, Ends s → ∀ {m : Nat}, (writtenParts parts).length < m →
      pieces (nested n) m (.before {} k (writtenParts parts ++ s)) =
        (partsAsRegular n k parts).map fun x => (x.1, .before {} x.2 s)
  | [], _, s, hs, m + 1, _ => pieces_of_ends rfl hs
  | r :: rest, h, s, hs, m + 1, hm => by
    simp only [areClear, Bool.and_eq_true] at h
    rw [partsAsRegular]
    cases hempty : r.isEmpty with
    | true =>
      obtain rfl : r = .empty := by cases r <;> first | rfl | cases hempty
      exact pieces_writtenParts n k h.2 hs hm
    | false =>
      have hstarts := starts_part h.1 hempty
      have hpiece := readsPiece_written n k h.1 hempty (noSign_writtenParts h.2 hs.noSign)
      have hlength := List.length_pos_iff.mpr hstarts.ne_nil
      rw [writtenParts, List.length_append] at hm
      rw [writtenParts, List.append_assoc, hpiece m]
      cases asRegular n .part k r with
      | none => rfl
      | some x =>
        show Option.map _ (pieces (nested n) m (.before {} x.2 (writtenParts rest ++ s))) = _
        rw [pieces_writtenParts n x.2 h.2 hs (by omega)]
        show _ = ((partsAsRegular n x.2 rest).map _).map _
        rw [Option.map_map, Option.map_map]
        rfl
termination_by parts => (sizeOf parts, 4)

theorem level_parts (n k : Nat) {parts : List Pattern} (h : areClear parts = true)
    {s : List Char} (hs : Closes s) :
    level (nested n) (.before {} k (writtenParts parts ++ s)) =
      ((partsAsRegular n k parts).map fun (rs, k) => (Regular.sequence rs, k)).map
        fun x => (x.1, .before {} x.2 s) := by
  have hpieces := pieces_writtenParts n k h hs.ends
    (m := (writtenParts parts ++ s).length + 1) (lt_length_append _ s)
  rw [level_of_pieces rfl hs hpieces, Option.map_map]
  rfl
termination_by (sizeOf parts, 5)

theorem branches_writtenOptions (n k : Nat) : ∀ {options : List Pattern}, areClear options = true →
    options ≠ [] → ∀ {s : List Char}, Closes s → ∀ {m : Nat}, (writtenOptions options).length < m →
      branches (nested n) m (.before {} k (writtenOptions options ++ s)) =
        (optionsAsRegular n k options).map fun x => (x.1, .before {} x.2 s)
  | [r], h, _, s, hs, m + 1, hm => by
    simp only [areClear, Bool.and_eq_true] at h
    obtain ⟨o, ho, hread⟩ := readsSequence_written n k h.1
    rw [writtenOptions, branches_of_closes rfl hs (hread hs.ends), optionsAsRegular, ← ho]
    cases o <;> rfl
  | r :: r' :: rest, h, _, s, hs, m + 1, hm => by
    rw [areClear, Bool.and_eq_true] at h
    obtain ⟨o, ho, hread⟩ := readsSequence_written n k h.1
    have hmore (k : Nat) := branches_writtenOptions n k h.2 (by simp) hs (m := m) (by
      rw [writtenOptions] at hm
      · simp at hm
        omega
      · simp)
    rw [writtenOptions, List.append_assoc, List.cons_append,
      branches_of_bar rfl (hread (by simp [Ends])), optionsAsRegular, ← ho]
    · cases o with
      | none => rfl
      | some x =>
        show Option.map _ (branches (nested n) m _) = _
        rw [hmore x.2]
        show _ = ((optionsAsRegular n x.2 (r' :: rest)).map _).map _
        rw [Option.map_map, Option.map_map]
        rfl
    · simp
termination_by options => (sizeOf options, 4)

theorem level_options (n k : Nat) {options : List Pattern} (h : areClear options = true)
    {s : List Char} (hs : Closes s) :
    level (nested n) (.before {} k (writtenOptions options ++ s)) =
      ((optionsAsRegular n k options).map fun (rs, k) => (Regular.alternatives rs, k)).map
        fun x => (x.1, .before {} x.2 s) := by
  by_cases hne : options = []
  · subst hne
    exact level_of_pieces (o := some ([], k)) rfl hs (pieces_of_ends rfl hs.ends)
  · have hbranches := branches_writtenOptions n k h hne hs
      (m := (writtenOptions options ++ s).length + 1) (lt_length_append _ s)
    rw [level_of_branches hbranches, Option.map_map]
    rfl
termination_by (sizeOf options, 5)

/-- An alternative is read as a sequence. -/
theorem readsSequence_written (n k : Nat) : ∀ {r : Pattern}, isClear r = true →
    ReadsSequence (nested n) k (written .option r) (asRegular n .option k r)
  | .empty, _ => ⟨some ([], k), rfl, fun hs => pieces_of_ends rfl hs⟩
  | .seq parts, h => by
    rw [asRegular]
    exact ⟨partsAsRegular n k parts, rfl, fun {s} hs => pieces_writtenParts n k h hs
      (lt_length_append _ s)⟩
  | .literal .., h | .set .., h | .any _, h | .anchor (.edge _), h | .alt _, h | .group .., h
  | .repeat .., h =>
    readsSequence_of_readsPiece (starts_part h rfl) (readsPiece_written n k h rfl)
termination_by r => (sizeOf r, 2)

/-- A whole level is read as it is written. -/
theorem level_written (n k : Nat) : ∀ {r : Pattern}, isClear r = true →
    ∀ {s : List Char}, Closes s →
      level (nested n) (.before {} k (written .alone r ++ s)) =
        (asRegular n .alone k r).map fun x => (x.1, .before {} x.2 s)
  | .alt options, h, s, hs => by
    rw [asRegular]
    exact level_options n k h hs
  | .empty, h, _, hs | .literal .., h, _, hs | .set .., h, _, hs | .any _, h, _, hs
  | .anchor (.edge _), h, _, hs | .seq _, h, _, hs | .group .., h, _, hs | .repeat .., h, _, hs =>
    (readsSequence_written n k h).level hs
termination_by r => (sizeOf r, 3)

end

end Regular.Parser

namespace Pattern

/-! ## Depth -/

variable {n k : Nat} {f g : Nat → Option (Regular × Nat)} {h : Nat → Option (List Regular × Nat)}

/-- What is read can be read wherever groups may nest as deep as it is itself. -/
def HasRoom (f : Nat → Option (Regular × Nat)) : Prop :=
  ∀ (m n : Nat) (x : Regular × Nat), f m = some x → x.1.depth ≤ n → f n = some x

def HaveRoom (h : Nat → Option (List Regular × Nat)) : Prop :=
  ∀ (m n : Nat) (x : List Regular × Nat), h m = some x → (∀ r ∈ x.1, r.depth ≤ n) → h n = some x

theorem hasRoom_const (o : Option (Regular × Nat)) : HasRoom fun _ => o := fun _ _ _ h _ => h

theorem hasRoom_oneDeeper (hf : HasRoom f) {m n : Nat} {x : Regular × Nat}
    (h : oneDeeper m f = some x) (hx : x.1.depth + 1 ≤ n) : oneDeeper n f = some x := by
  obtain _ | m := m
  · cases h
  obtain _ | n := n
  · cases hx
  exact hf m n x h (Nat.le_of_succ_le_succ hx)

theorem hasRoom_enclosed (needed : Bool) (hf : HasRoom f) :
    HasRoom fun n => enclosed needed n f := by
  intro m n x h hx
  cases needed with
  | false => exact hf m n x h hx
  | true =>
    obtain ⟨y, hy, rfl⟩ := Option.map_eq_some_iff.mp h
    exact Option.map_eq_some_iff.mpr ⟨y, hasRoom_oneDeeper hf hy hx, rfl⟩

theorem depth_le_sequence {r : Regular} : ∀ {rs : List Regular}, r ∈ rs →
    r.depth ≤ (Regular.sequence rs).depth
  | [a], hr => by
    obtain rfl := List.mem_singleton.mp hr
    exact Nat.le_refl _
  | a :: b :: rs, hr => by
    have hseq (c d : Regular) : max c.depth d.depth ≤ (Regular.seq c d).depth := by
      cases d <;> simp only [Regular.depth] <;> omega
    refine le_trans ?_ (hseq a (Regular.sequence (b :: rs)))
    rcases List.mem_cons.mp hr with rfl | hr
    · exact le_max_left _ _
    · exact (depth_le_sequence hr).trans (le_max_right _ _)

theorem depth_le_alternatives {r : Regular} : ∀ {rs : List Regular}, r ∈ rs →
    r.depth ≤ (Regular.alternatives rs).depth
  | [a], hr => by
    obtain rfl := List.mem_singleton.mp hr
    exact Nat.le_refl _
  | a :: b :: rs, hr => by
    have halt (c d : Regular) : max c.depth d.depth ≤ (Regular.alt c d).depth := by
      cases d <;> simp only [Regular.depth] <;> omega
    refine le_trans ?_ (halt a (Regular.alternatives (b :: rs)))
    rcases List.mem_cons.mp hr with rfl | hr
    · exact le_max_left _ _
    · exact (depth_le_alternatives hr).trans (le_max_right _ _)

mutual

theorem hasRoom_asRegular (place : Place) (k : Nat) : ∀ r, HasRoom fun n => asRegular n place k r
  | .empty => hasRoom_const _
  | .literal c caseless => hasRoom_enclosed _ (hasRoom_const _)
  | .set s caseless => hasRoom_enclosed _ (hasRoom_const _)
  | .any newline => hasRoom_enclosed _ (hasRoom_const _)
  | .anchor (.edge e) => hasRoom_enclosed _ (hasRoom_const _)
  | .seq parts => hasRoom_enclosed _ fun m n x h hx => by
    obtain ⟨y, hy, rfl⟩ := Option.map_eq_some_iff.mp h
    have hroom := haveRoom_parts k parts m n y hy fun r hr => (depth_le_sequence hr).trans hx
    exact Option.map_eq_some_iff.mpr ⟨y, hroom, rfl⟩
  | .alt options => hasRoom_enclosed _ fun m n x h hx => by
    obtain ⟨y, hy, rfl⟩ := Option.map_eq_some_iff.mp h
    have hroom := haveRoom_options k options m n y hy fun r hr =>
      (depth_le_alternatives hr).trans hx
    exact Option.map_eq_some_iff.mpr ⟨y, hroom, rfl⟩
  | .group _ r => by
    intro m n x h hx
    obtain ⟨y, hy, rfl⟩ := Option.map_eq_some_iff.mp h
    exact Option.map_eq_some_iff.mpr
      ⟨y, hasRoom_oneDeeper (hasRoom_asRegular .alone (k + 1) r) hy hx, rfl⟩
  | .repeat r least most greedy => hasRoom_enclosed _ fun m n x h hx => by
    obtain ⟨y, hy, hfits⟩ := Option.bind_eq_some_iff.mp h
    refine Option.bind_eq_some_iff.mpr ⟨y, hasRoom_asRegular .repeated k r m n y hy ?_, hfits⟩
    obtain ⟨-, hsome⟩ := Option.ite_none_right_eq_some.mp hfits
    cases hsome
    exact (Nat.le_succ _).trans hx
  | .anchor .wordBoundary | .anchor .notWordBoundary | .anchor .wordStart | .anchor .wordEnd
  | .anchor .searchStart | .atomic _ | .look .. | .backreference .. | .groupMatched _
  | .conditional .. | .keepOut => hasRoom_const none

theorem haveRoom_parts (k : Nat) : ∀ parts, HaveRoom fun n => partsAsRegular n k parts
  | [] => fun _ _ _ h _ => h
  | r :: rest => by
    intro m n x h hx
    simp only [partsAsRegular] at h ⊢
    split at h
    · rw [if_pos ‹_›]
      exact haveRoom_parts k rest m n x h hx
    · rw [if_neg ‹_›]
      obtain ⟨y, hy, h⟩ := Option.bind_eq_some_iff.mp h
      obtain ⟨z, hz, rfl⟩ := Option.map_eq_some_iff.mp h
      refine Option.bind_eq_some_iff.mpr
        ⟨y, hasRoom_asRegular .part k r m n y hy (hx _ (by simp)), ?_⟩
      exact Option.map_eq_some_iff.mpr
        ⟨z, haveRoom_parts y.2 rest m n z hz fun r hr => hx r (by simp [hr]), rfl⟩

theorem haveRoom_options (k : Nat) : ∀ options, HaveRoom fun n => optionsAsRegular n k options
  | [] => fun _ _ _ h _ => h
  | r :: rest => by
    intro m n x h hx
    simp only [optionsAsRegular] at h ⊢
    obtain ⟨y, hy, h⟩ := Option.bind_eq_some_iff.mp h
    obtain ⟨z, hz, rfl⟩ := Option.map_eq_some_iff.mp h
    refine Option.bind_eq_some_iff.mpr
      ⟨y, hasRoom_asRegular .option k r m n y hy (hx _ (by simp)), ?_⟩
    exact Option.map_eq_some_iff.mpr
      ⟨z, haveRoom_options y.2 rest m n z hz fun r hr => hx r (by simp [hr]), rfl⟩

end

/-! ## Reading on its own -/

/-- A pattern that is written on its own is read again if it does not nest too deep. -/
theorem read?_written {r : Pattern} (hclear : isClear r = true) {R : Regular} :
    Regular.read? {} (r.written .alone) = some R ↔
      R.depth ≤ Regular.Parser.maxDepth ∧ ∃ n k, asRegular n .alone 0 r = some (R, k) := by
  have hlevel := Regular.Parser.level_written Regular.Parser.maxDepth 0 hclear (s := [])
    (by simp [Regular.Parser.Closes])
  rw [List.append_nil] at hlevel
  have hnested : Regular.Parser.nested (Regular.Parser.maxDepth + 1)
      { rest := r.written .alone, flags := {} } = _ := hlevel
  have hread : Regular.read? {} (r.written .alone) =
      (asRegular Regular.Parser.maxDepth .alone 0 r).bind fun x =>
        if x.1.depth ≤ Regular.Parser.maxDepth then some x.1 else none := by
    rw [Regular.read?, hnested]
    cases asRegular Regular.Parser.maxDepth .alone 0 r with
    | none => rfl
    | some x => simp [Regular.Parser.State.before]
  rw [hread, Option.bind_eq_some_iff]
  constructor
  · rintro ⟨⟨_, k⟩, hx, h⟩
    obtain ⟨hdepth, heq⟩ := Option.ite_none_right_eq_some.mp h
    cases heq
    exact ⟨hdepth, _, k, hx⟩
  · rintro ⟨hdepth, n, k, h⟩
    exact ⟨(R, k), hasRoom_asRegular .alone 0 r n _ _ h hdepth, if_pos hdepth⟩

/-- The pattern is a sequence or alternatives. -/
def isJoined : Pattern → Bool
  | seq _ | alt _ => true
  | _ => false

/-- In a sequence, sequences and alternatives are in a group that keeps nothing. -/
theorem asRegular_part (n k : Nat) : ∀ r,
    asRegular n .part k r = enclosed r.isJoined n fun n => asRegular n .alone k r
  | .empty | .literal .. | .set .. | .any _ | .anchor (.edge _) | .seq _ | .alt _ | .group ..
  | .repeat .. | .anchor .wordBoundary | .anchor .notWordBoundary | .anchor .wordStart
  | .anchor .wordEnd | .anchor .searchStart | .atomic _ | .look .. | .backreference ..
  | .groupMatched _ | .conditional .. | .keepOut => rfl

end Pattern

end TreePath.Regex
