/-
TreePath.Proofs.Regex.WholeTexts — regular patterns between the ends of the text.

A regular pattern between the ends of the text is read as what the pattern is read as on its own,
perhaps in a group that keeps nothing, between the two ends (`read?_anchored`). It takes two levels
and two states of an automaton more than the pattern (`HasRoom`). It matches exactly if the pattern
matches the whole text (`isMatch_anchored`).
-/
import TreePath.Proofs.Regex.Anchoring
import TreePath.Proofs.Regex.Matches
import TreePath.Proofs.Regex.Rereading
import TreePath.Proofs.Regex.Stretches

namespace TreePath.Regex

open TreePath.Regex.Parser (anchored)

/-! ## Bounds in order -/

namespace Regular

theorem ordered_sequence : ∀ {rs : List Regular}, (∀ r ∈ rs, r.Ordered) → (sequence rs).Ordered
  | [], _ => trivial
  | [r], h => h r (by simp)
  | r :: r' :: rs, h => ⟨h r (by simp), ordered_sequence fun q hq => h q (by simp [hq])⟩

theorem ordered_alternatives : ∀ {rs : List Regular}, (∀ r ∈ rs, r.Ordered) →
    (alternatives rs).Ordered
  | [], _ => trivial
  | [r], h => h r (by simp)
  | r :: r' :: rs, h => ⟨h r (by simp), ordered_alternatives fun q hq => h q (by simp [hq])⟩

end Regular

namespace Pattern

theorem ordered_oneDeeper {n : Nat} {f : Nat → Option (Regular × Nat)} {x : Regular × Nat}
    (hf : ∀ n x, f n = some x → x.1.Ordered) (h : oneDeeper n f = some x) : x.1.Ordered := by
  cases n with
  | zero => cases h
  | succ n => exact hf n x h

theorem ordered_enclosed {needed : Bool} {n : Nat} {f : Nat → Option (Regular × Nat)}
    {x : Regular × Nat} (hf : ∀ n x, f n = some x → x.1.Ordered)
    (h : enclosed needed n f = some x) : x.1.Ordered := by
  cases needed with
  | false => exact hf n x h
  | true =>
    obtain ⟨y, hy, rfl⟩ := Option.map_eq_some_iff.mp h
    exact ordered_oneDeeper (x := y) hf hy

mutual

/-- Only bounds that are in order can be written. -/
theorem ordered_asRegular (place : Place) : ∀ r (n k : Nat) x, asRegular n place k r = some x →
    x.1.Ordered
  | .empty, _, _, _, h => by cases h; trivial
  | .literal .., _, _, _, h => ordered_enclosed (fun _ _ h => by cases h; trivial) h
  | .set .., _, _, _, h => ordered_enclosed (fun _ _ h => by
      obtain ⟨_, _, rfl⟩ := Option.map_eq_some_iff.mp h
      trivial) h
  | .any _, _, _, _, h => ordered_enclosed (fun _ _ h => by cases h; trivial) h
  | .anchor (.edge _), _, _, _, h => ordered_enclosed (fun _ _ h => by cases h; trivial) h
  | .seq parts, _, k, _, h => ordered_enclosed (fun n _ h => by
      obtain ⟨y, hy, rfl⟩ := Option.map_eq_some_iff.mp h
      exact Regular.ordered_sequence (ordered_parts parts n k y hy)) h
  | .alt options, _, k, _, h => ordered_enclosed (fun n _ h => by
      obtain ⟨y, hy, rfl⟩ := Option.map_eq_some_iff.mp h
      exact Regular.ordered_alternatives (ordered_options options n k y hy)) h
  | .group _ r, _, k, _, h => by
    obtain ⟨y, hy, rfl⟩ := Option.map_eq_some_iff.mp h
    exact ordered_oneDeeper (x := y) (fun n x h => ordered_asRegular .alone r n (k + 1) x h) hy
  | .repeat r least most greedy, _, k, _, h => ordered_enclosed (fun n _ h => by
      obtain ⟨y, hy, hfits⟩ := Option.bind_eq_some_iff.mp h
      obtain ⟨hbounds, hsome⟩ := Option.ite_none_right_eq_some.mp hfits
      cases hsome
      refine ⟨fun m hm => ?_, ordered_asRegular .repeated r n k y hy⟩
      cases hm
      simp only [Regular.Parser.fits, Option.all_some, Bool.and_eq_true, decide_eq_true_eq]
        at hbounds
      exact hbounds.2.1) h

theorem ordered_parts : ∀ parts (n k : Nat) x, partsAsRegular n k parts = some x →
    ∀ r ∈ x.1, r.Ordered
  | [], _, _, _, h => by cases h; simp
  | r :: rest, n, k, x, h => by
    rw [partsAsRegular] at h
    split at h
    · exact ordered_parts rest n k x h
    · obtain ⟨y, hy, h⟩ := Option.bind_eq_some_iff.mp h
      obtain ⟨z, hz, rfl⟩ := Option.map_eq_some_iff.mp h
      exact List.forall_mem_cons.mpr
        ⟨ordered_asRegular .part r n k y hy, ordered_parts rest n y.2 z hz⟩

theorem ordered_options : ∀ options (n k : Nat) x, optionsAsRegular n k options = some x →
    ∀ r ∈ x.1, r.Ordered
  | [], _, _, _, h => by cases h; simp
  | r :: rest, n, k, x, h => by
    rw [optionsAsRegular] at h
    obtain ⟨y, hy, h⟩ := Option.bind_eq_some_iff.mp h
    obtain ⟨z, hz, rfl⟩ := Option.map_eq_some_iff.mp h
    exact List.forall_mem_cons.mpr
      ⟨ordered_asRegular .option r n k y hy, ordered_options rest n y.2 z hz⟩

end

/-! ## Between the ends of the text -/

theorem isClear_anchored {r : Pattern} (h : r.isClear = true) : (anchored r).isClear = true := by
  unfold anchored
  cases hempty : r.isEmpty with
  | true => rfl
  | false => simp [sequence, isClear, areClear, h]

theorem isIrregular_anchored (references : List Nat) (r : Pattern) :
    (anchored r).isIrregular references = r.isIrregular references := by
  unfold anchored
  cases hempty : r.isEmpty with
  | true =>
    obtain rfl : r = .empty := by cases r <;> first | rfl | cases hempty
    rfl
  | false => simp [sequence, isIrregular, anyIrregular, Anchor.isIrregular]

theorem anchored_of_not_isEmpty {r : Pattern} (h : r.isEmpty = false) :
    anchored r = .seq [.anchor (.edge .textStart), r, .anchor (.edge .textEnd)] := by
  simp [anchored, h, sequence]

/-- The regular pattern between the ends of the text; a pattern for nothing is left out. -/
def between (r : Pattern) (T : Regular) : Regular :=
  .seq (.edge .textStart) (if r.isEmpty then .edge .textEnd else .seq T (.edge .textEnd))

theorem asRegular_anchored (n : Nat) (r : Pattern) : asRegular n .alone 0 (anchored r) =
    (asRegular n .part 0 r).map fun x => (between r x.1, x.2) := by
  cases hempty : r.isEmpty with
  | true =>
    obtain rfl : r = .empty := by cases r <;> first | rfl | cases hempty
    rfl
  | false =>
    rw [anchored_of_not_isEmpty hempty]
    have hparts : partsAsRegular n 0 [.anchor (.edge .textStart), r, .anchor (.edge .textEnd)] =
        (asRegular n .part 0 r).map fun x => ([.edge .textStart, x.1, .edge .textEnd], x.2) := by
      show Option.map _ (if r.isEmpty then _ else _) = _
      rw [if_neg (by simp [hempty])]
      cases asRegular n .part 0 r <;> rfl
    show (partsAsRegular n 0 _).map _ = _
    rw [hparts, Option.map_map]
    simp [between, hempty, Function.comp_def, Regular.sequence]

end Pattern

/-! ## Room for the ends of the text -/

namespace Regular

/-- The pattern does not nest as deep as it may, and its automata can have two states more. -/
structure LeavesRoom (R : Regular) : Prop where
  depth : R.depth + 2 ≤ Parser.maxDepth
  forward : (R.simplify.size false).forward + 64 + 168 ≤ maxSize
  backward : (R.simplify.size false).backward + 64 + 104 ≤ maxSize

instance (R : Regular) : Decidable R.LeavesRoom :=
  decidable_of_iff (_ ∧ _ ∧ _) ⟨fun ⟨h₁, h₂, h₃⟩ => ⟨h₁, h₂, h₃⟩, fun ⟨h₁, h₂, h₃⟩ => ⟨h₁, h₂, h₃⟩⟩

theorem isSmall_iff {R : Regular} : R.isSmall = true ↔
    (R.simplify.size false).forward + 168 ≤ maxSize ∧
      (R.simplify.size false).backward + 104 ≤ maxSize := by
  rw [isSmall, Bool.and_eq_true]
  exact and_congr decide_eq_true_iff decide_eq_true_iff

/-- The pattern, which may be in a group that keeps nothing. -/
def PerhapsGrouped (R T : Regular) : Prop := T = R ∨ T = .group none R

end Regular

namespace Pattern

variable {r : Pattern} {R T : Regular}

theorem depth_between (r : Pattern) (T : Regular) :
    (between r T).depth = if r.isEmpty then 1 else T.depth + 1 := by
  unfold between
  split <;> simp [Regular.depth]

theorem simplify_between (hT : R.PerhapsGrouped T) :
    (between r T).simplify = between r R.simplify := by
  unfold between
  obtain rfl | rfl := hT
  all_goals split <;> rfl

theorem size_between (hempty : r.isEmpty = true → R = .empty) :
    (R.simplify.size false).forward ≤ ((between r R.simplify).size false).forward ∧
      (R.simplify.size false).backward ≤ ((between r R.simplify).size false).backward ∧
      ((between r R.simplify).size false).forward ≤ (R.simplify.size false).forward + 64 ∧
      ((between r R.simplify).size false).backward ≤ (R.simplify.size false).backward + 64 := by
  unfold between
  cases h : r.isEmpty with
  | true =>
    rw [hempty h]
    decide
  | false =>
    simp [Regular.size, Regular.Size.add, Regular.Size.parts, Regular.Size.both]
    omega

theorem matches_between {text : Array Char} (hT : R.PerhapsGrouped T)
    (hempty : r.isEmpty = true → R = .empty)
    {i j : Nat} : Regular.Matches text (between r T) i j ↔
      i = 0 ∧ j = text.size ∧ Regular.Matches text R 0 text.size := by
  have hmatches : ∀ i j, Regular.Matches text T i j ↔ Regular.Matches text R i j := by
    obtain rfl | rfl := hT
    all_goals exact fun _ _ => Iff.rfl
  unfold between
  cases h : r.isEmpty with
  | true =>
    rw [hempty h]
    simp only [Regular.Matches, Edge.holds, beq_iff_eq, if_true]
    constructor
    · rintro ⟨_, ⟨rfl, rfl⟩, hstop, rfl⟩
      exact ⟨rfl, hstop, hstop⟩
    · rintro ⟨rfl, rfl, hsize⟩
      exact ⟨_, ⟨rfl, rfl⟩, hsize, hsize⟩
  | false =>
    simp only [Regular.Matches, Edge.holds, beq_iff_eq, Bool.false_eq_true, if_false]
    constructor
    · rintro ⟨_, ⟨rfl, rfl⟩, _, hmatch, rfl, rfl⟩
      exact ⟨rfl, rfl, (hmatches _ _).mp hmatch⟩
    · rintro ⟨rfl, rfl, hmatch⟩
      exact ⟨_, ⟨rfl, rfl⟩, _, (hmatches _ _).mpr hmatch, rfl, rfl⟩

/-! ## Reading between the ends of the text -/

theorem eq_empty_of_read? (hread : ∃ n k, asRegular n .alone 0 r = some (R, k))
    (h : r.isEmpty = true) : R = .empty := by
  obtain rfl : r = .empty := by cases r <;> first | rfl | cases h
  obtain ⟨n, k, hread⟩ := hread
  cases hread
  rfl

/-- What is read between the ends of the text is the pattern as it is read on its own. -/
theorem of_read?_anchored (hclear : r.isClear = true) {S : Regular}
    (h : Regular.read? {} ((anchored r).written .alone) = some S) :
    ∃ R T, Regular.read? {} (r.written .alone) = some R ∧ R.PerhapsGrouped T ∧ S = between r T := by
  obtain ⟨hdepth, n, k, hread⟩ := (read?_written (isClear_anchored hclear)).mp h
  rw [asRegular_anchored] at hread
  obtain ⟨⟨T, k'⟩, hT, heq⟩ := Option.map_eq_some_iff.mp hread
  obtain ⟨rfl, rfl⟩ := Prod.mk.inj heq
  rw [asRegular_part] at hT
  have hT' : T.depth ≤ Regular.Parser.maxDepth := by
    rw [depth_between] at hdepth
    cases hempty : r.isEmpty with
    | true =>
      obtain rfl : r = .empty := by cases r <;> first | rfl | cases hempty
      cases hT
      exact Nat.zero_le _
    | false =>
      rw [hempty, if_neg (by simp)] at hdepth
      exact Nat.le_of_succ_le hdepth
  cases hjoined : r.isJoined with
  | false =>
    rw [hjoined] at hT
    exact ⟨T, T, (read?_written hclear).mpr ⟨hT', n, k', hT⟩, .inl rfl, rfl⟩
  | true =>
    rw [hjoined] at hT
    obtain ⟨⟨R, _⟩, hR, heq⟩ := Option.map_eq_some_iff.mp hT
    cases heq
    obtain _ | n := n
    · cases hR
    exact ⟨R, _, (read?_written hclear).mpr ⟨Nat.le_of_succ_le hT', n, k', hR⟩, .inr rfl, rfl⟩

theorem read?_anchored (hclear : r.isClear = true)
    (h : Regular.read? {} (r.written .alone) = some R)
    (hroom : R.depth + 2 ≤ Regular.Parser.maxDepth) :
    ∃ T, R.PerhapsGrouped T ∧
      Regular.read? {} ((anchored r).written .alone) = some (between r T) := by
  obtain ⟨-, n, k, hread⟩ := (read?_written hclear).mp h
  have hdeep := hasRoom_asRegular .alone 0 r n R.depth _ hread (Nat.le_refl _)
  obtain ⟨T, hT, m, hm⟩ : ∃ T, R.PerhapsGrouped T ∧ ∃ m, asRegular m .part 0 r = some (T, k) := by
    cases hjoined : r.isJoined with
    | false => exact ⟨R, .inl rfl, n, by rw [asRegular_part, hjoined]; exact hread⟩
    | true =>
      refine ⟨.group none R, .inr rfl, n + 1, ?_⟩
      rw [asRegular_part, hjoined]
      exact Option.map_eq_some_iff.mpr ⟨(R, k), hread, rfl⟩
  refine ⟨T, hT, (read?_written (isClear_anchored hclear)).mpr ⟨?_, m, k, ?_⟩⟩
  · have hdepth : T.depth ≤ R.depth + 1 := by
      obtain rfl | rfl := hT
      · exact Nat.le_succ _
      · exact Nat.le_refl _
    rw [depth_between]
    split <;> omega
  · rw [asRegular_anchored]
    exact Option.map_eq_some_iff.mpr ⟨(T, k), hm, rfl⟩

end Pattern

/-! ## Making patterns ready -/

variable {r : Pattern} {references : List Nat}

theorem ofTree?_of_regular (hregular : r.isIrregular references = false) (flags : Flags) :
    ofTree? flags r references = (Regular.read? flags (r.written .alone)).bind fun R =>
      R.program?.map fun p => .regular p 0 := by
  simp only [ofTree?, withMatchGroup?_of_regular hregular, Option.getD_none, hregular,
    Bool.false_eq_true, if_false, Option.isSome_none]
  refine congrArg _ (funext fun R => ?_)
  cases R.program? <;> rfl

theorem ofTree?_eq_some (hregular : r.isIrregular references = false) {flags : Flags} {x : Regex} :
    ofTree? flags r references = some x ↔ ∃ R p, Regular.read? flags (r.written .alone) = some R ∧
      R.program? = some p ∧ x = .regular p 0 := by
  rw [ofTree?_of_regular hregular, Option.bind_eq_some_iff]
  refine exists_congr fun R => ?_
  simp only [Option.map_eq_some_iff, eq_comm (a := x), ← exists_and_left]

theorem program?_eq_some {R : Regular} {p : Regular.Program} (h : R.program? = some p) :
    R.isSmall = true := by
  rw [Regular.program?] at h
  exact (Option.ite_none_right_eq_some.mp h).1

theorem exists_program? {R : Regular} (h : R.isSmall = true) : ∃ p, R.program? = some p :=
  ⟨_, if_pos h⟩

/-- A regular pattern that can be made ready between the ends of the text can be made ready. -/
theorem ofTree?_of_anchored (hregular : r.isIrregular references = false)
    (hclear : r.isClear = true) {x : Regex} (h : ofTree? {} (anchored r) references = some x) :
    ∃ y, ofTree? {} r references = some y := by
  have hregular' := (Pattern.isIrregular_anchored references r).trans hregular
  obtain ⟨S, p, hread, hp, -⟩ := (ofTree?_eq_some hregular').mp h
  obtain ⟨R, T, hR, hT, rfl⟩ := Pattern.of_read?_anchored hclear hread
  have hempty := Pattern.eq_empty_of_read? ((Pattern.read?_written hclear).mp hR).2
  obtain ⟨hforward, hbackward⟩ := Regular.isSmall_iff.mp (program?_eq_some hp)
  rw [Pattern.simplify_between hT] at hforward hbackward
  obtain ⟨hle, hle', -⟩ := Pattern.size_between hempty
  have hsmall : R.isSmall = true := Regular.isSmall_iff.mpr ⟨by omega, by omega⟩
  obtain ⟨q, hq⟩ := exists_program? hsmall
  exact ⟨_, (ofTree?_eq_some hregular).mpr ⟨R, q, hR, hq, rfl⟩⟩

/-- A regular pattern that can be made ready can be made ready between the ends of the text, if it
leaves room for them. -/
theorem anchored_of_ofTree? (hregular : r.isIrregular references = false)
    (hclear : r.isClear = true)
    (hroom : ∀ R, Regular.read? {} (r.written .alone) = some R → R.LeavesRoom) {y : Regex}
    (h : ofTree? {} r references = some y) :
    ∃ x, ofTree? {} (anchored r) references = some x := by
  have hregular' := (Pattern.isIrregular_anchored references r).trans hregular
  obtain ⟨R, q, hR, -, -⟩ := (ofTree?_eq_some hregular).mp h
  obtain ⟨hdepth, hforward, hbackward⟩ := hroom R hR
  obtain ⟨T, hT, hread⟩ := Pattern.read?_anchored hclear hR hdepth
  have hempty := Pattern.eq_empty_of_read? ((Pattern.read?_written hclear).mp hR).2
  obtain ⟨-, -, hle, hle'⟩ := Pattern.size_between hempty
  have hsmall : (Pattern.between r T).isSmall = true := by
    rw [Regular.isSmall_iff, Pattern.simplify_between hT]
    exact ⟨by omega, by omega⟩
  obtain ⟨p, hp⟩ := exists_program? hsmall
  exact ⟨_, (ofTree?_eq_some hregular').mpr ⟨_, p, hread, hp, rfl⟩⟩

/-- What a program finds from the beginning of the text on is a match somewhere. -/
theorem isMatch_regular {p : Regular.Program} {s : List Char} : (regular p 0).isMatch s = true ↔
    ∃ start ≤ s.length, ∃ stop, p.MatchesAt s.toArray start stop := by
  rw [isMatch, search?, Option.isSome_map]
  constructor
  · intro h
    obtain ⟨found, hfound⟩ := Option.isSome_iff_exists.mp h
    obtain ⟨-, hle, hmatch, -⟩ := Regular.Program.search?_eq_some (Nat.zero_le _) hfound
    exact ⟨found.1, hle, _, hmatch⟩
  · rintro ⟨start, hle, stop, hmatch⟩
    cases h : p.search? s.toArray 0 with
    | some found => rfl
    | none =>
      have hno := Regular.Program.search?_eq_none (Nat.zero_le _) h start (Nat.zero_le _) hle stop
      exact absurd hmatch hno

/-- A regular pattern between the ends of the text matches exactly if the pattern matches the whole
text. -/
theorem isMatch_anchored (hregular : r.isIrregular references = false) (hclear : r.isClear = true)
    {x y : Regex} (hx : ofTree? {} (anchored r) references = some x)
    (hy : ofTree? {} r references = some y) (s : List Char) :
    ∃ p, y = .regular p 0 ∧ (x.isMatch s = true ↔ p.MatchesAt s.toArray 0 s.length) := by
  have hregular' := (Pattern.isIrregular_anchored references r).trans hregular
  obtain ⟨S, q, hread, hq, rfl⟩ := (ofTree?_eq_some hregular').mp hx
  obtain ⟨R, p, hR, hp, rfl⟩ := (ofTree?_eq_some hregular).mp hy
  obtain ⟨R', T, hR', hT, rfl⟩ := Pattern.of_read?_anchored hclear hread
  obtain rfl := Option.some.inj (hR.symm.trans hR')
  obtain ⟨-, n, k, hordered⟩ := (Pattern.read?_written hclear).mp hR
  obtain ⟨-, n', k', hordered'⟩ :=
    (Pattern.read?_written (Pattern.isClear_anchored hclear)).mp hread
  have hempty := Pattern.eq_empty_of_read? ⟨n, k, hordered⟩
  refine ⟨p, rfl, ?_⟩
  have hsize : s.toArray.size = s.length := List.size_toArray
  rw [isMatch_regular,
    Regular.matchesAt_of_program? (Pattern.ordered_asRegular _ _ _ _ _ hordered) hp]
  simp only [Regular.matchesAt_of_program? (Pattern.ordered_asRegular _ _ _ _ _ hordered') hq,
    Pattern.matches_between hT hempty, hsize]
  constructor
  · rintro ⟨_, _, _, -, -, hmatch⟩
    exact hmatch
  · exact fun hmatch => ⟨0, Nat.zero_le _, _, rfl, rfl, hmatch⟩

end TreePath.Regex
