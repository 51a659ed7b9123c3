/-
TreePath.Proofs.Regex.Anchoring — patterns between the ends of the text.

To match whole values, a pattern is put as text into a group between the signs for the ends of the
text. Whether the text is then read as that group depends on the pattern (`StaysInside`): a
parenthesis of its own may close the group, a comment may run on over the end of the group, a group
more may be one too many, and names and numbers of groups are checked at another place. Apart from
that, the whole can be read exactly if the pattern can, and is then the tree of the pattern between
the ends of the text (`read?_wrapped`).
-/
import TreePath.Proofs.Regex.Levels
import TreePath.Proofs.Regex.Nesting
import TreePath.Proofs.Text.Bytes

namespace TreePath.Regex.Parser

open TreePath.Text

variable {α : Type} {inner : Parse Pattern}

/-! ## The wrapped pattern -/

/-- The pattern in a group between the signs for the ends of the text. -/
def wrapped (p : List Char) : List Char := '^' :: '(' :: '?' :: ':' :: (p ++ closing)

/-- The group between the ends of the text. -/
def anchored (r : Pattern) : Pattern :=
  .sequence ((.anchor (.edge .textStart)) ::
    if r.isEmpty then [.anchor (.edge .textEnd)] else [r, .anchor (.edge .textEnd)])

/-- Nothing of the text has been read. -/
def State.fresh (s : List Char) (bound : Nat) : State :=
  { rest := s, flags := {}, numberBound := bound }

theorem read_textStart (inner : Parse Pattern) (bound : Nat) (p : List Char) :
    counted (piece (atom inner)) (.fresh (wrapped p) bound) =
      some ((.anchor (.edge .textStart), (p ++ closing).length + 4 - ((p ++ closing).length + 3)),
        .fresh ('(' :: '?' :: ':' :: (p ++ closing)) bound) := rfl

theorem atom_group (inner : Parse Pattern) (bound : Nat) (t : List Char) :
    atom inner (.fresh ('(' :: '?' :: ':' :: t) bound) =
      (inner >>= fun r => accept ")" >>= fun closed =>
        if closed = true then modify (fun st => { st with flags := {} }) >>= fun _ => pure r
        else failure : Parse Pattern) (.fresh t bound) := rfl

/-- The group has been read up to its end. -/
theorem atom_group_eq_some {bound : Nat} {t : List Char} {r : Pattern} {st : State} :
    atom inner (.fresh ('(' :: '?' :: ':' :: t) bound) = some (r, st) ↔
      ∃ st₁ u, inner (.fresh t bound) = some (r, st₁) ∧ st₁.rest = ')' :: u ∧
        st = { st₁ with rest := u, flags := {} } := by
  rw [atom_group, bind_eq_some]
  constructor
  · rintro ⟨r', st₁, hinner, h⟩
    obtain ⟨closed, st₂, haccept, h⟩ := bind_eq_some.mp h
    cases closed with
    | false => cases h
    | true =>
      obtain ⟨hrest, heq⟩ := accept_eq_true haccept
      cases h
      exact ⟨st₁, st₂.rest, hinner, hrest, by rw [heq]⟩
  · rintro ⟨st₁, u, hinner, hrest, rfl⟩
    refine ⟨r, st₁, hinner, bind_eq_some.mpr ⟨true, { st₁ with rest := u }, ?_, rfl⟩⟩
    rw [accept_eq, hrest]
    rfl

/-- Behind the group stands the sign for the end of the text. -/
theorem pieces_textEnd (n : Nat) {st : State} (hrest : st.rest = ['$']) (hflags : st.flags = {}) :
    pieces inner (n + 2) st = some ([.anchor (.edge .textEnd)], { st with rest := [] }) := by
  obtain ⟨rest, flags, _⟩ := st
  cases hrest
  cases hflags
  rfl

theorem repeated_textEnd (r : Pattern) {st : State} (hrest : st.rest = ['$'])
    (hflags : st.flags = {}) : repeated r st = some (r, st) := by
  obtain ⟨rest, flags, _⟩ := st
  cases hrest
  cases hflags
  rfl

theorem bounded_eq_of_length {p : Nat → Parse α} {st : State} {n : Nat} (hn : st.rest.length = n) :
    bounded p st = p (n + 1) st := by
  subst hn
  rfl

theorem moreBranches_nil (n : Nat) {st : State} (hrest : st.rest = []) :
    moreBranches inner n st = some ([], st) := by
  obtain ⟨rest, flags, _⟩ := st
  cases hrest
  cases n <;> rfl

theorem pieces_cons {n m : Nat} {st st₁ st₂ : State} {r : Pattern} {rs : List Pattern}
    (hpiece : counted (piece (atom inner)) st = some ((r, m), st₁)) (hm : m ≠ 0)
    (hpieces : pieces inner n st₁ = some (rs, st₂)) :
    pieces inner (n + 1) st = some (if r.isEmpty then rs else r :: rs, st₂) := by
  refine bind_eq_some.mpr ⟨(r, m), st₁, hpiece, ?_⟩
  dsimp only
  rw [if_neg hm]
  exact bind_eq_some.mpr ⟨rs, st₂, hpieces, rfl⟩

/-- Where the group ends in front of the sign for the end of the text, nothing else can follow. -/
theorem level_wrapped {bound : Nat} {p : List Char} {r : Pattern} {st : State}
    (hinner : inner (.fresh (p ++ closing) bound) = some (r, st)) (hrest : st.rest = closing) :
    level inner (.fresh (wrapped p) bound) =
      if st.numbered && !st.groupNames.isEmpty then none
      else some (anchored r, { st with rest := [], flags := {} }) := by
  have hatom : atom inner _ = _ := atom_group_eq_some.mpr ⟨st, ['$'], hinner, hrest, rfl⟩
  have hpiece : piece (atom inner) (.fresh ('(' :: '?' :: ':' :: (p ++ closing)) bound) =
      some (r, { st with rest := ['$'], flags := {} }) :=
    bind_eq_some.mpr ⟨r, _, hatom, repeated_textEnd r rfl rfl⟩
  have hpieces : ∀ n, pieces inner (n + 4) (.fresh (wrapped p) bound) =
      some (.anchor (.edge .textStart) ::
        (if r.isEmpty then [.anchor (.edge .textEnd)] else [r, .anchor (.edge .textEnd)]),
        { st with rest := [], flags := {} }) := by
    intro n
    refine pieces_cons (read_textStart inner bound p) (by omega) ?_
    refine pieces_cons (counted_eq_some.mpr ⟨r, hpiece, rfl⟩) ?_ (pieces_textEnd n rfl rfl)
    simp [State.fresh]
  have hlength : (State.fresh (wrapped p) bound).rest.length = p.length + 6 := by
    simp [State.fresh, wrapped, closing]
  have hbranch : branch inner (.fresh (wrapped p) bound) =
      some (anchored r, { st with rest := [], flags := {} }) := by
    refine bind_eq_some.mpr ⟨_, _, ?_, rfl⟩
    rw [bounded_eq_of_length hlength]
    exact hpieces (p.length + 3)
  have hmore : bounded (moreBranches inner) { st with rest := [], flags := {} } =
      some ([], { st with rest := [], flags := {} }) := moreBranches_nil _ rfl
  rw [level, bind_of_eq_some hbranch, alternatives, bind_of_eq_some hmore]
  show (if st.numbered && !st.groupNames.isEmpty then failure else pure (anchored r) :
      Parse Pattern)
    { st with rest := [], flags := {} } = _
  split <;> rfl

/-- The group has been read whenever the whole text has. -/
theorem inner_of_level_wrapped {bound : Nat} {p : List Char} {R : Pattern} {st : State}
    (hinner : ∀ w, Tame w 0 inner) (h : level inner (.fresh (wrapped p) bound) = some (R, st)) :
    ∃ r st₁ u, inner (.fresh (p ++ closing) bound) = some (r, st₁) ∧ st₁.rest = ')' :: u ∧
      Step 0 { st₁ with rest := u, flags := {} } st := by
  obtain ⟨first, st₂, hbranch, hrest⟩ := bind_eq_some.mp h
  obtain ⟨rs, st₂', hpieces, hbranch⟩ := bind_eq_some.mp hbranch
  cases hbranch
  have hlength : (State.fresh (wrapped p) bound).rest.length = p.length + 6 := by
    simp [State.fresh, wrapped, closing]
  rw [bounded_eq_of_length hlength] at hpieces
  rw [pieces, bind_of_eq_some (read_textStart inner bound p)] at hpieces
  have htwo : (p ++ closing).length + 4 - ((p ++ closing).length + 3) ≠ 0 := by omega
  dsimp only at hpieces
  rw [if_neg htwo] at hpieces
  obtain ⟨more, st₃, hpieces, h₃⟩ := bind_eq_some.mp hpieces
  cases h₃
  obtain ⟨q, st₄, hcounted, hpieces⟩ := bind_eq_some.mp hpieces
  obtain ⟨r', hpiece, rfl⟩ := counted_eq_some.mp hcounted
  obtain ⟨r, st₅, hatom, hrepeated⟩ := bind_eq_some.mp hpiece
  obtain ⟨st₁, u, hr, hclose, rfl⟩ := atom_group_eq_some.mp hatom
  have hpieces' : Step 0 st₄ st₂ := by
    refine step_of_tame (f := if _ = 0 then pure [] else _ >>= fun rs => pure _)
      (fun w => ?_) hpieces
    exact .ite (.pure _) ((tame_pieces (hinner w) _).bind (l := 0) fun _ => .pure _)
  refine ⟨r, st₁, u, hr, hclose, ?_⟩
  exact ((step_of_tame (fun _ => tame_repeated r) hrepeated).trans hpieces').trans
    (step_of_tame (fun _ => tame_alternatives hinner _) hrest)

/-! ## Reading the wrapped pattern -/

/-- Where reading a pattern on its own ends, nothing of it can reach over the end of a group around
it. -/
structure State.EndsInside (p : List Char) (st : State) : Prop where
  /-- No closing parenthesis of the pattern is left over. -/
  closed : st.rest.head? ≠ some ')'
  /-- The groups do not nest as deep as they may. -/
  shallow : st.rest = [] → (nested (maxDepth - 1) (.start {} p)).isSome = true
  /-- Groups with names and references by number do not go together. -/
  unmixed : st.rest = [] → st.numbered = true → st.groupNames = []
  /-- No comment runs on behind the pattern. -/
  calm : st.rest = [] → st.flags.extended = true → ¬ HasLateSign p

instance (p : List Char) (st : State) : Decidable (st.EndsInside p) :=
  decidable_of_iff (_ ∧ (_ → _) ∧ (_ → _ → _) ∧ (_ → _ → _))
    ⟨fun ⟨h₁, h₂, h₃, h₄⟩ => ⟨h₁, h₂, h₃, h₄⟩, fun ⟨h₁, h₂, h₃, h₄⟩ => ⟨h₁, h₂, h₃, h₄⟩⟩

/-- A pattern that stays inside the group around it. -/
def StaysInside (p : List Char) : Prop :=
  ∀ q ∈ nested maxDepth (.start {} p), q.2.EndsInside p

instance : DecidablePred StaysInside := fun p =>
  inferInstanceAs (Decidable (∀ q ∈ nested maxDepth (.start {} p), q.2.EndsInside p))

/-- The wrapping of a pattern. -/
def Wrapping.ofPattern (p : List Char) : Wrapping where
  pattern := p
  alone := utf8Length p / 2
  inside := utf8Length (wrapped p) / 2
  le := by
    rw [wrapped, show '^' :: '(' :: '?' :: ':' :: (p ++ closing) = "^(?:".toList ++ (p ++ closing)
      from rfl, utf8Length_append, utf8Length_append]
    omega

theorem read?_eq_some_iff {flags : Flags} {p : List Char} {r : Pattern} {refs : List Nat} :
    Pattern.read? flags p = some (r, refs) ↔ ∃ st, nested maxDepth (.start flags p) = some (r, st) ∧
      st.rest = [] ∧ st.hasGroups = true ∧ refs = st.references := by
  rw [Pattern.read?]
  cases nested maxDepth (.start flags p) with
  | none => exact ⟨nofun, nofun⟩
  | some q =>
    obtain ⟨r', st⟩ := q
    simp only [Option.ite_none_right_eq_some, Bool.and_eq_true, List.isEmpty_iff,
      Option.some.injEq, Prod.mk.injEq]
    constructor
    · rintro ⟨⟨hrest, hgroups⟩, rfl, rfl⟩
      exact ⟨st, ⟨rfl, rfl⟩, hrest, hgroups, rfl⟩
    · rintro ⟨_, ⟨rfl, rfl⟩, hrest, hgroups, rfl⟩
      exact ⟨⟨hrest, hgroups⟩, rfl, rfl⟩

/-- A pattern that can be read can be read in the group. -/
theorem read?_wrapped_of_read? {p : List Char} (hp : StaysInside p) {r : Pattern} {refs : List Nat}
    (h : Pattern.read? {} p = some (r, refs)) :
    Pattern.read? {} (wrapped p) = some (anchored r, refs) := by
  obtain ⟨st, hread, hrest, hgroups, rfl⟩ := read?_eq_some_iff.mp h
  have hends : st.EndsInside p := hp _ hread
  have hshallow : nested (maxDepth - 1) (.start {} p) = some (r, st) := by
    obtain ⟨q, hq⟩ := Option.isSome_iff_exists.mp (hends.shallow hrest)
    rw [hq, ← extends_nested _ _ _ hq]
    exact hread
  let w := Wrapping.ofPattern p
  have hinside : nested (maxDepth - 1) (w.widen (.start {} p)) = some (r, w.widen st) :=
    (tame_nested (k := 0) _).forward ⟨List.suffix_refl _, rfl⟩ hshallow fun _ => hends.calm hrest
  have hclosing : (w.widen st).rest = closing := by
    show st.rest ++ closing = closing
    rw [hrest, List.nil_append]
  have hlevel := level_wrapped hinside hclosing
  have hmixed : ((w.widen st).numbered && !(w.widen st).groupNames.isEmpty) = false := by
    show (st.numbered && !st.groupNames.isEmpty) = false
    cases hnumbered : st.numbered with
    | false => rfl
    | true => rw [hends.unmixed hrest hnumbered]; rfl
  rw [hmixed] at hlevel
  exact read?_eq_some_iff.mpr ⟨_, hlevel, rfl, hgroups, rfl⟩

theorem weight_widen_start (p : List Char) :
    ((Wrapping.ofPattern p).widen (.start {} p)).weight = p.countP (· != '$') + 1 := by
  simp [State.weight, Wrapping.widen, State.start, closing, List.countP_append]

/-- A pattern that can be read in the group can be read. -/
theorem read?_of_read?_wrapped {p : List Char} (hp : StaysInside p) {R : Pattern} {refs : List Nat}
    (h : Pattern.read? {} (wrapped p) = some (R, refs)) :
    ∃ r, R = anchored r ∧ Pattern.read? {} p = some (r, refs) := by
  obtain ⟨st, hread, hrest, hgroups, rfl⟩ := read?_eq_some_iff.mp h
  let w := Wrapping.ofPattern p
  obtain ⟨r, st₁, u, hinside, hclose, hstep⟩ :=
    inner_of_level_wrapped (fun _ => tame_nested (maxDepth - 1)) hread
  replace hinside : nested (maxDepth - 1) (w.widen (.start {} p)) = some (r, st₁) := hinside
  have hwithin : w.Within (.start {} p) := ⟨List.suffix_refl _, rfl⟩
  obtain ⟨st₂, rfl, halone⟩ | hlost := (tame_nested (k := 0) _).backward hwithin hinside
  · have hdeep := extends_nested _ _ _ halone
    have hnil : st₂.rest = [] := by
      cases hrest₂ : st₂.rest with
      | nil => rfl
      | cons c s =>
        refine absurd ?_ (hp _ hdeep).closed
        have hhead : c :: (s ++ closing) = ')' :: u := (widen_rest_of_cons hrest₂).symm.trans hclose
        rw [hrest₂, (List.cons.inj hhead).1]
        rfl
    have hlevel := level_wrapped hinside (widen_rest_of_nil hnil)
    replace hread : level _ _ = _ := hread
    have heq := hlevel.symm.trans hread
    split at heq
    · cases heq
    · cases heq
      exact ⟨r, rfl, read?_eq_some_iff.mpr ⟨st₂, hdeep, hnil, hgroups, rfl⟩⟩
  · obtain hpast | ⟨hnumbered, n, hn, hle⟩ := hlost
    · rw [hclose] at hpast
      obtain heq | heq := eq_of_suffix_sign hpast
      · cases heq
      · cases heq
    · have hbound : n ≤ st.groupCount := by
        have := List.all_eq_true.mp hgroups n (hstep.references hn)
        simp at this
        exact this.2
      have hcount : st.numbered = true := hstep.numbered hnumbered
      have hread' : st₁.weight ≤ p.countP (· != '$') + 1 := by
        have := ((tame_nested (w := w) (k := 0) _).step hinside).weight
        rwa [weight_widen_start] at this
      have hrest' : st.weight + 1 ≤ st₁.weight := by
        have := hstep.weight
        simp only [State.weight, hclose, List.countP_cons] at this ⊢
        simp at this ⊢
        omega
      have hgroups' : 2 * st.groupCount + 2 ≤ st.weight := by
        simp only [State.weight, hcount, if_true]
        omega
      have hlength : p.countP (· != '$') ≤ utf8Length p :=
        List.countP_le_length.trans (length_le_utf8Length p)
      have halone : utf8Length p / 2 ≤ n := hle
      omega

/-- Reading a pattern in the group gives what reading it on its own gives. -/
theorem read?_wrapped {p : List Char} (hp : StaysInside p) :
    Pattern.read? {} (wrapped p) = (Pattern.read? {} p).map fun x => (anchored x.1, x.2) := by
  cases h : Pattern.read? {} p with
  | some x => exact read?_wrapped_of_read? hp h
  | none =>
    cases h' : Pattern.read? {} (wrapped p) with
    | none => rfl
    | some x =>
      obtain ⟨r, -, hr⟩ := read?_of_read?_wrapped hp h'
      cases h.symm.trans hr

end TreePath.Regex.Parser
