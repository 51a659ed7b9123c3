/-
TreePath.Proofs.Constraint.Attaching — what attaching groups to definitions leaves.

Attaching a group fails without a trace or puts all of its constraints into the lists of the
definition (`Composing.runIn_attach_eq`), and when it fails is known beforehand
(`ConstraintGroup.isSome_obstacle?_iff`). So any number of attempts leave what the successful ones
among them leave (`Composing.run_attachEach`). A list has each constraint once, at the place of its
first attachment, because one that is there already is not put there again
(`KeyedList.foldl_putNew`).
-/
import TreePath.Proofs.Constraint.Targeting

namespace TreePath

/-! ## Lists without repetition -/

namespace KeyedList

variable {α κ : Type} [BEq κ] [LawfulBEq κ] {key : α → κ} {l new : List α} {x y : α}

/-- Elements are told apart by their keys. -/
def Distinguished (key : α → κ) (l : List α) : Prop := ∀ x ∈ l, ∀ y ∈ l, key x = key y → x = y

omit [BEq κ] [LawfulBEq κ] in
theorem Distinguished.of_subset {l l' : List α} (h : Distinguished key l)
    (hsub : ∀ x ∈ l', x ∈ l) : Distinguished key l' :=
  fun x hx y hy => h x (hsub x hx) y (hsub y hy)

/-- Puts an element at the end of a list, unless one with its key is there already. -/
def putNew (key : α → κ) (l : List α) (x : α) : List α :=
  if l.any fun y => key y == key x then l else l ++ [x]

omit [LawfulBEq κ] in
theorem mem_of_mem_putNew (h : y ∈ putNew key l x) : y ∈ l ∨ y = x := by
  unfold putNew at h
  split at h
  · exact .inl h
  · rw [List.mem_append, List.mem_singleton] at h
    exact h

theorem mem_putNew (h : Distinguished key (x :: l)) : y ∈ putNew key l x ↔ y ∈ l ∨ y = x := by
  refine ⟨mem_of_mem_putNew, fun hy => ?_⟩
  unfold putNew
  split
  · rename_i hany
    rcases hy with hy | rfl
    · exact hy
    · -- the one that is there is the same one
      obtain ⟨z, hz, hkey⟩ := List.any_eq_true.mp hany
      rw [← h z (List.mem_cons_of_mem _ hz) y List.mem_cons_self (beq_iff_eq.mp hkey)]
      exact hz
  · rw [List.mem_append, List.mem_singleton]
    exact hy

theorem pairwise_putNew (h : l.Pairwise fun x y => key x ≠ key y) (x : α) :
    (putNew key l x).Pairwise fun x y => key x ≠ key y := by
  unfold putNew
  split
  · exact h
  · rename_i hany
    refine List.pairwise_append.mpr ⟨h, List.pairwise_singleton _ _, fun y hy z hz heq => ?_⟩
    rw [List.mem_singleton.mp hz] at heq
    exact hany (List.any_eq_true.mpr ⟨y, hy, beq_iff_eq.mpr heq⟩)

theorem any_putNew (l : List α) (x : α) (k : κ) :
    (putNew key l x).any (key · == k) = (l.any (key · == k) || key x == k) := by
  unfold putNew
  split
  · rename_i hany
    by_cases hk : key x = k
    · rw [← hk, hany, Bool.true_or]
    · rw [beq_false_of_ne hk, Bool.or_false]
  · rw [List.any_append, List.any_cons, List.any_nil, Bool.or_false]

/-- The elements of one kind are put into their own list. -/
theorem filter_putNew (h : Distinguished key (x :: l)) (p : α → Bool) :
    (putNew key l x).filter p = if p x then putNew key (l.filter p) x else l.filter p := by
  by_cases hp : p x
  · have hany : (l.filter p).any (key · == key x) = l.any (key · == key x) := by
      rw [List.any_filter]
      refine Bool.eq_iff_iff.mpr ⟨fun hx => ?_, fun hx => ?_⟩
      · obtain ⟨y, hy, hkey⟩ := List.any_eq_true.mp hx
        exact List.any_eq_true.mpr ⟨y, hy, (Bool.and_eq_true _ _ ▸ hkey).2⟩
      · obtain ⟨y, hy, hkey⟩ := List.any_eq_true.mp hx
        have heq : y = x :=
          h y (List.mem_cons_of_mem _ hy) x List.mem_cons_self (beq_iff_eq.mp hkey)
        exact List.any_eq_true.mpr ⟨y, hy, by rw [heq, hp, beq_self_eq_true, Bool.and_true]⟩
    rw [if_pos hp]
    unfold putNew
    rw [hany]
    split
    · rfl
    · rw [List.filter_append, List.filter_cons_of_pos hp, List.filter_nil]
  · rw [if_neg hp]
    unfold putNew
    split
    · rfl
    · rw [List.filter_append, List.filter_cons_of_neg hp, List.filter_nil, List.append_nil]

/-! One after another. -/

/-- What is not there yet comes in the order in which it comes first. -/
theorem foldl_putNew (l new : List α) : new.foldl (putNew key) l
    = l ++ (new.filter fun x => !l.any (key · == key x)).eraseDupsBy fun x y => key x == key y := by
  induction new generalizing l with
  | nil => simp
  | cons x rest ih =>
    rw [List.foldl_cons, ih, putNew]
    split
    · rename_i hany
      rw [List.filter_cons_of_neg (by simpa using hany)]
    · rename_i hany
      rw [List.filter_cons_of_pos (by simpa using hany), List.eraseDupsBy_cons,
        List.append_assoc, List.filter_filter]
      refine congrArg (l ++ x :: ·) (congrArg (List.eraseDupsBy _) ?_)
      refine List.filter_congr fun y _ => ?_
      rw [List.any_append, Bool.not_or, Bool.and_comm]
      simp [Bool.beq_comm (a := key x)]

theorem pairwise_foldl_putNew (h : l.Pairwise fun x y => key x ≠ key y) (new : List α) :
    (new.foldl (putNew key) l).Pairwise fun x y => key x ≠ key y := by
  induction new generalizing l with
  | nil => exact h
  | cons x rest ih => exact ih (pairwise_putNew h x)

omit [LawfulBEq κ] in
theorem mem_of_mem_foldl_putNew (h : y ∈ new.foldl (putNew key) l) : y ∈ l ∨ y ∈ new := by
  induction new generalizing l with
  | nil => exact .inl h
  | cons x rest ih =>
    rcases ih h with h | h
    · rcases mem_of_mem_putNew h with h | rfl
      · exact .inl h
      · exact .inr List.mem_cons_self
    · exact .inr (List.mem_cons_of_mem _ h)

theorem any_foldl_putNew (l new : List α) (k : κ) :
    (new.foldl (putNew key) l).any (key · == k) = (l.any (key · == k) || new.any (key · == k)) := by
  induction new generalizing l with
  | nil => simp
  | cons x rest ih => rw [List.foldl_cons, ih, any_putNew, List.any_cons, Bool.or_assoc]

omit [LawfulBEq κ] in
theorem distinguished_foldl_cons (h : Distinguished key (l ++ x :: new)) :
    Distinguished key (x :: l) ∧ Distinguished key (putNew key l x ++ new) := by
  refine ⟨h.of_subset fun y hy => ?_, h.of_subset fun y hy => ?_⟩
  · rcases List.mem_cons.mp hy with rfl | hy
    · exact List.mem_append_right _ List.mem_cons_self
    · exact List.mem_append_left _ hy
  · rcases List.mem_append.mp hy with hy | hy
    · rcases mem_of_mem_putNew hy with hy | rfl
      · exact List.mem_append_left _ hy
      · exact List.mem_append_right _ List.mem_cons_self
    · exact List.mem_append_right _ (List.mem_cons_of_mem _ hy)

theorem filter_foldl_putNew (h : Distinguished key (l ++ new)) (p : α → Bool) :
    (new.foldl (putNew key) l).filter p = (new.filter p).foldl (putNew key) (l.filter p) := by
  induction new generalizing l with
  | nil => rfl
  | cons x rest ih =>
    obtain ⟨hfirst, hrest⟩ := distinguished_foldl_cons h
    rw [List.foldl_cons, ih hrest, filter_putNew hfirst]
    by_cases hp : p x
    · rw [List.filter_cons_of_pos hp, if_pos hp, List.foldl_cons]
    · rw [List.filter_cons_of_neg hp, if_neg hp]

theorem mem_foldl_putNew (h : Distinguished key (l ++ new)) :
    y ∈ new.foldl (putNew key) l ↔ y ∈ l ∨ y ∈ new := by
  induction new generalizing l with
  | nil => simp
  | cons x rest ih =>
    obtain ⟨hfirst, hrest⟩ := distinguished_foldl_cons h
    rw [List.foldl_cons, ih hrest, mem_putNew hfirst, or_assoc, List.mem_cons]

end KeyedList

open KeyedList (putNew Distinguished)

/-! ## One group and one definition -/

namespace Attachments

theorem carries_eq_any (a : Attachments) (d : DefinitionId) (c : Constraint) :
    a.carries d c = (a.ofDefinition d).any fun c' => c'.identity == c.identity := by
  rw [carries, ofDefinition, List.any_map, List.any_filter]
  rfl

theorem ofDefinition_add (a : Attachments) (d d' : DefinitionId) (c : Constraint) :
    (a.add d c).ofDefinition d'
      = if d = d' then putNew Constraint.identity (a.ofDefinition d') c else a.ofDefinition d' := by
  unfold add putNew Constraint.identity
  by_cases hd : d = d'
  · subst hd
    rw [if_pos rfl, carries_eq_any]
    split
    · rfl
    · simp [ofDefinition]
  · rw [if_neg hd]
    split
    · rfl
    · simp [ofDefinition, hd]

end Attachments

namespace ConstraintGroup

/-- The constraint is one of the group. -/
def Has (g : ConstraintGroup) (c : Constraint) : Prop :=
  ∃ c' ∈ g.constraints, c'.identity = c.identity

/-- Attaches all constraints of the group to a definition. -/
def place (g : ConstraintGroup) (d : DefinitionId) (a : Attachments) : Attachments :=
  g.constraints.foldl (fun a c => a.add d c) a

theorem ofDefinition_place (g : ConstraintGroup) (d d' : DefinitionId) (a : Attachments) :
    (g.place d a).ofDefinition d'
      = if d = d' then g.constraints.foldl (putNew Constraint.identity) (a.ofDefinition d')
        else a.ofDefinition d' := by
  unfold place
  induction g.constraints generalizing a with
  | nil => simp
  | cons c rest ih =>
    rw [List.foldl_cons, ih, Attachments.ofDefinition_add, List.foldl_cons]
    split <;> rfl

theorem place_eq_self (g : ConstraintGroup) {d : DefinitionId} {a : Attachments}
    (h : ∀ c ∈ g.constraints, a.carries d c = true) : g.place d a = a := by
  unfold place
  revert h
  induction g.constraints with
  | nil => exact fun _ => rfl
  | cons c rest ih =>
    intro h
    obtain ⟨hc, hrest⟩ := List.forall_mem_cons.mp h
    rw [List.foldl_cons, Attachments.add, if_pos hc, ih hrest]

/-- The group is meant for another kind of definition, or it has constraints for assemblies and the
definition is none. -/
def Unsuited (g : ConstraintGroup) (d : Definition) : Prop :=
  (∃ kind, g.definitionKind = some kind ∧ kind ≠ d.kind) ∨
    (d.kind = .flag ∨ d.kind = .field) ∧
      ∃ c ∈ g.constraints, c.kind = .index ∨ c.kind = .unique ∨ c.kind = .cardinality

theorem filter_isAssemblyOnly_ne_nil_iff (g : ConstraintGroup) :
    (g.kinds.filter (·.isAssemblyOnly)).isEmpty = false ↔
      ∃ c ∈ g.constraints, c.kind = .index ∨ c.kind = .unique ∨ c.kind = .cardinality := by
  have hkind : ∀ kind : ConstraintKind, kind ∈ ConstraintKind.all ∧ (kind.isAssemblyOnly = true ↔
      kind = .index ∨ kind = .unique ∨ kind = .cardinality) := by
    intro kind
    cases kind <;> decide
  rw [List.isEmpty_eq_false_iff_exists_mem]
  simp only [kinds, List.mem_filter, List.any_eq_true, beq_iff_eq]
  constructor
  · rintro ⟨kind, ⟨-, c, hc, rfl⟩, honly⟩
    exact ⟨c, hc, (hkind _).2.mp honly⟩
  · rintro ⟨c, hc, honly⟩
    exact ⟨c.kind, ⟨(hkind _).1, c, hc, rfl⟩, (hkind _).2.mpr honly⟩

/-- **A definition cannot carry a group exactly if the group is not suited to it.** -/
theorem isSome_obstacle?_iff (g : ConstraintGroup) (d : Definition) :
    (g.obstacle? d).isSome ↔ g.Unsuited d := by
  have hassembly : d.kind ≠ .assembly ↔ d.kind = .flag ∨ d.kind = .field := by
    cases d.kind <;> decide
  unfold obstacle? Unsuited
  rw [← filter_isAssemblyOnly_ne_nil_iff, ← hassembly]
  cases hkind : g.definitionKind.filter (· != d.kind) with
  | some kind =>
    obtain ⟨hsome, hne⟩ := Option.filter_eq_some_iff.mp hkind
    exact ⟨fun _ => .inl ⟨kind, hsome, bne_iff_ne.mp hne⟩, fun _ => rfl⟩
  | none =>
    have hnone : ¬ ∃ kind, g.definitionKind = some kind ∧ kind ≠ d.kind := by
      rintro ⟨kind, hsome, hne⟩
      rw [hsome, Option.filter_some_pos (by simpa using hne)] at hkind
      cases hkind
    rw [or_iff_right hnone]
    simp only
    split
    · rename_i h
      rw [Bool.or_eq_true, beq_iff_eq] at h
      refine ⟨nofun, fun ⟨hd, hs⟩ => ?_⟩
      rcases h with h | h
      · exact absurd h hd
      · rw [h] at hs
        cases hs
    · rename_i h
      rw [Bool.or_eq_true, beq_iff_eq, not_or, Bool.not_eq_true] at h
      exact ⟨fun _ => h, fun _ => rfl⟩

theorem code_of_obstacle? {g : ConstraintGroup} {d : Definition} {e : Error}
    (h : g.obstacle? d = some e) : e.code = .misplacedConstraint := by
  unfold obstacle? at h
  simp only at h
  split at h
  · cases h
    rfl
  · split at h
    · cases h
    · cases h
      rfl

/-- What comes of attaching the group to a definition. -/
def outcome (g : ConstraintGroup) (d : Definition) : Except Error Unit :=
  match g.obstacle? d with
  | some e => .error e
  | none => .ok ()

theorem outcome_eq_error_iff {g : ConstraintGroup} {d : Definition} {e : Error} :
    g.outcome d = .error e ↔ g.obstacle? d = some e := by
  unfold outcome
  cases g.obstacle? d with
  | some e' => rw [Except.error.injEq, Option.some.injEq]
  | none => exact ⟨nofun, nofun⟩

theorem isOk_outcome (g : ConstraintGroup) (d : Definition) :
    (g.outcome d).isOk = false ↔ g.Unsuited d := by
  rw [← isSome_obstacle?_iff, outcome]
  cases g.obstacle? d with
  | some e => exact ⟨fun _ => rfl, fun _ => rfl⟩
  | none => exact ⟨nofun, nofun⟩

end ConstraintGroup

/-- **A group is attached as a whole or not at all.** -/
theorem Composing.runIn_attach_eq (g : ConstraintGroup) (d : Definition) (a : Attachments)
    (s : Session) : (attach g d).runIn a s
      = ((g.outcome d, if (g.obstacle? d).isSome then a else g.place d.id a), s) := by
  have hget : runIn (get : Composing Attachments) a s = ((.ok a, a), s) := rfl
  rw [attach, runIn_bind, hget]
  simp only [ConstraintGroup.attach, ConstraintGroup.outcome]
  cases g.obstacle? d <;> rfl

/-! ## Groups one after another -/

namespace Attachments

/-- Attaches groups to definitions in order. -/
def placeAll (a : Attachments) (visits : List (ConstraintGroup × Definition)) : Attachments :=
  visits.foldl (fun a v => v.1.place v.2.id a) a

theorem placeAll_append (a : Attachments) (visits visits' : List (ConstraintGroup × Definition)) :
    a.placeAll (visits ++ visits') = (a.placeAll visits).placeAll visits' :=
  List.foldl_append

/-- The constraints that come to a definition, one group after another. -/
def comingTo (visits : List (ConstraintGroup × Definition)) (d : DefinitionId) :
    List Constraint :=
  (visits.filter fun v => v.2.id == d).flatMap (·.1.constraints)

theorem mem_comingTo {visits : List (ConstraintGroup × Definition)} {d : DefinitionId}
    {c : Constraint} :
    c ∈ comingTo visits d ↔ ∃ v ∈ visits, v.2.id = d ∧ c ∈ v.1.constraints := by
  simp only [comingTo, List.mem_flatMap, List.mem_filter, beq_iff_eq, and_assoc]

theorem ofDefinition_placeAll (a : Attachments) (visits : List (ConstraintGroup × Definition))
    (d : DefinitionId) : (a.placeAll visits).ofDefinition d
      = (comingTo visits d).foldl (putNew Constraint.identity) (a.ofDefinition d) := by
  unfold placeAll comingTo
  induction visits generalizing a with
  | nil => rfl
  | cons v rest ih =>
    rw [List.foldl_cons, ih, ConstraintGroup.ofDefinition_place]
    by_cases hv : v.2.id = d
    · rw [if_pos hv, List.filter_cons_of_pos (by simpa using hv), List.flatMap_cons,
        List.foldl_append]
    · rw [if_neg hv, List.filter_cons_of_neg (by simpa using hv)]

/-- A constraint is carried if it was before, or if a group that has it was attached. -/
theorem carries_placeAll {a : Attachments} {visits : List (ConstraintGroup × Definition)}
    {d : DefinitionId} {c : Constraint} : (a.placeAll visits).carries d c = true ↔
      a.carries d c = true ∨ ∃ v ∈ visits, v.2.id = d ∧ v.1.Has c := by
  rw [carries_eq_any, carries_eq_any, ofDefinition_placeAll, KeyedList.any_foldl_putNew,
    Bool.or_eq_true]
  refine or_congr_right ?_
  simp only [List.any_eq_true, mem_comingTo, beq_iff_eq, ConstraintGroup.Has]
  constructor
  · rintro ⟨c', ⟨v, hv, hd, hc'⟩, hid⟩
    exact ⟨v, hv, hd, c', hc', hid⟩
  · rintro ⟨v, hv, hd, c', hc', hid⟩
    exact ⟨c', ⟨v, hv, hd, hc'⟩, hid⟩

theorem placeAll_eq_self {a : Attachments} {visits : List (ConstraintGroup × Definition)}
    (h : ∀ v ∈ visits, ∀ c ∈ v.1.constraints, a.carries v.2.id c = true) :
    a.placeAll visits = a := by
  unfold placeAll
  induction visits with
  | nil => rfl
  | cons v rest ih =>
    obtain ⟨hv, hrest⟩ := List.forall_mem_cons.mp h
    rw [List.foldl_cons, v.1.place_eq_self hv, ih hrest]

/-- Attaching again what has been attached changes nothing. -/
theorem placeAll_again (a : Attachments) (visits : List (ConstraintGroup × Definition)) :
    (a.placeAll visits).placeAll visits = a.placeAll visits :=
  placeAll_eq_self fun v hv c hc => carries_placeAll.mpr (.inr ⟨v, hv, rfl, c, hc, rfl⟩)

end Attachments

namespace Composing

/-- The second part of a program runs with the attachments that the first part leaves. -/
theorem run_bind {α β : Type} (m : StateT Attachments (StateM Session) α)
    (k : α → StateT Attachments (StateM Session) β) (a : Attachments) (s : Session) :
    ((m >>= k).run a).run s
      = ((k ((m.run a).run s).1.1).run ((m.run a).run s).1.2).run ((m.run a).run s).2 := rfl

/-- Attaches group after group, each to a definition. A failure does not keep the next one from
being attached. -/
def attachEach : List (ConstraintGroup × Definition) →
    StateT Attachments (StateM Session) (List (Except Error Unit))
  | [] => return []
  | (g, d) :: rest => do
    let first ← (attach g d).run
    let others ← attachEach rest
    return first :: others

/-- The attempts that have succeeded. -/
def succeeded (calls : List (ConstraintGroup × Definition)) (outcomes : List (Except Error Unit)) :
    List (ConstraintGroup × Definition) :=
  ((calls.zip outcomes).filter (·.2.isOk)).map (·.1)

/-- **Attempts leave what those that succeed among them leave.** -/
theorem run_attachEach (calls : List (ConstraintGroup × Definition)) (a : Attachments)
    (s : Session) : ((attachEach calls).run a).run s
      = ((calls.map fun call => call.1.outcome call.2,
          a.placeAll (succeeded calls (calls.map fun call => call.1.outcome call.2))), s) := by
  induction calls generalizing a with
  | nil => rfl
  | cons call rest ih =>
    obtain ⟨g, d⟩ := call
    have hfirst : ((attach g d).run.run a).run s
        = ((g.outcome d, if (g.obstacle? d).isSome then a else g.place d.id a), s) :=
      runIn_attach_eq g d a s
    rw [attachEach, run_bind, hfirst, run_bind, ih]
    simp only [succeeded, List.map_cons, List.zip_cons_cons, List.filter_cons]
    unfold ConstraintGroup.outcome
    cases g.obstacle? d <;> rfl

theorem forall₂_outcome (calls : List (ConstraintGroup × Definition)) :
    List.Forall₂ (fun call r => r.isOk = false ↔ call.1.Unsuited call.2) calls
      (calls.map fun call => call.1.outcome call.2) := by
  rw [List.forall₂_map_right_iff, List.forall₂_same]
  exact fun call _ => call.1.isOk_outcome call.2

/-- What is true of the attachments that attempts have left. -/
structure Leaves (calls : List (ConstraintGroup × Definition)) (outcomes : List (Except Error Unit))
    (a : Attachments) : Prop where
  /-- An attempt has failed if the group is not suited to the definition, and only then. -/
  fails : List.Forall₂ (fun call r => r.isOk = false ↔ call.1.Unsuited call.2) calls outcomes
  /-- A list of a definition has the constraints of its kind in the groups attached to the
  definition, in the order in which they were attached first. -/
  order : ∀ d kind, a.ofKind d kind
    = ((Attachments.comingTo (succeeded calls outcomes) d).filter (·.kind == kind)).eraseDupsBy
        fun c c' => c.identity == c'.identity
  /-- No two constraints of a list are the same. -/
  distinct : ∀ d kind, (a.ofKind d kind).Pairwise fun c c' => c.identity ≠ c'.identity
  /-- Exactly the constraints of the groups attached to the definition are in its lists. -/
  mem : ∀ d kind c, c ∈ a.ofKind d kind ↔
    c.kind = kind ∧ ∃ call ∈ succeeded calls outcomes, call.2.id = d ∧ c ∈ call.1.constraints

theorem mem_succeeded {calls : List (ConstraintGroup × Definition)}
    {outcomes : List (Except Error Unit)} {call : ConstraintGroup × Definition}
    (h : call ∈ succeeded calls outcomes) : call ∈ calls := by
  obtain ⟨⟨call, r⟩, hmem, rfl⟩ := List.mem_map.mp h
  exact (List.of_mem_zip (List.mem_filter.mp hmem).1).1

/-- **Attachment state.** Groups are attached to definitions, any group to any definition, in any
order and again and again. Afterwards each list of each definition has the constraints of its kind
that belong to groups attached to the definition, each of them once and in the order in which they
were attached first. Attaching a group fails exactly if it is not suited to the definition, with one
and the same code, and a failure changes nothing, whatever was attached before. -/
theorem attachEach_leaves (calls : List (ConstraintGroup × Definition)) (s : Session)
    (h : Distinguished Constraint.identity (calls.flatMap (·.1.constraints))) :
    ∃ outcomes a, ((attachEach calls).run .empty).run s = ((outcomes, a), s) ∧
      Leaves calls outcomes a ∧
      ∀ (g : ConstraintGroup) (d : Definition), ∃ r a', (attach g d).runIn a s = ((r, a'), s) ∧
        (r.isOk = false ↔ g.Unsuited d) ∧
        ∀ e, r = .error e → e.code = .misplacedConstraint ∧ a' = a := by
  set outcomes := calls.map fun call => call.1.outcome call.2
  have hlist : ∀ d, ((Attachments.empty.placeAll (succeeded calls outcomes))).ofDefinition d
      = (Attachments.comingTo (succeeded calls outcomes) d).foldl (putNew Constraint.identity) [] :=
    fun d => Attachments.ofDefinition_placeAll .empty _ d
  have hcoming : ∀ d, Distinguished Constraint.identity
      ([] ++ Attachments.comingTo (succeeded calls outcomes) d) := by
    refine fun d => h.of_subset fun c hc => ?_
    obtain ⟨call, hcall, -, hmem⟩ := Attachments.mem_comingTo.mp hc
    exact List.mem_flatMap.mpr ⟨call, mem_succeeded hcall, hmem⟩
  refine ⟨outcomes, _, run_attachEach calls .empty s, ⟨forall₂_outcome calls, fun d kind => ?_,
    fun d kind => ?_, fun d kind c => ?_⟩, fun g d => ?_⟩
  · rw [Attachments.ofKind, hlist, KeyedList.filter_foldl_putNew (hcoming d),
      List.filter_nil, KeyedList.foldl_putNew]
    simp
  · rw [Attachments.ofKind, hlist]
    exact (KeyedList.pairwise_foldl_putNew .nil _).filter _
  · rw [Attachments.ofKind, hlist, List.mem_filter, KeyedList.mem_foldl_putNew (hcoming d),
      Attachments.mem_comingTo, beq_iff_eq, and_comm]
    simp only [List.not_mem_nil, false_or]
  · refine ⟨_, _, runIn_attach_eq g d _ s, g.isOk_outcome d, fun e he => ?_⟩
    have hobstacle := ConstraintGroup.outcome_eq_error_iff.mp he
    refine ⟨ConstraintGroup.code_of_obstacle? hobstacle, ?_⟩
    rw [hobstacle]
    rfl

end Composing

namespace Sample

/-- Only the store can carry this group, which shares a constraint with `itemGroup`. -/
def strictGroup : ConstraintGroup :=
  { target := itemTarget
    constraints := [{ identity := 7, rule := .allowedValues [] true },
      { identity := 8, rule := .unique [] }] }

/-- Both groups for an item, and then the second one for the store, twice. -/
def attempts : List (ConstraintGroup × Definition) :=
  [(itemGroup, .field (itemField 2)), (strictGroup, .field (itemField 2)),
    (strictGroup, .assembly storeRoot), (strictGroup, .assembly storeRoot)]

theorem distinguished_attempts :
    Distinguished Constraint.identity (attempts.flatMap (·.1.constraints)) := by
  intro c hc c' hc' h
  simp only [attempts, itemGroup, strictGroup, List.flatMap_cons, List.flatMap_nil,
    List.cons_append, List.nil_append, List.mem_cons, List.not_mem_nil, or_false] at hc hc'
  rcases hc with rfl | rfl | rfl | rfl | rfl | rfl | rfl <;>
    rcases hc' with rfl | rfl | rfl | rfl | rfl | rfl | rfl <;> first | rfl | cases h

end Sample

open Composing Sample in
/-- The item does not get the second group, and the store gets it once. -/
theorem attachEach_leaves_of_attempts :
    Distinguished Constraint.identity (attempts.flatMap (·.1.constraints)) ∧
    ∃ outcomes a, ((attachEach attempts).run .empty).run {} = ((outcomes, a), {}) ∧
      Leaves attempts outcomes a ∧ outcomes.map (·.isOk) = [true, false, true, true] ∧
      ∀ (g : ConstraintGroup) (d : Definition), ∃ r a', (attach g d).runIn a {} = ((r, a'), {}) ∧
        (r.isOk = false ↔ g.Unsuited d) ∧
        ∀ e, r = .error e → e.code = .misplacedConstraint ∧ a' = a := by
  obtain ⟨outcomes, a, hrun, hleaves, hnext⟩ :=
    attachEach_leaves attempts {} distinguished_attempts
  have houtcomes : ((((attachEach attempts).run .empty).run {}).1.1).map (·.isOk)
      = [true, false, true, true] := by cbv
  rw [hrun] at houtcomes
  exact ⟨distinguished_attempts, outcomes, a, hrun, hleaves, houtcomes, hnext⟩

end TreePath
