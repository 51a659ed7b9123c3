/-
TreePath.Proofs.Session.Keys — what a session finds under a key.

Keys are compared by their fingerprints: a zoned date-time counts by its instant, a node by its
place, and everything else by itself (`CallKey.same_iff`). So the comparison is an equivalence, and
a session answers for a key as a map does: what has been kept is found under every key that is the
same, and other keys are not affected (`Session.find?_keep`). Keeping never makes two keys the same
(`Session.Tidy.keep`), which makes the number of results the number of different keys. What a call
does to the session is said once for all functions (`Function.runIn_remembering`).
-/
import TreePath.Proofs.Session.Replay

namespace TreePath

/-! ## Fingerprints -/

/-- What an item is compared by as a part of a key. -/
inductive Fingerprint where
  | place (tree : TreeId) (address : List Step)
  | value (v : AtomicValue)
  | instant (t : Instant)
deriving DecidableEq

def AtomicValue.fingerprint : AtomicValue → Fingerprint
  | dateTimeWithTimezone t zone => .instant (t.instant (some zone))
  | v => .value v

theorem AtomicValue.same_iff {v w : AtomicValue} :
    v.same w = true ↔ v.fingerprint = w.fingerprint := by
  unfold same
  split
  · simp [fingerprint]
  · rename_i hnot
    rw [beq_iff_eq]
    refine ⟨congrArg _, fun h => ?_⟩
    unfold fingerprint at h
    split at h <;> split at h
    · exact absurd rfl (hnot _ _ _ _ rfl)
    · cases h
    · cases h
    · exact Fingerprint.value.inj h

theorem AtomicValue.fingerprint_ne_place (v : AtomicValue) (tree : TreeId) (address : List Step) :
    v.fingerprint ≠ .place tree address := by
  unfold fingerprint
  split <;> exact nofun

def Item.fingerprint : Item → Fingerprint
  | .node n => .place n.tree n.address
  | .atomic v => v.fingerprint

theorem Item.same_iff {i j : Item} : i.same j = true ↔ i.fingerprint = j.fingerprint := by
  cases i with
  | node n =>
    cases j with
    | node m => simp [same, fingerprint, Node.same]
    | atomic w => simpa [same, fingerprint] using (w.fingerprint_ne_place n.tree n.address).symm
  | atomic v =>
    cases j with
    | node m => simpa [same, fingerprint] using v.fingerprint_ne_place m.tree m.address
    | atomic w => exact AtomicValue.same_iff

theorem Sequence.same_iff : ∀ {s t : Sequence},
    Sequence.same s t = true ↔ s.map Item.fingerprint = t.map Item.fingerprint
  | [], [] => by simp [same]
  | [], _ :: _ => by simp [same]
  | _ :: _, [] => by simp [same]
  | i :: s, j :: t => by simp [same, Item.same_iff, Sequence.same_iff (s := s) (t := t)]

namespace CallKey

theorem sameArguments_iff : ∀ {a b : List Sequence}, sameArguments a b = true ↔
    a.map (·.map Item.fingerprint) = b.map (·.map Item.fingerprint)
  | [], [] => by simp [sameArguments]
  | [], _ :: _ => by simp [sameArguments]
  | _ :: _, [] => by simp [sameArguments]
  | s :: a, t :: b => by
      simp [sameArguments, Sequence.same_iff, sameArguments_iff (a := a) (b := b)]

theorem sameFocus_iff {a b : Option Item} :
    sameFocus a b = true ↔ a.map Item.fingerprint = b.map Item.fingerprint := by
  cases a <;> cases b <;> simp [sameFocus, Item.same_iff]

/-- What a key is compared by. -/
structure Fingerprint where
  function : FunctionId
  arguments : List (List TreePath.Fingerprint)
  focus : Option TreePath.Fingerprint
deriving DecidableEq

def fingerprint (key : CallKey) : Fingerprint :=
  ⟨key.function, key.arguments.map (·.map Item.fingerprint), key.focus.map Item.fingerprint⟩

/-- **Keys are the same if they have one fingerprint.** -/
theorem same_iff {a b : CallKey} : a.same b = true ↔ a.fingerprint = b.fingerprint := by
  simp [same, fingerprint, sameArguments_iff, sameFocus_iff, and_assoc]

theorem same_eq_decide (a b : CallKey) : a.same b = decide (a.fingerprint = b.fingerprint) := by
  rw [Bool.eq_iff_iff, same_iff, decide_eq_true_iff]

end CallKey

/-! ## Results under keys -/

namespace Session

theorem lookup_insertKept (key : CallKey) (r : Sequence) (key' : CallKey) :
    ∀ kept : List (CallKey × Sequence),
      ((insertKept key r kept).find? fun e => e.1.same key').map (·.2)
        = if key.same key' then some r else (kept.find? fun e => e.1.same key').map (·.2)
  | [] => by
      rw [insertKept, List.find?_cons, List.find?_nil]
      cases key.same key' <;> rfl
  | (k, r') :: rest => by
      have ih := lookup_insertKept key r key' rest
      simp only [CallKey.same_eq_decide] at ih ⊢
      rw [insertKept, CallKey.same_eq_decide]
      by_cases hk : k.fingerprint = key.fingerprint
      · -- the result takes the place of the earlier one
        by_cases hkey : key.fingerprint = key'.fingerprint <;> simp [hk, hkey]
      · by_cases hk' : k.fingerprint = key'.fingerprint
        · have hkey : key.fingerprint ≠ key'.fingerprint := fun h => hk (hk'.trans h.symm)
          rw [if_neg (by simpa using hk), List.find?_cons, List.find?_cons]
          simp [hk', hkey]
        · simpa [hk, hk', List.find?_cons] using ih

/-- **Keeping a result is an update of a map.** -/
theorem find?_keep (s : Session) (key : CallKey) (r : Sequence) (key' : CallKey) :
    (s.keep key r).find? key' = if key.same key' then some r else s.find? key' :=
  lookup_insertKept key r key' s.kept

theorem find?_keep_self (s : Session) (key : CallKey) (r : Sequence) :
    (s.keep key r).find? key = some r := by
  rw [find?_keep, if_pos (CallKey.same_iff.mpr rfl)]

theorem isSome_find?_iff {s : Session} {key : CallKey} :
    (s.find? key).isSome ↔ ∃ e ∈ s.kept, e.1.fingerprint = key.fingerprint := by
  simp only [find?, Option.isSome_map, List.find?_isSome, CallKey.same_iff]

/-- Keys that are the same find the same. -/
theorem find?_congr (s : Session) {key key' : CallKey} (h : key.fingerprint = key'.fingerprint) :
    s.find? key = s.find? key' := by
  simp only [find?, CallKey.same_eq_decide, h]

/-! ## Different keys -/

/-- The fingerprints of the keys, oldest first. -/
def fingerprints (s : Session) : List CallKey.Fingerprint := s.kept.map (·.1.fingerprint)

@[simp] theorem length_fingerprints (s : Session) : s.fingerprints.length = s.kept.length :=
  List.length_map _

theorem map_insertKept (key : CallKey) (r : Sequence) :
    ∀ kept : List (CallKey × Sequence), (insertKept key r kept).map (·.1.fingerprint)
      = if key.fingerprint ∈ kept.map (·.1.fingerprint) then kept.map (·.1.fingerprint)
        else kept.map (·.1.fingerprint) ++ [key.fingerprint]
  | [] => by simp [insertKept]
  | (k, r') :: rest => by
      rw [insertKept, CallKey.same_eq_decide]
      by_cases hk : k.fingerprint = key.fingerprint
      · simp [hk]
      · have hk' : key.fingerprint ≠ k.fingerprint := Ne.symm hk
        simp only [hk, decide_false, Bool.false_eq_true, if_false, List.map_cons,
          map_insertKept key r rest, List.mem_cons, hk', false_or]
        split <;> rfl

/-- A key that is not there yet comes last. -/
theorem fingerprints_keep (s : Session) (key : CallKey) (r : Sequence) :
    (s.keep key r).fingerprints
      = if key.fingerprint ∈ s.fingerprints then s.fingerprints
        else s.fingerprints ++ [key.fingerprint] :=
  map_insertKept key r s.kept

theorem isSome_find?_iff_mem {s : Session} {key : CallKey} :
    (s.find? key).isSome ↔ key.fingerprint ∈ s.fingerprints := by
  rw [isSome_find?_iff, fingerprints, List.mem_map]

/-- No two keys are the same. -/
def Tidy (s : Session) : Prop := s.fingerprints.Nodup

theorem Tidy.keep {s : Session} (h : s.Tidy) (key : CallKey) (r : Sequence) :
    (s.keep key r).Tidy := by
  rw [Tidy, fingerprints_keep]
  split
  · exact h
  · rename_i hnew
    exact List.nodup_append.mpr ⟨h, List.pairwise_singleton _ _, fun x hx y hy hxy => by
      rw [List.mem_singleton.mp hy] at hxy
      exact hnew (hxy ▸ hx)⟩

/-! ## Sessions that find more -/

/-- Whatever the other session finds, this one finds as well. -/
def Remembers (t s : Session) : Prop := ∀ key r, s.find? key = some r → t.find? key = some r

theorem Remembers.refl (s : Session) : s.Remembers s := fun _ _ h => h

theorem Remembers.trans {s t u : Session} (h : u.Remembers t) (h' : t.Remembers s) :
    u.Remembers s := fun key r hr => h key r (h' key r hr)

/-- Only what is kept counts. -/
theorem Remembers.of_kept_eq {s t t' : Session} (h : t.Remembers s) (hkept : t'.kept = t.kept) :
    t'.Remembers s := by
  intro key r hr
  have ht := h key r hr
  unfold find? at ht ⊢
  rw [hkept]
  exact ht

/-- A result kept for a new key hides no other. -/
theorem Remembers.keep {s t : Session} (h : t.Remembers s) {key : CallKey}
    (hnew : s.find? key = none) (r : Sequence) : (t.keep key r).Remembers s := by
  intro key' r' hr
  rw [find?_keep]
  split
  · rename_i hsame
    rw [← find?_congr s (CallKey.same_iff.mp hsame), hnew] at hr
    cases hr
  · exact h key' r' hr

end Session

/-! ## One call -/

namespace Function

open Eval

/-- The key that the result of a call is kept under, if it is kept. -/
def cacheKey? (ctx : Context) (f : Function) (args : List Sequence) (focus : Option Focus) :
    Option CallKey :=
  if ctx.caching then f.callKey? args focus else none

variable {ctx : Context} {callee : Function → List Sequence → Eval Sequence} {f : Function}
  {args : List Sequence} {focus : Option Focus} {s : Session}

theorem runIn_kept? : (kept? ctx (f.callKey? args focus)).runIn s
    = (.ok ((f.cacheKey? ctx args focus).bind s.find?), s) := by
  unfold cacheKey?
  cases hcaching : ctx.caching with
  | true => exact runIn_kept?_cached hcaching _ s
  | false => exact runIn_kept?_uncached hcaching _ s

theorem runIn_keep (r : Sequence) : (keep ctx (f.callKey? args focus) r).runIn s
    = (.ok ⟨⟩, (f.cacheKey? ctx args focus).elim s fun key => s.keep key r) := by
  unfold cacheKey?
  cases hcaching : ctx.caching with
  | true => exact runIn_keep_cached hcaching _ r s
  | false => exact runIn_keep_uncached hcaching _ r s

/-- Gives the result that is found under the key, or else that of an evaluation, and keeps it. -/
def remembering (ctx : Context) (key : Option CallKey) (m : Eval Sequence) : Eval Sequence := do
  match ← kept? ctx key with
  | some result => return result
  | none =>
    let result ← m
    keep ctx key result
    return result

theorem afterConversion_eq : afterConversion ctx callee f focus args
    = remembering ctx (f.callKey? args focus) (f.passing (invoke ctx callee f args focus)) := rfl

/-- **What a call does once its arguments have been converted.** A result that is found is given and
nothing else happens; otherwise the handler runs, and its result is kept unless something fails. -/
theorem runIn_remembering (m : Eval Sequence) :
    (remembering ctx (f.callKey? args focus) m).runIn s
      = match (f.cacheKey? ctx args focus).bind s.find? with
        | some r => (.ok r, s)
        | none =>
          match m.runIn s with
          | (.ok r, s₁) => (.ok r, (f.cacheKey? ctx args focus).elim s₁ fun key => s₁.keep key r)
          | (.error e, s₁) => (.error e, s₁) := by
  unfold remembering
  rw [runIn_bind_ok runIn_kept?]
  cases (f.cacheKey? ctx args focus).bind s.find? with
  | some r => rfl
  | none =>
    simp only
    rw [runIn_bind]
    rcases m.runIn s with ⟨r, s₁⟩
    cases r with
    | error e => rfl
    | ok r => exact runIn_bind_ok (runIn_keep r)

end Function

end TreePath
