/-
TreePath.Regex.Search — searching by going back.

A thread follows the steps of a program. Where it may go on in two ways, the other way is noted with
all that is kept so far, and taken up when the thread fails. Steps that settle something forget what
was noted since the matching opening; the openings are kept as the notes that were there then.
-/
import TreePath.Regex.Program

namespace TreePath.Regex.Program

open TreePath.Text TreePath.Text.Unicode

/-- A way through the text so far. -/
structure Thread where
  step : Nat
  position : Nat
  slots : List (Option Nat)
  /-- What was noted at the openings that are not settled, latest first. -/
  openings : List (List Thread) := []

namespace Thread

/-- Goes on at a distance from the current step. -/
def jump (t : Thread) (distance : Int) : Thread :=
  { t with step := ((t.step : Int) + distance).toNat }

/-- Goes on behind the current step. -/
def onward (t : Thread) : Thread := { t with step := t.step + 1 }

/-- What is kept in a slot. -/
def slot? (t : Thread) (slot : Nat) : Option Nat := (t.slots[slot]?).join

/-- Keeps something, or nothing any more. -/
def keep (t : Thread) (slot : Nat) (value : Option Nat) : Thread :=
  { t with slots := t.slots.set slot value }

/-- What a group has matched. -/
def group? (t : Thread) (index : Nat) : Option Match := do
  return ⟨← t.slot? (2 * index), ← t.slot? (2 * index + 1)⟩

/-- Keeps what a group has matched. -/
def keepGroup (t : Thread) (index : Nat) (found : Option Match) : Thread :=
  (t.keep (2 * index) (found.map (·.start))).keep (2 * index + 1) (found.map (·.stop))

end Thread

/-! ## Positions -/

/-- The characters on both sides of a position are characters of words. -/
def wordSides (text : Array Char) (position : Nat) : Bool × Bool :=
  (0 < position && (text[position - 1]?).any isWordCharacter,
    (text[position]?).any isWordCharacter)

/-- The place where a search begins. It is no longer the end of the match before if an empty match
was passed over since. -/
structure Origin where
  position : Nat
  passedOver : Bool := false

/-- The position is as the anchor says. -/
def holds (text : Array Char) (origin : Origin) (position : Nat) (a : Anchor) : Bool :=
  let (front, behind) := wordSides text position
  match a with
  | .edge e => e.holds text position
  | .wordBoundary => front != behind
  | .notWordBoundary => front == behind
  | .wordStart => !front && behind
  | .wordEnd => front && !behind
  | .searchStart => position ≤ origin.position && !origin.passedOver

/-! ## Repeated texts -/

/-- The next characters from a position on, at most `n`. -/
def stretch (text : Array Char) (position n : Nat) : List Char :=
  (text.extract position (position + n)).toList

/-- The character that stands for all that differ from it only by case. -/
def fold (c : Char) : Char := Char.ofNat (Shift.apply Table.foldShifts c.toNat)

/-- The text `s` stands in the other one somewhere. -/
def standsIn (s : List Char) : List Char → Bool
  | [] => s.isEmpty
  | c :: rest => s.isPrefixOf (c :: rest) || standsIn s rest

/-- The number of characters in front of `rest` that repeat `s`. Without regard to case they take as
many bytes in UTF-8 as `s`, and beyond ASCII it is enough that `s` stands among them. -/
def repeats (caseless : Bool) (s rest : List Char) : Option Nat :=
  if s.isPrefixOf rest then some s.length
  else if !caseless then none
  else match takeUtf8 (utf8Length s) rest with
    | none => none
    | some (front, _) =>
      let agrees :=
        if front.all (·.toNat < 0x80) then front.map Char.toLower == s.map Char.toLower
        else standsIn (s.map fold) (front.map fold)
      if agrees then some front.length else none

/-! ## Steps -/

/-- What becomes of a thread: it goes on, or one that was noted takes over. -/
inductive Outcome where
  | goOn (t : Thread) (noted : List Thread)
  | goBack (noted : List Thread)

/-- Goes on if the condition holds. -/
def Outcome.ofBool (condition : Bool) (t : Thread) (noted : List Thread) : Outcome :=
  if condition then goOn t noted else goBack noted

/-- Goes on in the first way, and notes the second one. -/
def Outcome.ofFork (first second : Thread) (noted : List Thread) : Outcome :=
  goOn first (second :: noted)

/-- What a step does, other than accepting. -/
def perform (text : Array Char) (origin : Origin) (t : Thread) (noted : List Thread) :
    Step → Outcome
  | .text s =>
    .ofBool (stretch text t.position s.length == s)
      { t.onward with position := t.position + s.length } noted
  | .regular p groups =>
    match p.matchAt? text t.position with
    | some m =>
      let kept := groups.zipIdx.foldl (fun t (index, i) => t.keepGroup index (m.group? (i + 1)))
        t.onward
      .goOn { kept with position := m.position } noted
    | none => .goBack noted
  | .any newline =>
    .ofBool ((text[t.position]?).any fun c => newline || c != '\n')
      { t.onward with position := t.position + 1 } noted
  | .anchor a => .ofBool (holds text origin t.position a) t.onward noted
  | .fork d true => .ofFork t.onward (t.jump d) noted
  | .fork d false => .ofFork (t.jump d) t.onward noted
  | .goto d => .goOn (t.jump d) noted
  | .mark slot => .goOn (t.onward.keep slot (some t.position)) noted
  | .recall slot => .goOn { t.onward with position := (t.slot? slot).getD t.position } noted
  | .reset slot => .goOn (t.onward.keep slot (some 0)) noted
  | .count slot least most d greedy =>
    let n := (t.slot? slot).getD 0
    if most == some n then .goOn (t.jump d) noted
    else
      let t := t.keep slot (some (n + 1))
      if n < least then .goOn t.onward noted
      else if greedy then .ofFork t.onward (t.jump d) noted
      else .ofFork (t.jump d) t.onward noted
  | .progress slot position least d greedy =>
    let n := (t.slot? slot).getD 0
    if 0 < n && t.slot? position == some t.position then .goOn (t.jump d) noted
    else
      let t := t.keep slot (some (n + 1))
      if n < least then .goOn t.onward noted
      else
        let t := t.keep position (some t.position)
        if greedy then .ofFork t.onward (t.jump d) noted
        else .ofFork (t.jump d) t.onward noted
  | .back n => .ofBool (n ≤ t.position) { t.onward with position := t.position - n } noted
  | .refuse => .goBack ((noted.dropWhile (·.step != t.step + 1)).drop 1)
  | .backreference index caseless =>
    match t.group? index with
    | some m =>
      let s := stretch text m.start (m.stop - m.start)
      match repeats caseless s (stretch text t.position (utf8Length s)) with
      | some n => .ofBool (m.start ≤ m.stop) { t.onward with position := t.position + n } noted
      | none => .goBack noted
    | none => .goBack noted
  | .groupMatched index => .ofBool (t.slot? (2 * index)).isSome t.onward noted
  | .open => .goOn { t.onward with openings := noted :: t.openings } noted
  | .settle =>
    match t.openings with
    | before :: openings => .goOn { t.onward with openings } before
    | [] => .goOn t.onward noted
  | .accept => .goBack noted

/-! ## Searches -/

/-- How often a search may go back before it gives up. -/
def maxReturns : Nat := 1000000

/-- How many steps a search may take before it gives up. -/
def maxSteps : Nat := 1000000000

/-- Follows a thread until one is accepted; at most `n` steps, and going back at most `returns`
times. -/
def follow (p : Program) (text : Array Char) (origin : Origin) :
    (n returns : Nat) → Thread → (noted : List Thread) → Option Thread
  | 0, _, _, _ => none
  | n + 1, returns, t, noted =>
    match p.steps[t.step]? with
    | none => none
    | some .accept => some t
    | some step =>
      match perform text origin t noted step with
      | .goOn t noted => follow p text origin n returns t noted
      | .goBack [] => none
      | .goBack (t :: noted) =>
        match returns with
        | 0 => none
        | returns + 1 => follow p text origin n returns t noted

/-- The first match that begins at the origin or behind it. -/
def search? (p : Program) (text : Array Char) (origin : Origin) : Option Thread :=
  p.follow text origin maxSteps maxReturns
    { step := 0, position := origin.position, slots := List.replicate p.slotCount none } []

end TreePath.Regex.Program
