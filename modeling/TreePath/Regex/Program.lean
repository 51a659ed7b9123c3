/-
TreePath.Regex.Program — patterns as steps of a search.

A pattern becomes a list of steps, in which a fork goes on at one of two places. Regular parts
whose ways of matching do not matter later are one step each: at the beginning of a sequence those
of fixed extent, at its end all of them, or again those of fixed extent if what follows the sequence
may send the search back into it.
-/
import TreePath.Regex.Parser
import TreePath.Regex.Regular.Parser
import TreePath.Regex.Regular.Program

namespace TreePath.Regex

/-- A step of a search. Places to go on at are given as distances from the step, and positions and
counts are kept in slots; group `n` has the slots `2 * n` and `2 * n + 1`. -/
inductive Step where
  /-- Exactly these characters. -/
  | text (s : List Char)
  /-- A regular pattern, whose groups are these ones in turn. -/
  | regular (p : Regular.Program) (groups : List Nat)
  | any (newline : Bool)
  | anchor (a : Anchor)
  /-- Goes on behind the step or at the distance; behind the step first if `onward`. -/
  | fork (distance : Int) (onward : Bool)
  | goto (distance : Int)
  /-- Keeps the position. -/
  | mark (slot : Nat)
  /-- Goes back to a position that was kept. -/
  | recall (slot : Nat)
  /-- Starts counting. -/
  | reset (slot : Nat)
  /-- Begins a repetition that is counted; it is left at the distance. -/
  | count (slot least : Nat) (most : Option Nat) (distance : Int) (greedy : Bool)
  /-- Begins a repetition without end; it is left at the distance, at the latest when the position
  is that of the last time. -/
  | progress (slot position least : Nat) (distance : Int) (greedy : Bool)
  /-- So many characters back. -/
  | back (n : Nat)
  /-- What was looked for must not be there: leaves all that began with the fork that leads behind
  this step. -/
  | refuse
  | backreference (index : Nat) (caseless : Bool)
  | groupMatched (index : Nat)
  /-- From here on, ways to go on are noted apart. -/
  | open
  /-- Forgets the ways to go on that were noted since the last opening. -/
  | settle
  | accept

namespace Assembly

/-- Making steps: the number of the next free slot, or failure. -/
abbrev Assemble := StateT Nat Option

/-- A slot of its own. -/
def newSlot : Assemble Nat := modifyGet fun n => (n, n + 1)

/-! ## Regular parts -/

mutual

/-- The text that the pattern stands for, if it is nothing but text. -/
def exactText? : Pattern → Option (List Char)
  | .literal c false => some [c]
  | .seq parts => exactTexts? parts
  | _ => none

def exactTexts? : List Pattern → Option (List Char)
  | [] => some []
  | r :: rest => do return (← exactText? r) ++ (← exactTexts? rest)

end

/-- Regular patterns one after another as one step. -/
def regularStep (flags : Flags) (parts : List Pattern) : Option (List Step) :=
  if parts.isEmpty then some []
  else match exactTexts? parts with
    | some s => some [.text s]
    | none => do
      let r ← Regular.read? flags (Pattern.writtenParts parts)
      return [.regular (← r.program?) (Pattern.groupsOfAll parts)]

/-! ## Ways to put steps together -/

/-- One or the other. -/
def choice : List (List Step) → List Step
  | [] => []
  | [s] => s
  | s :: rest =>
    let others := choice rest
    .fork (s.length + 2) true :: (s ++ .goto (others.length + 1) :: others)

/-- A repetition. One without end is left when it makes no progress, if its inside may be empty. -/
def repetition (s : List Step) (mayBeEmpty : Bool) (least : Nat) (most : Option Nat)
    (greedy : Bool) : Assemble (List Step) := do
  let exit : Int := s.length + 2
  let again : Step := .goto (-(s.length + 1))
  let isEndless := most.isNone || most == some Parser.maxNumber
  if isEndless && mayBeEmpty then
    let slot ← newSlot
    let position ← newSlot
    return .reset slot :: .progress slot position least exit greedy :: (s ++ [again])
  else if isEndless && least == 0 then return .fork exit greedy :: (s ++ [again])
  else if isEndless && least == 1 then return s ++ [.fork (-s.length) (!greedy)]
  else
    let slot ← newSlot
    return .reset slot :: .count slot least most exit greedy :: (s ++ [again])

/-- Steps that look ahead or behind; what is behind has a fixed extent. -/
def looking (ahead : Bool) (e : Extent) (s : List Step) : Assemble (List Step) :=
  if ahead then return s
  else if e.fixed then return .back e.least :: s
  else failure

/-- What was looked for is there, and the search goes on from where it was. -/
def found (s : List Step) : Assemble (List Step) := do
  let slot ← newSlot
  return .mark slot :: (s ++ [.recall slot])

/-- What was looked for is not there. -/
def absent (s : List Step) : List Step := .fork (s.length + 2) true :: (s ++ [.refuse])

/-- One of two ways, as a condition says. -/
def conditional (condition yes no : List Step) : List Step :=
  .open :: .fork (condition.length + yes.length + 3) true ::
    (condition ++ .settle :: (yes ++ .goto (no.length + 1) :: no))

/-! ## Patterns -/

/-- How a part of a pattern becomes steps, once it is known whether its ways of matching matter
later. -/
abbrev Maker := Bool → Assemble (List Step)

/-- A sequence, given its parts and what makes steps of them. -/
def ofParts (flags : Flags) (references : List Nat) (parts : List (Pattern × Maker)) : Maker :=
  fun recalled => do
    let isRegular (p : Pattern × Maker) : Bool := !p.1.isIrregular references
    let isFixed (p : Pattern × Maker) : Bool := p.1.extent.fixed && isRegular p
    let front := parts.takeWhile isFixed
    let rest := (parts.dropWhile isFixed).reverse
    let isLast := if recalled then isFixed else isRegular
    let last := (rest.takeWhile isLast).reverse
    let middle := (rest.dropWhile isLast).reverse
    let first ← regularStep flags (front.map (·.1))
    let steps ← middle.mapM fun p => p.2 true
    return first ++ steps.flatten ++ (← regularStep flags (last.map (·.1)))

/-- A regular pattern is one step, unless the search may be sent back into it. -/
def asOne (flags : Flags) (references : List Nat) (r : Pattern) (make : Maker) : Maker :=
  fun recalled =>
    if !recalled && !r.isIrregular references then regularStep flags [r] else make recalled

/-- What stands behind the position, or must not stand there. -/
def behind (negated : Bool) (p : Pattern × Maker) : Assemble (List Step) := do
  let s ← looking false p.1.extent (← p.2 false)
  if negated then return absent s else found s

mutual

/-- The steps of a pattern; behind the last one the pattern has matched. -/
def ofPattern (flags : Flags) (references : List Nat) : Pattern → Maker
  | .empty => fun recalled => if recalled then return [] else regularStep flags [.empty]
  | .literal c caseless => fun _ => regularStep flags [.literal c caseless]
  | .set s caseless => fun _ => regularStep flags [.set s caseless]
  | .any newline => asOne flags references (.any newline) fun _ => return [.any newline]
  | .anchor a => asOne flags references (.anchor a) fun _ => return [.anchor a]
  | .seq parts =>
    asOne flags references (.seq parts) <|
      ofParts flags references (ofAll flags references parts)
  | .alt options =>
    let makers := ofAll flags references options
    asOne flags references (.alt options) fun recalled => do
      return choice (← makers.mapM fun p => p.2 recalled)
  | .group index r =>
    let make := ofPattern flags references r
    asOne flags references (.group index r) fun recalled => do
      let s ← make recalled
      return .mark (2 * index) :: (s ++ [.mark (2 * index + 1)])
  | .repeat r least most greedy =>
    let make := ofPattern flags references r
    asOne flags references (.repeat r least most greedy) fun recalled => do
      if least == 0 && most == some 1 then
        let s ← make recalled
        return .fork (s.length + 1) greedy :: s
      else
        let s ← make (recalled || r.isIrregular references)
        repetition s (r.extent.least == 0) least most greedy
  | .atomic r =>
    let make := ofPattern flags references r
    fun _ => do
      let s ← make false
      return .open :: (s ++ [.settle])
  | .look true negated r =>
    let make := ofPattern flags references r
    fun _ => do
      let s ← make false
      if negated then return absent s else found s
  | .look false negated r =>
    let make := ofPattern flags references r
    let options := ofOptions flags references r
    fun _ =>
      if r.extent.fixed || options.isEmpty then behind negated (r, make)
      else do
        let steps ← options.mapM (behind negated)
        return if negated then steps.flatten else choice steps
  | .backreference index caseless _ => fun _ => return [.backreference index caseless]
  | .groupMatched index => fun _ => return [.groupMatched index]
  | .conditional condition yes no =>
    let ofCondition := ofPattern flags references condition
    let ofYes := ofPattern flags references yes
    let ofNo := ofPattern flags references no
    fun recalled => do
      let c ← ofCondition recalled
      let y ← ofYes recalled
      return conditional c y (← ofNo recalled)
  | .keepOut => fun _ => return [.mark 0]

/-- Each pattern with what makes steps of it. -/
def ofAll (flags : Flags) (references : List Nat) : List Pattern → List (Pattern × Maker)
  | [] => []
  | r :: rest => (r, ofPattern flags references r) :: ofAll flags references rest

/-- The options of a pattern that is a choice. -/
def ofOptions (flags : Flags) (references : List Nat) : Pattern → List (Pattern × Maker)
  | .alt options => ofAll flags references options
  | _ => []

end

end Assembly

/-! ## Programs -/

/-- A pattern that is ready for searches. -/
structure Program where
  steps : Array Step
  /-- How many slots the steps use. -/
  slotCount : Nat

/-- The pattern begins with the start of the text, so that it matches nowhere but where the search
begins. -/
def Pattern.isAnchored : Pattern → Bool
  | .anchor (.edge .textStart) => true
  | .seq (.anchor (.edge .textStart) :: _) => true
  | _ => false

/-- Steps that try every place to begin, the first one first. -/
def tryPlaces : List Step := [.fork 3 false, .any true, .goto (-2)]

/-- The steps of a pattern with so many groups, which begin and end with the match. If the pattern
holds a group for the match, that group does so. -/
def Program.ofPattern? (flags : Flags) (references : List Nat) (groupCount : Nat) (r : Pattern)
    (hasMatchGroup : Bool) : Option Program := do
  let (inner, slotCount) ← (Assembly.ofPattern flags references r false).run (2 * groupCount + 2)
  let inner := if hasMatchGroup then inner else .mark 0 :: (inner ++ [.mark 1])
  let places := if r.isAnchored then [] else tryPlaces
  return ⟨(places ++ inner ++ [Step.accept]).toArray, slotCount⟩

end TreePath.Regex
