/-
TreePath.Regex.Regular.Size — how large the automata of a pattern are.

A pattern is matched by two automata over the bytes of UTF-8, one that reads forwards and one that
reads backwards. A state takes 32 bytes, a transition of a state with several takes 8, and a choice
takes 4 for each way to go on. Patterns with an automaton beyond ten megabytes are refused; the
sizes are computed from the pattern, without building anything.
-/
import TreePath.Regex.Regular.Syntax

namespace TreePath.Regex.Regular

open TreePath.Text (CharRange CharSet)

/-- The sizes of the automata that read forwards and backwards, in bytes. -/
structure Size where
  forward : Nat
  backward : Nat
deriving DecidableEq, Repr

namespace Size

/-- The same for both automata. -/
def both (n : Nat) : Size := ⟨n, n⟩

def add (a b : Size) : Size := ⟨a.forward + b.forward, a.backward + b.backward⟩

/-- Copies of a part. -/
def times (n : Nat) (a : Size) : Size := ⟨n * a.forward, n * a.backward⟩

/-- So many states, transitions and ways to go on. -/
def parts (states transitions ways : Nat) : Size :=
  both (32 * states + 8 * transitions + 4 * ways)

end Size

/-! ## Ranges of bytes -/

/-- The bytes of a code point in UTF-8. -/
def utf8Bytes (n : Nat) : List Nat :=
  if n < 0x80 then [n]
  else if n < 0x800 then [0xC0 + n / 0x40, 0x80 + n % 0x40]
  else if n < 0x10000 then [0xE0 + n / 0x1000, 0x80 + n / 0x40 % 0x40, 0x80 + n % 0x40]
  else [0xF0 + n / 0x40000, 0x80 + n / 0x1000 % 0x40, 0x80 + n / 0x40 % 0x40, 0x80 + n % 0x40]

/-- Where to cut a range so that its first part is closer to having one range in each byte: behind
the given code point. There is nothing to cut if it has that already. -/
def cutPoint? (first last : Nat) : Option Nat :=
  let boundary (n : Nat) : Option Nat := if first ≤ n && n < last then some n else none
  let block (size : Nat) : Option Nat :=
    if first / size = last / size then none
    else if first % size ≠ 0 then some (first / size * size + (size - 1))
    else if last % size ≠ size - 1 then some (last / size * size - 1)
    else none
  (boundary 0x7F).or ((boundary 0x7FF).or ((boundary 0xFFFF).or
    (if last < 0x80 then none
     else (block 0x40).or ((block 0x1000).or (block 0x40000)))))

/-- Cuts, at most `n` times, until one range in each byte is left; gives the end of what is left. -/
def narrow (first : Nat) : (n : Nat) → (last : Nat) → Nat
  | 0, last => last
  | n + 1, last =>
    match cutPoint? first last with
    | some stop => narrow first n stop
    | none => last

/-- The sequences of byte ranges that make up a range of code points, at most `n`. -/
def byteRanges : (n : Nat) → (first last : Nat) → List (List (Nat × Nat))
  | 0, _, _ => []
  | n + 1, first, last =>
    let stop := narrow first 16 last
    let rest := if stop < last then byteRanges n (stop + 1) last else []
    (utf8Bytes first).zip (utf8Bytes stop) :: rest

/-- The part of a range in front of the surrogates, and the part behind them. -/
def withoutSurrogates (r : CharRange) : List (Nat × Nat) :=
  [(r.first, min r.last 0xD7FF), (max r.first 0xE000, r.last)].filter fun (a, b) => a ≤ b

/-- The sequences of byte ranges of a set. -/
def byteSequences (s : CharSet) : List (List (Nat × Nat)) :=
  s.ranges.flatMap fun r => (withoutSurrogates r).flatMap fun (a, b) => byteRanges 64 a b

/-- How many ranges a sequence does not share with the beginning of the one in front. -/
def unshared : List (Nat × Nat) → List (Nat × Nat) → Nat
  | a :: s, b :: t => if a = b then unshared s t else t.length + 1
  | _, t => t.length

/-- The byte ranges of sequences that share their beginnings; `previous` is the sequence in
front. -/
def sharedCount (previous : List (Nat × Nat)) : List (List (Nat × Nat)) → Nat
  | [] => 0
  | s :: rest => unshared previous s + sharedCount s rest

/-- The size of a set. -/
def setSize (s : CharSet) : Size :=
  match s.single? with
  | some c => .parts c.utf8Size 0 0
  | none =>
    if s.ranges.all (·.last < 0x80) then .parts 2 s.ranges.length 0
    else
      let sequences := byteSequences s
      let ranges := sharedCount [] sequences
      let count := sequences.length
      { forward := 32 * (2 + ranges - count) + 8 * ranges
        backward := 32 * (2 + ranges) + 4 * count }

/-! ## Patterns -/

/-- The size of a simplified pattern. The second of two alternatives may have further ones, which
share the ends of the choice. -/
def size : (inChoice : Bool) → Regular → Size
  | _, empty | _, edge _ => .parts 1 0 0
  | _, set s => setSize s
  | _, seq a b => (size false a).add (size false b)
  | inChoice, alt a b =>
    ((size false a).add (size true b)).add (if inChoice then .parts 0 0 1 else .parts 2 0 2)
  | _, group _ r => (size false r).add ⟨64, 0⟩
  | _, «repeat» r least most _ =>
    let one := size false r
    match least, most with
    | 0, some 1 => one.add (.parts 2 0 2)
    | 0, none => one.add (if mayBeEmpty r then .parts 3 0 4 else .parts 1 0 2)
    | least, none => (one.times least).add (.parts 1 0 2)
    | least, some most =>
      let required := if least = 0 then .parts 1 0 0 else one.times least
      if least = most then required
      else (required.add (.parts 1 0 0)).add ((one.add (.parts 1 0 2)).times (most - least))

/-- The greatest size of an automaton. -/
def maxSize : Nat := 10485760

/-- Both automata are small enough, with what reads up to the start of a match, and with what marks
the whole match when reading forwards. -/
def isSmall (r : Regular) : Bool :=
  let total := (r.simplify.size false).add ⟨168, 104⟩
  total.forward ≤ maxSize && total.backward ≤ maxSize

end TreePath.Regex.Regular
