/-
TreePath.Net.Address — IP addresses and their written forms.

A version 4 address is four numbers below 256 without leading zeros. A version 6 address is eight
groups of up to four hexadecimal digits, where one `::` stands for one or more groups of zeros and
the last two groups may be written as a version 4 address. Writing shortens the first longest run of
at least two zero groups.
-/
import TreePath.Text.Scan

namespace TreePath

open TreePath.Text

/-! ## Version 4 -/

/-- Four octets. -/
structure IPv4 where
  a : UInt8
  b : UInt8
  c : UInt8
  d : UInt8
deriving DecidableEq

namespace IPv4

def octets (x : IPv4) : List UInt8 := [x.a, x.b, x.c, x.d]

def writeOctet (o : UInt8) : List Char := natDigits o.toNat

def write (x : IPv4) : List Char := join ['.'] (x.octets.map writeOctet)

/-- One to three digits, no leading zero, below 256; and the rest. -/
def readOctet (s : List Char) : Option (UInt8 × List Char) :=
  let digits := s.takeWhile isDigit
  let n := digitsValue digits
  if digits.isEmpty || 3 < digits.length || (1 < digits.length && digits.head? == some '0')
      || 255 < n then none
  else some (n.toUInt8, s.dropWhile isDigit)

/-- The octets after the first: each follows a point. -/
def readPointOctet : List Char → Option (UInt8 × List Char)
  | '.' :: s => readOctet s
  | _ => none

/-- Reads an address at the start of a text. -/
def readStart (s : List Char) : Option (IPv4 × List Char) := do
  let (a, s) ← readOctet s
  let (b, s) ← readPointOctet s
  let (c, s) ← readPointOctet s
  let (d, s) ← readPointOctet s
  some (⟨a, b, c, d⟩, s)

def read? (s : List Char) : Option IPv4 :=
  match readStart s with
  | some (x, []) => some x
  | _ => none

/-- Addresses are ordered by their octets. -/
def compare (x y : IPv4) : Ordering :=
  List.compareLex (fun a b => Ord.compare a b) x.octets y.octets

end IPv4

/-! ## Version 6 -/

/-- Eight groups of 16 bits. -/
structure IPv6 where
  groups : List UInt16
  length_groups : groups.length = 8
deriving DecidableEq

namespace IPv6

/-- The address with these groups, if there are eight. -/
def ofGroups? (groups : List UInt16) : Option IPv6 :=
  if h : groups.length = 8 then some ⟨groups, h⟩ else none

/-- One to four hexadecimal digits, and the rest. -/
def readGroup (s : List Char) : Option (UInt16 × List Char) :=
  let digits := s.takeWhile isHexDigit
  if digits.isEmpty || 4 < digits.length then none
  else some ((hexDigitsValue digits).toUInt16, s.dropWhile isHexDigit)

/-- The separator in front of every group but the first. -/
def afterColon (first : Bool) (s : List Char) : Option (List Char) :=
  if first then some s
  else match s with
    | ':' :: rest => some rest
    | _ => none

/-- Reads up to `room` groups separated by colons. A version 4 address counts as two and ends them;
the Boolean says whether there was one. -/
def readGroups : (room : Nat) → (first : Bool) → List Char → List UInt16 × Bool × List Char
  | 0, _, s => ([], false, s)
  | room + 1, first, s =>
    match afterColon first s with
    | none => ([], false, s)
    | some body =>
      match if 0 < room then IPv4.readStart body else none with
      | some (x, rest) =>
        ([x.a.toUInt16 * 256 + x.b.toUInt16, x.c.toUInt16 * 256 + x.d.toUInt16], true, rest)
      | none =>
        match readGroup body with
        | none => ([], false, s)
        | some (g, rest) =>
          let (groups, mixed, rest) := readGroups room false rest
          (g :: groups, mixed, rest)

/-- Reads a whole text as an address. -/
def read? (s : List Char) : Option IPv6 :=
  let (front, mixed, rest) := readGroups 8 true s
  if front.length = 8 then
    if rest.isEmpty then ofGroups? front else none
  else if mixed then none
  else match rest with
    | ':' :: ':' :: rest =>
      let (back, _, rest) := readGroups (7 - front.length) true rest
      if rest.isEmpty then
        ofGroups? (front ++ List.replicate (8 - front.length - back.length) 0 ++ back)
      else none
    | _ => none

/-- Hexadecimal digits without leading zeros. -/
def writeGroup (g : UInt16) : List Char := Nat.toDigits 16 g.toNat

def writeGroups (gs : List UInt16) : List Char := join [':'] (gs.map writeGroup)

/-- The length of the run of zeros that starts a list. -/
def leadingZeros (gs : List UInt16) : Nat := (gs.takeWhile (· == 0)).length

/-- The start and the length of the first longest run of zeros, from index `i` on. -/
def longestZeros (i : Nat) : List UInt16 → Nat × Nat
  | [] => (i, 0)
  | g :: gs =>
    let here := leadingZeros (g :: gs)
    let later := longestZeros (i + 1) gs
    if later.2 ≤ here then (i, here) else later

/-- The version 4 address inside an address of the form `::ffff:a.b.c.d`. -/
def mapped? (x : IPv6) : Option IPv4 :=
  match x.groups with
  | [0, 0, 0, 0, 0, 0xFFFF, g, h] =>
    some ⟨(g / 256).toUInt8, (g % 256).toUInt8, (h / 256).toUInt8, (h % 256).toUInt8⟩
  | _ => none

/-- The written form. -/
def write (x : IPv6) : List Char :=
  match x.mapped? with
  | some y => "::ffff:".toList ++ y.write
  | none =>
    let (start, count) := longestZeros 0 x.groups
    if 1 < count then
      writeGroups (x.groups.take start) ++ "::".toList ++
        writeGroups (x.groups.drop (start + count))
    else writeGroups x.groups

/-- Addresses are ordered by their groups. -/
def compare (x y : IPv6) : Ordering :=
  List.compareLex (fun a b => Ord.compare a b) x.groups y.groups

end IPv6

end TreePath
