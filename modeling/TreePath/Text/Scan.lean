/-
TreePath.Text.Scan — reading text as a list of characters.

Lexical forms are read from `List Char`, so that each reader is a recursion on the data and has
ordinary equations. This module holds the readers that several grammars share: trimming, splitting
at a separator, digits, and signed integers of bounded size.
-/
import TreePath.Text.Unicode.Character

namespace TreePath.Text

open TreePath.Text.Unicode (isWhiteSpace)

/-! ## Ends and pieces -/

def trimStart (s : List Char) : List Char := s.dropWhile isWhiteSpace

def trimEnd (s : List Char) : List Char := (s.reverse.dropWhile isWhiteSpace).reverse

/-- Removes white space from both ends. -/
def trim (s : List Char) : List Char := trimEnd (trimStart s)

/-- The rest of `s` after `start`, if `s` begins with it. -/
def stripStart (start s : List Char) : Option (List Char) :=
  match start, s with
  | [], s => some s
  | _ :: _, [] => none
  | a :: start, b :: s => if a = b then stripStart start s else none

/-- The pieces between the separators; there is one more piece than separators. -/
def splitAtChar (sep : Char) : List Char → List (List Char)
  | [] => [[]]
  | c :: rest =>
    if c = sep then [] :: splitAtChar sep rest
    else match splitAtChar sep rest with
      | piece :: pieces => (c :: piece) :: pieces
      | [] => [[c]]

/-- The texts before and after the first separator. -/
def cutFirst (sep : Char) (s : List Char) : Option (List Char × List Char) :=
  match s with
  | [] => none
  | c :: rest =>
    if c = sep then some ([], rest)
    else (cutFirst sep rest).map fun (before, after) => (c :: before, after)

/-- The texts before and after the last separator. -/
def cutLast (sep : Char) (s : List Char) : Option (List Char × List Char) :=
  (cutFirst sep s.reverse).map fun (after, before) => (before.reverse, after.reverse)

theorem length_of_cutFirst {sep : Char} {s before after : List Char}
    (h : cutFirst sep s = some (before, after)) :
    before.length + after.length + 1 = s.length := by
  induction s generalizing before with
  | nil => simp [cutFirst] at h
  | cons c rest ih =>
    unfold cutFirst at h
    split at h
    · cases h
      simp
    · simp only [Option.map_eq_some_iff, Prod.mk.injEq, Prod.exists] at h
      obtain ⟨b, a, hcut, rfl, rfl⟩ := h
      have := ih hcut
      simp only [List.length_cons]
      omega

theorem length_of_cutLast {sep : Char} {s before after : List Char}
    (h : cutLast sep s = some (before, after)) : after.length < s.length := by
  unfold cutLast at h
  simp only [Option.map_eq_some_iff, Prod.mk.injEq, Prod.exists] at h
  obtain ⟨a, b, hcut, rfl, rfl⟩ := h
  have := length_of_cutFirst hcut
  simp only [List.length_reverse] at this ⊢
  omega

/-- The number of bytes of the text in UTF-8. -/
def utf8Length (s : List Char) : Nat := s.foldr (fun c n => c.utf8Size + n) 0

/-- The leading characters that take exactly `bytes` bytes in UTF-8, and the rest. -/
def takeUtf8 : Nat → List Char → Option (List Char × List Char)
  | 0, s => some ([], s)
  | _ + 1, [] => none
  | bytes + 1, c :: rest =>
    if c.utf8Size ≤ bytes + 1 then
      (takeUtf8 (bytes + 1 - c.utf8Size) rest).map fun (front, back) => (c :: front, back)
    else none
termination_by _ s => s.length

/-! ## Digits and integers -/

def isDigit (c : Char) : Bool := '0' ≤ c && c ≤ '9'

def digitValue (c : Char) : Nat := c.toNat - '0'.toNat

/-- The number written by decimal digits, most significant first. -/
def digitsValue (digits : List Char) : Nat :=
  digits.foldl (fun n c => 10 * n + digitValue c) 0

/-- A nonempty text of decimal digits. -/
def readNat (s : List Char) : Option Nat :=
  if !s.isEmpty && s.all isDigit then some (digitsValue s) else none

/-- An optional sign and at least one decimal digit. -/
def readInt : List Char → Option Int
  | '-' :: s => (readNat s).map fun n => -(n : Int)
  | '+' :: s => (readNat s).map fun n => (n : Int)
  | s => (readNat s).map fun n => (n : Int)

def isHexDigit (c : Char) : Bool :=
  isDigit c || ('a' ≤ c && c ≤ 'f') || ('A' ≤ c && c ≤ 'F')

def hexDigitValue (c : Char) : Nat :=
  if isDigit c then digitValue c
  else if 'a' ≤ c && c ≤ 'f' then c.toNat - 'a'.toNat + 10
  else c.toNat - 'A'.toNat + 10

def hexDigitsValue (digits : List Char) : Nat :=
  digits.foldl (fun n c => 16 * n + hexDigitValue c) 0

/-! ## Writing -/

/-- Decimal digits without leading zeros. -/
def natDigits (n : Nat) : List Char := Nat.toDigits 10 n

/-- A minus sign for negative numbers, then the digits. -/
def intDigits (i : Int) : List Char :=
  if i < 0 then '-' :: natDigits i.natAbs else natDigits i.natAbs

/-- Zeros in front, up to the given width. -/
def padZeros (width : Nat) (s : List Char) : List Char :=
  List.replicate (width - s.length) '0' ++ s

/-- Zeros removed from the end. -/
def trimTrailingZeros (s : List Char) : List Char :=
  (s.reverse.dropWhile (· == '0')).reverse

/-! ## Joining -/

/-- The texts one after another with `separator` between them. -/
def join (separator : List Char) : List (List Char) → List Char
  | [] => []
  | [s] => s
  | s :: rest => s ++ separator ++ join separator rest

/-- The order of texts by code points. -/
def compare (a b : List Char) : Ordering := List.compareLex (fun c d => Ord.compare c d) a b

end TreePath.Text
