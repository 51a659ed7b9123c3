/-
TreePath.Binary.Base64 — bytes as text in the standard alphabet.

Every three bytes are written as four characters of six bits; one or two bytes left over are written
as two or three characters and padding. Reading accepts exactly what writing produces: full padding,
and no set bits that no byte uses.
-/
import TreePath.Text.Scan

namespace TreePath.Base64

open TreePath.Text

/-- The character of six bits. -/
def encodeDigit (n : Nat) : Char :=
  if n < 26 then Char.ofNat ('A'.toNat + n)
  else if n < 52 then Char.ofNat ('a'.toNat + (n - 26))
  else if n < 62 then Char.ofNat ('0'.toNat + (n - 52))
  else if n = 62 then '+'
  else '/'

/-- The six bits of a character. -/
def decodeDigit (c : Char) : Option Nat :=
  if 'A' ≤ c && c ≤ 'Z' then some (c.toNat - 'A'.toNat)
  else if 'a' ≤ c && c ≤ 'z' then some (c.toNat - 'a'.toNat + 26)
  else if isDigit c then some (digitValue c + 52)
  else if c = '+' then some 62
  else if c = '/' then some 63
  else none

def encode : List UInt8 → List Char
  | a :: b :: c :: rest =>
    let n := a.toNat * 65536 + b.toNat * 256 + c.toNat
    encodeDigit (n / 262144) :: encodeDigit (n / 4096 % 64) :: encodeDigit (n / 64 % 64) ::
      encodeDigit (n % 64) :: encode rest
  | [a, b] =>
    let n := a.toNat * 256 + b.toNat
    [encodeDigit (n / 1024), encodeDigit (n / 16 % 64), encodeDigit (n % 16 * 4), '=']
  | [a] => [encodeDigit (a.toNat / 4), encodeDigit (a.toNat % 4 * 16), '=', '=']
  | [] => []

def decode : List Char → Option (List UInt8)
  | [] => some []
  | [w, x, '=', '='] => do
    let w ← decodeDigit w
    let x ← decodeDigit x
    if x % 16 = 0 then some [(w * 4 + x / 16).toUInt8] else none
  | [w, x, y, '='] => do
    let w ← decodeDigit w
    let x ← decodeDigit x
    let y ← decodeDigit y
    let n := w * 1024 + x * 16 + y / 4
    if y % 4 = 0 then some [(n / 256).toUInt8, (n % 256).toUInt8] else none
  | w :: x :: y :: z :: rest => do
    let w ← decodeDigit w
    let x ← decodeDigit x
    let y ← decodeDigit y
    let z ← decodeDigit z
    let n := w * 262144 + x * 4096 + y * 64 + z
    let tail ← decode rest
    some ((n / 65536).toUInt8 :: (n / 256 % 256).toUInt8 :: (n % 256).toUInt8 :: tail)
  | _ => none

end TreePath.Base64
