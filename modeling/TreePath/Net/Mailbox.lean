/-
TreePath.Net.Mailbox — the grammars of host names, email addresses and tokens.

Letters and digits are those of Unicode; lengths are counted in bytes of UTF-8.
-/
import TreePath.Text.Scan

namespace TreePath.Net

open TreePath.Text TreePath.Text.Unicode

/-- A label of a host name: 1 to 63 letters, digits and inner hyphens. -/
def isLabel (s : List Char) : Bool :=
  1 ≤ utf8Length s && utf8Length s ≤ 63 && s.head? != some '-' && s.getLast? != some '-'
    && s.all fun c => isAlphanumeric c || c == '-'

/-- A host name: labels separated by points, at most 253 long. -/
def isHostname (s : List Char) : Bool :=
  utf8Length s ≤ 253 && (splitAtChar '.' s).all isLabel

/-- A character that may stand in the local part of an email address, the point apart. -/
def isAtomCharacter (c : Char) : Bool :=
  isAlphanumeric c || "!#$%&'*+/=?^_\x60\x7b|\x7d~-".toList.contains c

/-- The local part of an email address: atoms separated by points, at most 64 long. -/
def isLocalPart (s : List Char) : Bool :=
  !s.isEmpty && utf8Length s ≤ 64
    && (splitAtChar '.' s).all fun atom => !atom.isEmpty && atom.all isAtomCharacter

/-- An email address: a local part, `@`, and a host name. -/
def isEmailAddress (s : List Char) : Bool :=
  match cutLast '@' s with
  | some (localPart, domain) => isLocalPart localPart && isHostname domain
  | none => false

/-- A token: an alphabetic character or underscore, then letters, digits, `.`, `-` and `_`. -/
def isToken : List Char → Bool
  | [] => false
  | c :: rest =>
    (isAlphabetic c || c == '_')
      && rest.all fun d => isAlphanumeric d || d == '.' || d == '-' || d == '_'

end TreePath.Net
