/-
TreePath.Text.Unicode.Character — the character classes and case mappings that lexical forms,
patterns and string functions refer to.

Every class is a predicate on `Char` read off the tables; the classes that the Unicode standard
derives from general categories are derived here in the same way.
-/
import TreePath.Text.Unicode.CaseTables
import TreePath.Text.Unicode.Letters
import TreePath.Text.Unicode.Marks
import TreePath.Text.Unicode.Properties
import TreePath.Text.Unicode.Symbols

namespace TreePath.Text.Unicode

/-! ## Classes -/

def isWhiteSpace (c : Char) : Bool := Run.anyContains Table.whiteSpace c.toNat

/-- Letters, letter numbers and the other characters that the standard calls alphabetic. -/
def isAlphabetic (c : Char) : Bool :=
  [Table.uppercaseLetter, Table.lowercaseLetter, Table.otherLetter, Table.titlecaseLetter,
    Table.modifierLetter, Table.letterNumber, Table.otherAlphabetic].any
      (Run.anyContains · c.toNat)

/-- Characters of the three number categories. -/
def isNumeric (c : Char) : Bool :=
  [Table.decimalNumber, Table.letterNumber, Table.otherNumber].any (Run.anyContains · c.toNat)

def isAlphanumeric (c : Char) : Bool := isAlphabetic c || isNumeric c

def isLowercase (c : Char) : Bool :=
  [Table.lowercaseLetter, Table.otherLowercase].any (Run.anyContains · c.toNat)

def isUppercase (c : Char) : Bool :=
  [Table.uppercaseLetter, Table.otherUppercase].any (Run.anyContains · c.toNat)

/-- Characters that take part in case distinctions. -/
def isCased (c : Char) : Bool :=
  isLowercase c || isUppercase c || Run.anyContains Table.titlecaseLetter c.toNat

/-- Characters that are skipped when the neighbourhood of a letter is inspected for case. -/
def isCaseIgnorable (c : Char) : Bool :=
  [Table.nonspacingMark, Table.enclosingMark, Table.format, Table.modifierLetter,
    Table.modifierSymbol, Table.otherCaseIgnorable].any (Run.anyContains · c.toNat)

/-- Combining marks of any kind. -/
def isMark (c : Char) : Bool :=
  [Table.nonspacingMark, Table.spacingMark, Table.enclosingMark].any (Run.anyContains · c.toNat)

/-! ## Case mappings -/

/-- The characters a mapping table pair gives for one character: an expansion if there is one, else
the shifted character. -/
def mapped (expansions : List (Nat × List Nat)) (shifts : List Shift) (c : Char) :
    List Char :=
  match expansions.lookup c.toNat with
  | some images => images.map Char.ofNat
  | none => [Char.ofNat (Shift.apply shifts c.toNat)]

/-- The uppercase form of a character, of one to three characters. -/
def upper (c : Char) : List Char := mapped Table.upperExpansions Table.upperShifts c

/-- The lowercase form of a character outside any context. -/
def lower (c : Char) : List Char := mapped Table.lowerExpansions Table.lowerShifts c

/-- Character by character. -/
def toUpper (s : List Char) : List Char := s.flatMap upper

/-- A cased character follows, possibly after case-ignorable ones. -/
def reachesCased (s : List Char) : Bool :=
  match s.dropWhile isCaseIgnorable with
  | c :: _ => isCased c
  | [] => false

/-- Lowercases `s`, where `before` holds the characters in front of it in reverse. A capital sigma
that ends a word becomes the final form of the letter. -/
def lowerAfter (before : List Char) : List Char → List Char
  | [] => []
  | c :: rest =>
    let image :=
      if c == 'Σ' then
        if reachesCased before && !reachesCased rest then ['ς'] else ['σ']
      else lower c
    image ++ lowerAfter (c :: before) rest

/-- Character by character, except that a capital sigma at the end of a word becomes `ς`. -/
def toLower (s : List Char) : List Char := lowerAfter [] s

end TreePath.Text.Unicode
