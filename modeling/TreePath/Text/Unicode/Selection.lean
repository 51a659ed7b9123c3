/-
TreePath.Text.Unicode.Selection — sets of characters put together from tables.

Most properties follow from other ones: a property holds for the characters of some tables, less
those of others. A selection says so, and is a set or a test of one character as needed. The tables
of general categories and of case mappings hold the newest version of the character database;
patterns go by the version before it, so the selections here leave out what is new.
-/
import TreePath.Text.CharSet
import TreePath.Text.Unicode.Ages
import TreePath.Text.Unicode.Breaks
import TreePath.Text.Unicode.Character
import TreePath.Text.Unicode.Emoji
import TreePath.Text.Unicode.Identifiers
import TreePath.Text.Unicode.Markers
import TreePath.Text.Unicode.Punctuators
import TreePath.Text.Unicode.Scripts

namespace TreePath.Text.Unicode

/-- A set of characters in terms of tables. -/
inductive Selection where
  | table (runs : List Run)
  | union (a b : Selection)
  | without (a b : Selection)

namespace Selection

instance : Union Selection := ⟨.union⟩

instance : SDiff Selection := ⟨.without⟩

/-- The code point is selected. -/
def contains : Selection → Nat → Bool
  | table runs, n => Run.anyContains runs n
  | union a b, n => a.contains n || b.contains n
  | without a b, n => a.contains n && !b.contains n

def toSet : Selection → CharSet
  | table runs => CharSet.ofTable runs
  | union a b => a.toSet.union b.toSet
  | without a b => a.toSet.difference b.toSet

/-- Single code points. -/
def codes (ns : List Nat) : Selection := table (ns.map fun n => ⟨n, n, 1⟩)

/-- The code points from `first` to `last`. -/
def interval (first last : Nat) : Selection := table [⟨first, last, 1⟩]

/-- Everything. -/
def all : Selection := interval 0 CharSet.maxCode

/-- Everything in one of the tables. -/
def tables : List (List Run) → Selection
  | [] => table []
  | [t] => table t
  | t :: rest => table t ∪ tables rest

/-- What is new in the newest version. -/
def newest : Selection := table Table.age17_0

/-- What the version before the newest holds of a selection. -/
def settled (s : Selection) : Selection := s \ newest

/-! ## General categories -/

/-- The glottal letter U+0295, which the newest version no longer counts among the lowercase
letters. -/
def glottalLetter : Selection := codes [0x295]

def uppercaseLetter : Selection := settled (table Table.uppercaseLetter)

def lowercaseLetter : Selection := settled (table Table.lowercaseLetter ∪ glottalLetter)

def titlecaseLetter : Selection := table Table.titlecaseLetter

def modifierLetter : Selection := settled (table Table.modifierLetter)

def otherLetter : Selection := settled (table Table.otherLetter \ glottalLetter)

def casedLetter : Selection := uppercaseLetter ∪ (lowercaseLetter ∪ titlecaseLetter)

def letter : Selection :=
  settled (tables [Table.uppercaseLetter, Table.lowercaseLetter, Table.titlecaseLetter,
    Table.modifierLetter, Table.otherLetter])

def nonspacingMark : Selection := settled (table Table.nonspacingMark)

def spacingMark : Selection := settled (table Table.spacingMark)

def enclosingMark : Selection := settled (table Table.enclosingMark)

def mark : Selection :=
  settled (tables [Table.nonspacingMark, Table.spacingMark, Table.enclosingMark])

def decimalNumber : Selection := settled (table Table.decimalNumber)

def letterNumber : Selection := settled (table Table.letterNumber)

def otherNumber : Selection := settled (table Table.otherNumber)

def number : Selection :=
  settled (tables [Table.decimalNumber, Table.letterNumber, Table.otherNumber])

def connectorPunctuation : Selection := settled (table Table.connectorPunctuation)

def dashPunctuation : Selection := settled (table Table.dashPunctuation)

def openPunctuation : Selection := settled (table Table.openPunctuation)

def closePunctuation : Selection := settled (table Table.closePunctuation)

def initialPunctuation : Selection := settled (table Table.initialPunctuation)

def finalPunctuation : Selection := settled (table Table.finalPunctuation)

def otherPunctuation : Selection := settled (table Table.otherPunctuation)

def punctuation : Selection :=
  settled (tables [Table.connectorPunctuation, Table.dashPunctuation, Table.openPunctuation,
    Table.closePunctuation, Table.initialPunctuation, Table.finalPunctuation,
    Table.otherPunctuation])

def mathSymbol : Selection := settled (table Table.mathSymbol)

def currencySymbol : Selection := settled (table Table.currencySymbol)

def modifierSymbol : Selection := settled (table Table.modifierSymbol)

def otherSymbol : Selection := settled (table Table.otherSymbol)

def symbol : Selection :=
  settled (tables [Table.mathSymbol, Table.currencySymbol, Table.modifierSymbol,
    Table.otherSymbol])

def separator : Selection :=
  tables [Table.spaceSeparator, Table.lineSeparator, Table.paragraphSeparator]

def control : Selection := table Table.control

def format : Selection := settled (table Table.format)

def privateUse : Selection := table Table.privateUse

/-- Characters that have a general category of their own. -/
def assigned : Selection :=
  letter ∪ (mark ∪ (number ∪ (punctuation ∪ (symbol ∪
    (separator ∪ (control ∪ (format ∪ privateUse)))))))

def unassigned : Selection := all \ assigned

/-! ## Letters and words -/

def alphabetic : Selection :=
  letter ∪ settled (tables [Table.letterNumber, Table.otherAlphabetic])

def lowercase : Selection := lowercaseLetter ∪ settled (table Table.otherLowercase)

def uppercase : Selection := uppercaseLetter ∪ settled (table Table.otherUppercase)

/-- Characters that take part in case distinctions. -/
def cased : Selection := uppercase ∪ (lowercase ∪ titlecaseLetter)

/-- Characters that are skipped when the neighbourhood of a letter is inspected for case. -/
def caseIgnorable : Selection :=
  settled (tables [Table.nonspacingMark, Table.enclosingMark, Table.format, Table.modifierLetter,
    Table.modifierSymbol, Table.otherCaseIgnorable])

/-- Characters that stand between words. -/
def whiteSpace : Selection := table Table.whiteSpace

/-- Characters of words: alphabetic characters, marks, decimal digits, connecting punctuation and
the two join controls. -/
def wordCharacter : Selection :=
  alphabetic ∪ (mark ∪ (decimalNumber ∪ (connectorPunctuation ∪ table Table.joinControl)))

/-! ## Case mappings -/

/-- What lowercasing changes. -/
def changesLowercased : Selection :=
  settled (table (Table.lowerShifts.map (·.run)) ∪ codes (Table.lowerExpansions.map (·.1)))

/-- What uppercasing changes. Two letters have got their uppercase forms in the newest version
only. -/
def changesUppercased : Selection :=
  settled (table (Table.upperShifts.map (·.run)) ∪ codes (Table.upperExpansions.map (·.1))) \
    codes [0xA7D3, 0xA7D5]

/-- What titlecasing changes. -/
def changesTitlecased : Selection :=
  (changesUppercased \ table Table.uppercaseOnly) ∪ table Table.titlecaseOnly

/-- What full case folding changes. -/
def changesFolded : Selection :=
  (table (Table.foldShifts.map (·.run)) \ table Table.simpleFoldOnly) ∪ table Table.fullFoldOnly

/-! ## Identifiers and graphemes -/

/-- What patterns keep for their own syntax. -/
def patternReserved : Selection := tables [Table.patternSyntax, Table.patternWhiteSpace]

def idStart : Selection :=
  (letter ∪ (letterNumber ∪ table Table.otherIdStart)) \ patternReserved

def idContinue : Selection :=
  (idStart ∪ (nonspacingMark ∪ (spacingMark ∪ (decimalNumber ∪ (connectorPunctuation ∪
    table Table.otherIdContinue))))) \ patternReserved

/-- What continues a grapheme. -/
def graphemeExtend : Selection :=
  nonspacingMark ∪ (enclosingMark ∪ table Table.otherGraphemeExtend)

/-- What a grapheme may begin with. -/
def graphemeBase : Selection :=
  (letter ∪ (mark ∪ (number ∪ (punctuation ∪ (symbol ∪ table Table.spaceSeparator))))) \
    graphemeExtend

/-! ## Segments of text -/

def hangulPair : Selection := table [⟨0xAC00, 0xD788, 28⟩]

def hangulTriple : Selection := interval 0xAC00 0xD7A3 \ hangulPair

def graphemeControl : Selection :=
  (control ∪ (format ∪ tables [Table.lineSeparator, Table.paragraphSeparator,
    Table.otherGraphemeControl])) \ table Table.notGraphemeControl

/-- What continues a grapheme and is shown apart. -/
def graphemeMark : Selection :=
  (spacingMark ∪ table Table.otherGraphemeMark) \
    (graphemeExtend ∪ table Table.notGraphemeMark)

def graphemeModified : Selection := graphemeExtend ∪ table Table.emojiModifier

def graphemePrepend : Selection :=
  tables [Table.prependedConcatenationMark, Table.otherPrepend]

def joiner : Selection := codes [0x200D]

/-- What continues a word or a sentence like the character in front. -/
def segmentExtend : Selection := graphemeExtend ∪ spacingMark

def wordExtend : Selection := (segmentExtend ∪ table Table.emojiModifier) \ joiner

def wordKatakana : Selection := tables [Table.scriptKatakana, Table.otherKatakana]

def wordLetter : Selection :=
  (alphabetic \ (tables [Table.ideographic, Table.scriptHiragana, Table.hebrewLetter,
    Table.unspacedLetter] ∪ (wordKatakana ∪ wordExtend))) ∪ table Table.otherWordLetter

def sentenceLower : Selection :=
  lowercase \ (graphemeExtend ∪ table Table.georgianLower)

def sentenceUpper : Selection :=
  (uppercase ∪ titlecaseLetter) \ table Table.georgianUpper

def sentenceExtend : Selection := segmentExtend ∪ joiner

/-- Letters that are neither lowercase nor uppercase to a sentence. -/
def sentenceLetter : Selection :=
  (alphabetic \ (sentenceLower ∪ (sentenceUpper ∪ sentenceExtend))) ∪ codes [0x5F3]

def sentenceClose : Selection :=
  openPunctuation ∪ (closePunctuation ∪ (initialPunctuation ∪ (finalPunctuation ∪
    table Table.otherClosing)))

end Selection

/-- The character belongs to words. -/
def isWordCharacter (c : Char) : Bool := Selection.wordCharacter.contains c.toNat

end TreePath.Text.Unicode
