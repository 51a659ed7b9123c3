/-
TreePath.Text.Unicode.Property — finding a set of characters by the name of a property.

Names are compared without regard to case, spaces, hyphens, underscores and a leading `is`. A name
alone may be a binary property, a general category or a script; categories, scripts, ages and breaks
may also be named together with their property.
-/
import TreePath.Text.Scan
import TreePath.Text.Unicode.ScriptExtensions
import TreePath.Text.Unicode.Selection

namespace TreePath.Text.Unicode

/-! ## Names -/

/-- A name without case and separators, and without characters beyond ASCII. A leading `is` does not
count, unless the name is the one abbreviation that begins so. -/
def normalizeName (s : List Char) : List Char :=
  let plain (s : List Char) : List Char :=
    (s.filter fun c => c.toNat < 0x80 && c != ' ' && c != '_' && c != '-').map Char.toLower
  match s with
  | i :: s' :: rest =>
    if i.toLower == 'i' && s'.toLower == 's' then
      if plain rest == ['c'] then ['i', 's', 'c'] else plain rest
    else plain s
  | _ => plain s

/-- What a name stands for. -/
def findNamed {α : Type} (table : List (List String × α)) (name : List Char) : Option α :=
  (table.find? fun (names, _) => names.any (·.toList == name)).map (·.2)

/-! ## Tables of names -/

/-- The general categories and their groups, by short and long name. -/
def categories : List (List String × Selection) := [
  (["l", "letter"], .letter),
  (["lc", "casedletter"], .casedLetter),
  (["lu", "uppercaseletter"], .uppercaseLetter),
  (["ll", "lowercaseletter"], .lowercaseLetter),
  (["lt", "titlecaseletter"], .titlecaseLetter),
  (["lm", "modifierletter"], .modifierLetter),
  (["lo", "otherletter"], .otherLetter),
  (["m", "mark", "combiningmark"], .mark),
  (["mn", "nonspacingmark"], .nonspacingMark),
  (["mc", "spacingmark"], .spacingMark),
  (["me", "enclosingmark"], .enclosingMark),
  (["n", "number"], .number),
  (["nd", "decimalnumber", "digit"], .decimalNumber),
  (["nl", "letternumber"], .letterNumber),
  (["no", "othernumber"], .otherNumber),
  (["p", "punctuation", "punct"], .punctuation),
  (["pc", "connectorpunctuation"], .connectorPunctuation),
  (["pd", "dashpunctuation"], .dashPunctuation),
  (["ps", "openpunctuation"], .openPunctuation),
  (["pe", "closepunctuation"], .closePunctuation),
  (["pi", "initialpunctuation"], .initialPunctuation),
  (["pf", "finalpunctuation"], .finalPunctuation),
  (["po", "otherpunctuation"], .otherPunctuation),
  (["s", "symbol"], .symbol),
  (["sm", "mathsymbol"], .mathSymbol),
  (["sc", "currencysymbol"], .currencySymbol),
  (["sk", "modifiersymbol"], .modifierSymbol),
  (["so", "othersymbol"], .otherSymbol),
  (["z", "separator"], .separator),
  (["zs", "spaceseparator"], .table Table.spaceSeparator),
  (["zl", "lineseparator"], .table Table.lineSeparator),
  (["zp", "paragraphseparator"], .table Table.paragraphSeparator),
  (["c", "other"], .unassigned ∪ (.control ∪ (.format ∪ .privateUse))),
  (["cc", "control", "cntrl"], .control),
  (["cf", "format"], .format),
  (["co", "privateuse"], .privateUse),
  (["cn", "unassigned"], .unassigned),
  (["any"], .all),
  (["assigned"], .assigned),
  (["ascii"], .interval 0 0x7F)]

/-- The properties that a character has or has not. -/
def binaryProperties : List (List String × Selection) := [
  (["ahex", "asciihexdigit"], .table Table.asciiHexDigit),
  (["alpha", "alphabetic"], .alphabetic),
  (["bidic", "bidicontrol"], .table Table.bidiControl),
  (["cased"], .cased),
  (["ci", "caseignorable"], .caseIgnorable),
  (["cwcf", "changeswhencasefolded"], .changesFolded),
  (["cwcm", "changeswhencasemapped"],
    .changesLowercased ∪ (.changesUppercased ∪ .changesTitlecased)),
  (["cwl", "changeswhenlowercased"], .changesLowercased),
  (["cwt", "changeswhentitlecased"], .changesTitlecased),
  (["cwu", "changeswhenuppercased"], .changesUppercased),
  (["dash"], .dashPunctuation ∪ .table Table.dashSymbol),
  (["dep", "deprecated"], .table Table.deprecated),
  (["di", "defaultignorablecodepoint"], .table Table.defaultIgnorable),
  (["dia", "diacritic"], .table Table.diacritic),
  (["ebase", "emojimodifierbase"], .table Table.emojiModifierBase),
  (["ecomp", "emojicomponent"], .table Table.emojiComponent),
  (["emod", "emojimodifier"], .table Table.emojiModifier),
  (["emoji"], .tables [Table.emojiPresentation, Table.textEmoji]),
  (["epres", "emojipresentation"], .table Table.emojiPresentation),
  (["ext", "extender"], .table Table.extender),
  (["extpict", "extendedpictographic"], .table Table.extendedPictographic),
  (["grbase", "graphemebase"], .graphemeBase),
  (["grext", "graphemeextend"], .graphemeExtend),
  (["grlink", "graphemelink"], .table Table.graphemeLink),
  (["hex", "hexdigit"], .tables [Table.asciiHexDigit, Table.wideHexDigit]),
  (["hyphen"], .table Table.hyphen),
  (["idc", "idcontinue"], .idContinue),
  (["idcompatmathcontinue"], .table Table.compatMathContinue),
  (["idcompatmathstart"], .table Table.compatMathStart),
  (["ideo", "ideographic"], .table Table.ideographic),
  (["ids", "idstart"], .idStart),
  (["idsb", "idsbinaryoperator"], .table Table.idsBinaryOperator),
  (["idst", "idstrinaryoperator"], .table Table.idsTrinaryOperator),
  (["idsu", "idsunaryoperator"], .table Table.idsUnaryOperator),
  (["joinc", "joincontrol"], .table Table.joinControl),
  (["loe", "logicalorderexception"], .table Table.logicalOrderException),
  (["lower", "lowercase"], .lowercase),
  (["math"], .mathSymbol ∪ .table Table.otherMath),
  (["mcm", "modifiercombiningmark"], .table Table.modifierCombiningMark),
  (["nchar", "noncharactercodepoint"], .table Table.noncharacter),
  (["oalpha", "otheralphabetic"], .settled (.table Table.otherAlphabetic)),
  (["odi", "otherdefaultignorablecodepoint"], .table Table.otherDefaultIgnorable),
  (["ogrext", "othergraphemeextend"], .table Table.otherGraphemeExtend),
  (["oidc", "otheridcontinue"], .table Table.otherIdContinue),
  (["oids", "otheridstart"], .table Table.otherIdStart),
  (["olower", "otherlowercase"], .settled (.table Table.otherLowercase)),
  (["omath", "othermath"], .table Table.otherMath),
  (["oupper", "otheruppercase"], .settled (.table Table.otherUppercase)),
  (["patsyn", "patternsyntax"], .table Table.patternSyntax),
  (["patws", "patternwhitespace"], .table Table.patternWhiteSpace),
  (["pcm", "prependedconcatenationmark"], .table Table.prependedConcatenationMark),
  (["qmark", "quotationmark"], .table Table.quotationMark),
  (["radical"], .table Table.radical),
  (["ri", "regionalindicator"], .table Table.regionalIndicator),
  (["sd", "softdotted"], .table Table.softDotted),
  (["sterm", "sentenceterminal"], .table Table.sentenceTerminal),
  (["term", "terminalpunctuation"],
    .tables [Table.sentenceTerminal, Table.otherTerminal]),
  (["uideo", "unifiedideograph"], .table Table.unifiedIdeograph),
  (["upper", "uppercase"], .uppercase),
  (["vs", "variationselector"], .table Table.variationSelector),
  (["wspace", "space", "whitespace"], .whiteSpace),
  (["xidc", "xidcontinue"], .idContinue \ .table Table.notClosedContinue),
  (["xids", "xidstart"], .idStart \ .table Table.notClosedStart)]

/-- The parts of graphemes. -/
def graphemeBreaks : List (List String × Selection) := [
  (["cn", "control"], .graphemeControl),
  (["cr"], .codes [0xD]),
  (["ex", "extend"], .graphemeModified),
  (["l"], .table Table.hangulLeading),
  (["lf"], .codes [0xA]),
  (["lv"], .hangulPair),
  (["lvt"], .hangulTriple),
  (["pp", "prepend"], .graphemePrepend),
  (["ri", "regionalindicator"], .table Table.regionalIndicator),
  (["sm", "spacingmark"], .graphemeMark),
  (["t"], .table Table.hangulTrailing),
  (["v"], .table Table.hangulVowel),
  (["zwj"], .joiner)]

/-- The parts of words. -/
def wordBreaks : List (List String × Selection) := [
  (["le", "aletter"], .wordLetter),
  (["cr"], .codes [0xD]),
  (["dq", "doublequote"], .codes [0x22]),
  (["extend"], .wordExtend),
  (["ex", "extendnumlet"], .connectorPunctuation ∪ .codes [0x202F]),
  (["fo", "format"], .format \ .table Table.notWordFormat),
  (["hl", "hebrewletter"], .table Table.hebrewLetter),
  (["ka", "katakana"], .wordKatakana),
  (["lf"], .codes [0xA]),
  (["ml", "midletter"], .table Table.midLetter),
  (["mn", "midnum"], .table Table.midNumber),
  (["mb", "midnumlet"], .table Table.midNumberLetter),
  (["nl", "newline"], .table Table.wordNewline),
  (["nu", "numeric"], .decimalNumber ∪ .table Table.otherWordNumeric),
  (["ri", "regionalindicator"], .table Table.regionalIndicator),
  (["sq", "singlequote"], .codes [0x27]),
  (["wsegspace"], .table Table.wordSpace),
  (["zwj"], .joiner)]

/-- The parts of sentences. -/
def sentenceBreaks : List (List String × Selection) := [
  (["at", "aterm"], .table Table.fullStop),
  (["cr"], .codes [0xD]),
  (["cl", "close"], .sentenceClose),
  (["ex", "extend"], .sentenceExtend),
  (["fo", "format"], .format \ .table Table.notSentenceFormat),
  (["lf"], .codes [0xA]),
  (["lo", "lower"], .sentenceLower),
  (["nu", "numeric"], .decimalNumber ∪ .table Table.otherSentenceNumeric),
  (["le", "oletter"], .sentenceLetter),
  (["sc", "scontinue"], .table Table.sentenceContinue),
  (["st", "sterm"], .table Table.sentenceTerminal \ .table Table.fullStop),
  (["se", "sep"], .codes [0x85, 0x2028, 0x2029]),
  (["sp"], .table Table.sentenceSpace),
  (["up", "upper"], .sentenceUpper)]

/-! ## Scripts and ages -/

/-- The characters of a script. -/
def script? (name : List Char) : Option Selection :=
  (findNamed Table.scripts name).map .table

/-- The characters that are used in a script. -/
def usedInScript? (name : List Char) : Option Selection :=
  (Table.scripts.find? fun (names, _) => names.any (·.toList == name)).map
    fun (names, own) =>
      let explicit := Table.scriptExtensions.flatMap (·.1)
      let used := (Table.scriptExtensions.filter fun (_, scripts) =>
        names.any scripts.contains).flatMap (·.1)
      (.table own \ .table explicit) ∪ .table used

/-- The number of a version as names write it. -/
def versionNames (major minor : Nat) : List (List Char) :=
  [natDigits major ++ '.' :: natDigits minor, 'v' :: natDigits major ++ natDigits minor]

/-- The characters of a version of the database and of the versions before it. -/
def age? (name : List Char) : Option Selection :=
  let versions := Table.ages.filter fun (version, _) => version.1 < 17
  (versions.findIdx? fun ((major, minor), _) => (versionNames major minor).contains name).map
    fun i => .tables ((versions.take (i + 1)).map (·.2))

/-! ## Looking names up -/

/-- The set of a property with a value. -/
def valued? (property value : List Char) : Option Selection :=
  let isAny (names : List String) : Bool := names.any (·.toList == property)
  if isAny ["gc", "generalcategory"] then findNamed categories value
  else if isAny ["sc", "script"] then script? value
  else if isAny ["scx", "scriptextensions"] then usedInScript? value
  else if isAny ["age"] then age? value
  else if isAny ["gcb", "graphemeclusterbreak"] then findNamed graphemeBreaks value
  else if isAny ["wb", "wordbreak"] then findNamed wordBreaks value
  else if isAny ["sb", "sentencebreak"] then findNamed sentenceBreaks value
  else none

/-- The set that a name alone denotes. -/
def named? (name : List Char) : Option Selection :=
  let name := normalizeName name
  (findNamed binaryProperties name).or ((findNamed categories name).or (script? name))

/-- The texts before and after the first `!=`. -/
def cutUnequal : List Char → Option (List Char × List Char)
  | [] => none
  | '!' :: '=' :: rest => some ([], rest)
  | c :: rest => (cutUnequal rest).map fun (before, after) => (c :: before, after)

/-- The set that a property name, or a property with a value, denotes; and whether the text asks for
what is outside of it. -/
def property? (text : List Char) : Option (Selection × Bool) :=
  let valued (parts : List Char × List Char) : Option Selection :=
    valued? (normalizeName parts.1) (normalizeName parts.2)
  match cutUnequal text with
  | some parts => (valued parts).map (·, true)
  | none =>
    match (cutFirst ':' text).or (cutFirst '=' text) with
    | some parts => (valued parts).map (·, false)
    | none => (named? text).map (·, false)

end TreePath.Text.Unicode
