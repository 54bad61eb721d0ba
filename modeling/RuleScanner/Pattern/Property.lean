import RuleScanner.Unicode.Alphabetic
import RuleScanner.Unicode.Category
import RuleScanner.Unicode.DefaultIgnorable
import RuleScanner.Unicode.GraphemeExtend
import RuleScanner.Unicode.Property
import RuleScanner.Unicode.Recent
import RuleScanner.Unicode.ScriptExtension
import RuleScanner.Unicode.WhiteSpace

/-!
# Properties by name

A pattern can name a set by a property that its characters have: a property of its own, a general category, or a script. In a
name case does not count, nor do spaces, underscores, hyphens, and the letters `is` in front.
-/

namespace RuleScanner.Pattern

open Unicode

/-- The characters with the property Lowercase. -/
def lowercase : CharSet := lowercaseLetter.union otherLowercase

/-- The characters with the property Uppercase. -/
def uppercase : CharSet := uppercaseLetter.union otherUppercase

/-- The characters with the property ID_Start. -/
def identifierStart : CharSet :=
  (CharSet.unions [letter, letterNumber, otherIdentifierStart]).diff (patternSyntax.union patternWhiteSpace)

/-- The characters with the property ID_Continue. -/
def identifierContinue : CharSet :=
  .unions [identifierStart, nonspacingMark, spacingMark, decimalNumber, connectorPunctuation, otherIdentifierContinue]

/-- The characters with the property Grapheme_Base. -/
def graphemeBase : CharSet := .compl (.unions [other, lineSeparator, paragraphSeparator, graphemeExtend])

/-- A set that can be named, by its short and its long name in lower case letters. -/
abbrev Named : Type := String × String × CharSet

/-- The properties that a character has or has not. -/
def properties : List Named :=
  [("ahex", "asciihexdigit", known asciiHexDigit),
    ("alpha", "alphabetic", known alphabetic),
    ("bidic", "bidicontrol", known bidiControl),
    ("bidim", "bidimirrored", known bidiMirrored),
    ("cased", "cased", known (.unions [lowercase, uppercase, titlecaseLetter])),
    ("ci", "caseignorable",
      known (.unions [nonspacingMark, enclosingMark, format, modifierLetter, modifierSymbol, otherCaseIgnorable])),
    ("dash", "dash", known dash),
    ("dep", "deprecated", known deprecated),
    ("di", "defaultignorablecodepoint", defaultIgnorable),
    ("dia", "diacritic", known diacritic),
    ("ebase", "emojimodifierbase", known emojiModifierBase),
    ("ecomp", "emojicomponent", known emojiComponent),
    ("emod", "emojimodifier", known emojiModifier),
    ("emoji", "emoji", known emoji),
    ("epres", "emojipresentation", known emojiPresentation),
    ("ext", "extender", known extender),
    ("extpict", "extendedpictographic", extendedPictographic),
    ("grbase", "graphemebase", known graphemeBase),
    ("grext", "graphemeextend", known graphemeExtend),
    ("hex", "hexdigit", known hexDigit),
    ("hyphen", "hyphen", known hyphen),
    ("idc", "idcontinue", known identifierContinue),
    ("ideo", "ideographic", known ideographic),
    ("ids", "idstart", known identifierStart),
    ("idsb", "idsbinaryoperator", known idsBinaryOperator),
    ("idst", "idstrinaryoperator", known idsTrinaryOperator),
    ("idsu", "idsunaryoperator", known idsUnaryOperator),
    ("joinc", "joincontrol", known joinControl),
    ("loe", "logicalorderexception", known logicalOrderException),
    ("lower", "lowercase", known lowercase),
    ("math", "math", known (mathSymbol.union otherMath)),
    ("nchar", "noncharactercodepoint", noncharacter),
    ("patsyn", "patternsyntax", patternSyntax),
    ("patws", "patternwhitespace", patternWhiteSpace),
    ("pcm", "prependedconcatenationmark", known prependedConcatenationMark),
    ("qmark", "quotationmark", known quotationMark),
    ("radical", "radical", known radical),
    ("ri", "regionalindicator", known regionalIndicator),
    ("sd", "softdotted", known softDotted),
    ("space", "whitespace", whiteSpace),
    ("sterm", "sentenceterminal", known sentenceTerminal),
    ("term", "terminalpunctuation", known terminalPunctuation),
    ("uideo", "unifiedideograph", known unifiedIdeograph),
    ("upper", "uppercase", known uppercase),
    ("vs", "variationselector", known variationSelector),
    ("wspace", "whitespace", whiteSpace),
    ("xidc", "xidcontinue", known (identifierContinue.diff identifierContinueUnstable)),
    ("xids", "xidstart", known (identifierStart.diff identifierStartUnstable))]

/-- The general categories and their groups, with the sets that are named like them. -/
def categories : List Named :=
  [("any", "any", .all),
    ("ascii", "ascii", .range '\x00' '\x7f'),
    ("assigned", "assigned", known unassigned.compl),
    ("c", "other", other.union recent),
    ("cc", "control", control),
    ("cntrl", "control", control),
    ("cf", "format", known format),
    ("cn", "unassigned", unassigned.union recent),
    ("co", "privateuse", privateUse),
    ("l", "letter", known letter),
    ("lc", "casedletter", known casedLetter),
    ("ll", "lowercaseletter", known lowercaseLetter),
    ("lm", "modifierletter", known modifierLetter),
    ("lo", "otherletter", known otherLetter),
    ("lt", "titlecaseletter", known titlecaseLetter),
    ("lu", "uppercaseletter", known uppercaseLetter),
    ("m", "mark", known markCharacter),
    ("combiningmark", "mark", known markCharacter),
    ("mc", "spacingmark", known spacingMark),
    ("me", "enclosingmark", known enclosingMark),
    ("mn", "nonspacingmark", known nonspacingMark),
    ("n", "number", known number),
    ("nd", "decimalnumber", known decimalNumber),
    ("digit", "decimalnumber", known decimalNumber),
    ("nl", "letternumber", known letterNumber),
    ("no", "othernumber", known otherNumber),
    ("p", "punctuation", known punctuation),
    ("punct", "punctuation", known punctuation),
    ("pc", "connectorpunctuation", known connectorPunctuation),
    ("pd", "dashpunctuation", known dashPunctuation),
    ("pe", "closepunctuation", known closePunctuation),
    ("pf", "finalpunctuation", known finalPunctuation),
    ("pi", "initialpunctuation", known initialPunctuation),
    ("po", "otherpunctuation", known otherPunctuation),
    ("ps", "openpunctuation", known openPunctuation),
    ("s", "symbol", known symbol),
    ("sc", "currencysymbol", known currencySymbol),
    ("sk", "modifiersymbol", known modifierSymbol),
    ("sm", "mathsymbol", known mathSymbol),
    ("so", "othersymbol", known otherSymbol),
    ("z", "separator", known separator),
    ("zl", "lineseparator", known lineSeparator),
    ("zp", "paragraphseparator", known paragraphSeparator),
    ("zs", "spaceseparator", known spaceSeparator)]

/-- The set of a list that has a name. -/
def named? (sets : List Named) (name : String) : Option CharSet :=
  (sets.find? fun (short, long, _) => short == name || long == name).map (·.2.2)

/-- The script that has a name. Two scripts have a second short name. -/
def script? (name : String) : Option Script :=
  let name := if name = "qaac" then "copt" else if name = "qaai" then "zinh" else name
  scripts.find? fun script => script.code == name || script.name == name

/-- A name as it is looked up. The short name `isc` is not `c`. -/
def plainName (name : List Char) : String :=
  let isFirst := (name.take 2).map Char.toLower == ['i', 's']
  let kept := (if isFirst then name.drop 2 else name).filter fun c => c.toNat < 0x80 && c != ' ' && c != '_' && c != '-'
  let plain := String.ofList (kept.map Char.toLower)
  if isFirst && plain == "c" then "isc" else plain

/-- The set that a name stands for: a property, else a general category, else a script. -/
def property? (name : List Char) : Option CharSet :=
  let name := plainName name
  (named? properties name).orElse fun _ => (named? categories name).orElse fun _ => (script? name).map (·.chars)

/-- The set of the characters for which a property has a value: the general category, the script, or one of the scripts that
the character is used in. -/
def propertyValue? (name value : List Char) : Option CharSet :=
  let value := plainName value
  match plainName name with
  | "gc" | "generalcategory" => named? categories value
  | "sc" | "script" => (script? value).map (·.chars)
  | "scx" | "scriptextensions" => (script? value).map (·.extension)
  | _ => none

/-- What is known of the properties of characters: the sets that a pattern can name. -/
structure Database where
  /-- The set that a name alone stands for. -/
  property? : (name : List Char) → Option CharSet
  /-- The set that a name and a value stand for. -/
  propertyValue? : (name value : List Char) → Option CharSet
  deriving Inhabited

/-- The properties of this module. Not among them are the age of a character, the classes by which texts are broken into graphemes,
words and sentences, and the properties that tell whether a change of case changes a character. A database that has them too is
another one. -/
def Database.standard : Database := { property? := Pattern.property?, propertyValue? := Pattern.propertyValue? }

end RuleScanner.Pattern
