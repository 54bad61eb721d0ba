import RuleScanner.Unicode.Control
import RuleScanner.Unicode.Letter
import RuleScanner.Unicode.Mark
import RuleScanner.Unicode.Number
import RuleScanner.Unicode.Punctuation
import RuleScanner.Unicode.Symbol

/-!
# General categories

Every character has one general category. The categories fall into seven groups; what is in none of the tables is unassigned.
-/

namespace RuleScanner.Unicode

/-- Letters of all kinds. -/
def letter : CharSet := .unions [uppercaseLetter, lowercaseLetter, titlecaseLetter, modifierLetter, otherLetter]

/-- Letters that have case. -/
def casedLetter : CharSet := .unions [uppercaseLetter, lowercaseLetter, titlecaseLetter]

/-- Marks of all kinds. -/
def markCharacter : CharSet := .unions [nonspacingMark, spacingMark, enclosingMark]

/-- Numbers of all kinds. -/
def number : CharSet := .unions [decimalNumber, letterNumber, otherNumber]

/-- Punctuation of all kinds. -/
def punctuation : CharSet :=
  .unions [connectorPunctuation, dashPunctuation, openPunctuation, closePunctuation, initialPunctuation, finalPunctuation,
    otherPunctuation]

/-- Symbols of all kinds. -/
def symbol : CharSet := .unions [mathSymbol, currencySymbol, modifierSymbol, otherSymbol]

/-- Separators of all kinds. -/
def separator : CharSet := .unions [spaceSeparator, lineSeparator, paragraphSeparator]

/-- Code points that no character has been assigned to. -/
def unassigned : CharSet :=
  .compl (.unions [letter, markCharacter, number, punctuation, symbol, separator, control, format, privateUse])

/-- Controls, formats, and code points without a character of the standard. -/
def other : CharSet := .unions [control, format, privateUse, unassigned]

/-- The character is a number. -/
def isNumber (c : Char) : Bool := number.contains c

end RuleScanner.Unicode
