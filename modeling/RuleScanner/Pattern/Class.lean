import RuleScanner.Unicode.Alphabetic
import RuleScanner.Unicode.Category
import RuleScanner.Unicode.Property
import RuleScanner.Unicode.Recent
import RuleScanner.Unicode.WhiteSpace

/-!
# Classes of characters

The sets that patterns have short names for: digits, white space and word characters, of all scripts or of ASCII alone, and the
classes of ASCII that are named in brackets and colons.
-/

namespace RuleScanner.Pattern

/-- The decimal digits of all scripts. -/
def digits : CharSet := Unicode.known Unicode.decimalNumber

/-- The word characters of all scripts: what is alphabetic, marks, decimal digits, connectors and join controls. -/
def wordChars : CharSet :=
  Unicode.known (.unions [Unicode.alphabetic, Unicode.markCharacter, Unicode.decimalNumber, Unicode.connectorPunctuation,
    Unicode.joinControl])

/-- The decimal digits of ASCII. -/
def asciiDigits : CharSet := .range '0' '9'

/-- The white space of ASCII. -/
def asciiSpace : CharSet := .ofRanges [('\t', '\r'), (' ', ' ')]

/-- The word characters of ASCII. -/
def asciiWordChars : CharSet := .ofRanges [('0', '9'), ('A', 'Z'), ('_', '_'), ('a', 'z')]

/-- The class of ASCII characters that a name in brackets and colons stands for. -/
def asciiClass? (name : String) : Option CharSet :=
  match name with
  | "alnum" => some (.ofRanges [('0', '9'), ('A', 'Z'), ('a', 'z')])
  | "alpha" => some (.ofRanges [('A', 'Z'), ('a', 'z')])
  | "ascii" => some (.range '\x00' '\x7f')
  | "blank" => some (.ofRanges [('\t', '\t'), (' ', ' ')])
  | "cntrl" => some (.ofRanges [('\x00', '\x1f'), ('\x7f', '\x7f')])
  | "digit" => some asciiDigits
  | "graph" => some (.range '!' '~')
  | "lower" => some (.range 'a' 'z')
  | "print" => some (.range ' ' '~')
  | "punct" => some (.ofRanges [('!', '/'), (':', '@'), ('[', '\x60'), ('\x7b', '~')])
  | "space" => some asciiSpace
  | "upper" => some (.range 'A' 'Z')
  | "word" => some asciiWordChars
  | "xdigit" => some (.ofRanges [('0', '9'), ('A', 'F'), ('a', 'f')])
  | _ => none

end RuleScanner.Pattern
