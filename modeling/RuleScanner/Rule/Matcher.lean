import RuleScanner.Pattern.Basic
import RuleScanner.Rule.Basic
import RuleScanner.Unicode.Alphabetic

/-!
# Matchers

Conditions that look at the word around a character. None of them takes anything from the text: a scan still goes one
character at a time.
-/

namespace RuleScanner.Matcher

/-- The character can stand in an identifier: a letter or an underscore anywhere, an ASCII digit anywhere but at the start of
a word. -/
def identifier : Matcher := fun c index text =>
  if c.isDigit then !text.isWordStart index else Unicode.isAlphabetic c || c == '_'

/-- The character is the first of a word. -/
def wordStart : Matcher := fun _ index text => text.isWordStart index

/-- The character is part of a word, and the pattern is found in that word. -/
def ofCompiled (p : Pattern.Compiled) : Matcher := fun _ index text => text.inWord index && p.isMatch (text.wordAt index)

/-- The character is part of a word that the pattern matches as a whole. -/
def wordPattern (pattern : String) (engine : Pattern.Engine := .standard) : Except Fault Matcher :=
  (Pattern.compile pattern engine).map ofCompiled

/-- Both conditions hold. -/
def both (m n : Matcher) : Matcher := fun c index text => m c index text && n c index text

end RuleScanner.Matcher
