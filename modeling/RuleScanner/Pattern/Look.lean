import RuleScanner.CharSet.Basic

/-!
# Conditions on a place

A place of a word lies before its first character, between two of its characters, or after its last. A pattern can ask for the
ends of the text, the ends of a line, or the ends of a row of characters of some set.
-/

namespace RuleScanner

/-- A condition on a place between two characters of a word. -/
inductive Look where
  /-- Before the first character. -/
  | textStart
  /-- After the last character. -/
  | textEnd
  /-- At the start of a line. If `crlf` is set, a carriage return ends a line too, alone or with the line feed after it. -/
  | lineStart (crlf : Bool)
  /-- At the end of a line. -/
  | lineEnd (crlf : Bool)
  /-- Of the characters before and after, one is in the set `word`. -/
  | boundary (word : CharSet)
  /-- Of the characters before and after, both or none are in the set `word`. -/
  | noBoundary (word : CharSet)
  /-- The character after is in the set `word`, the one before is not. -/
  | wordStart (word : CharSet)
  /-- The character before is in the set `word`, the one after is not. -/
  | wordEnd (word : CharSet)
  /-- The character before is not in the set `word`. -/
  | noWordBefore (word : CharSet)
  /-- The character after is not in the set `word`. -/
  | noWordAfter (word : CharSet)
  deriving DecidableEq, Repr, Inhabited

/-- The condition holds between the characters `before` and `after`, either of which may be missing. -/
def Look.holds (before after : Option Char) : Look → Bool
  | .textStart => before.isNone
  | .textEnd => after.isNone
  | .lineStart crlf => before.all (· == '\n') || crlf && before == some '\r' && after != some '\n'
  | .lineEnd crlf =>
    if crlf then after.all (· == '\r') || after == some '\n' && before != some '\r' else after.all (· == '\n')
  | .boundary word => before.any word.contains != after.any word.contains
  | .noBoundary word => before.any word.contains == after.any word.contains
  | .wordStart word => !before.any word.contains && after.any word.contains
  | .wordEnd word => before.any word.contains && !after.any word.contains
  | .noWordBefore word => !before.any word.contains
  | .noWordAfter word => !after.any word.contains

end RuleScanner
