import RuleScanner.Text.Word
import RuleScanner.Token

/-!
# Trivia: blanks and comments

What a scan does with the parts of a text that no rule is about. A blank may yield a token of its own. A comment is jumped
over in one go: a scan to the right asks at each character whether a comment starts there and where it ends, a scan to the
left asks whether a comment covers the character and where it starts.

The four answers are arbitrary functions. A scan relies on none of them: an end that is not beyond the index, or a start that
is, counts as no comment.
-/

namespace RuleScanner

/-- How blanks and comments are treated. -/
structure Trivia where
  /-- The token of the blank `c` at `location`, if it yields one. -/
  blankToken (c : Char) (location : Location) : Option Token := none
  /-- A comment starts with the character `c` at `index`. -/
  startsComment (c : Char) (index : Nat) (text : Text) : Bool := false
  /-- The first index after the comment that starts at `index`. -/
  commentEnd (index : Nat) (text : Text) : Nat := index
  /-- The first index of the comment that covers `index`, if one does. -/
  commentStart? (index : Nat) (text : Text) : Option Nat := none

namespace Text

/-- The text from `index` on begins with `marker`. -/
def hasMarkerAt (text marker : Text) (index : Nat) : Bool := marker.isPrefixOf (text.drop index)

/-- The index of the first line feed at or after `index`, or the length of the text if there is none. -/
def lineEnd (text : Text) (index : Nat) : Nat :=
  match (text.drop index).findIdx? (· == '\n') with
  | some offset => index + offset
  | none => text.length

/-- The first index of the line that the index is on, a line feed counting as the end of its line. -/
def lineStart (text : Text) : Nat → Nat
  | 0 => 0
  | index + 1 => if text[index]? = some '\n' then index + 1 else text.lineStart index

end Text

namespace Trivia

/-- Blanks yield nothing, and there are no comments. -/
def none : Trivia := {}

/-- The first index from `start` on, `count` of them, at which the marker stands. -/
def firstMarker? (text marker : Text) (start count : Nat) : Option Nat :=
  (List.range' start count).find? (text.hasMarkerAt marker ·)

/-- Comments that run from a marker to the end of the line, without the line feed. An empty marker starts no comment. The
comment that covers an index starts at the first marker of its line, if that is not beyond the index. -/
def lineComments (marker : Text) : Trivia where
  startsComment _ index text := !marker.isEmpty && text.hasMarkerAt marker index
  commentEnd index text := text.lineEnd index
  commentStart? index text :=
    if marker.isEmpty || text[index]?.all (· == '\n') then Option.none
    else
      let start := text.lineStart index
      firstMarker? text marker start (index + 1 - start)

end Trivia

end RuleScanner
