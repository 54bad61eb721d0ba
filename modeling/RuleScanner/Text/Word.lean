import RuleScanner.Unicode.WhiteSpace

/-!
# Words of a text

A text is the list of its characters, and an index counts characters. A word is a longest run of characters that are not
white space. `wordBounds` gives the word around an index, and an empty range at an index that is on no word.
-/

namespace RuleScanner

/-- A text as the list of its characters. -/
abbrev Text : Type := List Char

namespace Text

/-- The character at `index` belongs to a word. -/
def inWord (text : Text) (index : Nat) : Bool :=
  match text[index]? with
  | some c => !Unicode.isWhiteSpace c
  | none => false

/-- The first index of the run of word characters that ends just before `index`, or `index` itself if there is none. -/
def wordStart (text : Text) : Nat → Nat
  | 0 => 0
  | index + 1 => if text.inWord index then text.wordStart index else index + 1

/-- How many characters of the text, from its first on, are not white space. -/
def wordLength (text : Text) : Nat := (text.takeWhile (!Unicode.isWhiteSpace ·)).length

/-- The word around `index`, from its first character up to and without the second number. It is empty at an index that is
on white space or outside the text. -/
def wordBounds (text : Text) (index : Nat) : Nat × Nat :=
  if text.inWord index then (text.wordStart index, index + Text.wordLength (text.drop index)) else (index, index)

/-- The characters of the word around `index`. -/
def wordAt (text : Text) (index : Nat) : List Char :=
  let (start, stop) := text.wordBounds index
  (text.drop start).take (stop - start)

/-- A word starts at `index`. -/
def isWordStart (text : Text) (index : Nat) : Bool := text.inWord index && text.wordStart index == index

end Text

end RuleScanner
