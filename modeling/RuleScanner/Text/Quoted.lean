import RuleScanner.Unicode.Unprintable

/-!
# Quoted text

A character or a text is quoted so that every character of it can be seen: the quotation mark and the backslash take a
backslash, the common controls have a letter, and whatever has no shape of its own is written by its code point.
-/

namespace RuleScanner.Quoted

/-- The code point of a character in braces, in lower case hexadecimal. -/
def codePoint (c : Char) : List Char := ['\\', 'u', '\x7b'] ++ Nat.toDigits 16 c.toNat ++ ['\x7d']

/-- What is written for a character between two marks `mark`. -/
def escape (mark c : Char) : List Char :=
  if c = '\x00' then ['\\', '0']
  else if c = '\t' then ['\\', 't']
  else if c = '\r' then ['\\', 'r']
  else if c = '\n' then ['\\', 'n']
  else if c = '\\' || c = mark then ['\\', c]
  else if Unicode.isUnprintable c then codePoint c
  else [c]

/-- A text between two marks. -/
def between (mark : Char) (text : List Char) : String :=
  String.ofList (mark :: text.flatMap (escape mark) ++ [mark])

/-- A text between double quotation marks. -/
def text (s : String) : String := between '"' s.toList

/-- A character between apostrophes. -/
def char (c : Char) : String := between '\'' [c]

end RuleScanner.Quoted
