import RuleScanner.Pattern.Class
import RuleScanner.Pattern.Look
import RuleScanner.Pattern.Property
import RuleScanner.Unicode.CaseFolding

/-!
# Modes of a pattern

The letters in `(?i)` and its like change how the rest of a group is read: whether case counts, whether blanks count, which
characters classes are made of, and what a dot, a caret and a dollar sign stand for.
-/

namespace RuleScanner.Pattern

/-- How a part of a pattern is read. -/
structure Mode where
  /-- Letters stand for all their case forms. -/
  ignoreCase : Bool := false
  /-- A caret and a dollar sign stand for the ends of lines. -/
  lines : Bool := false
  /-- A dot stands for a line end too. -/
  dotAll : Bool := false
  /-- Classes are made of the characters of all scripts. If this is turned off, they are made of single octets; as a word is a
  text, only those that are ASCII can be used then, and a class that has more is refused. -/
  allScripts : Bool := true
  /-- A carriage return ends a line. -/
  crlf : Bool := false
  /-- Blanks are no part of the pattern, and a number sign starts a comment. -/
  extended : Bool := false
  /-- The sets that can be named. No letter changes them. -/
  database : Database := .standard
  deriving Inhabited

namespace Mode

/-- The mode with the one that a letter names turned on or off. The letter `U` changes which of several spans is preferred,
and so no answer of this library. -/
def set? (m : Mode) (letter : Char) (on : Bool) : Option Mode :=
  match letter with
  | 'i' => some { m with ignoreCase := on }
  | 'm' => some { m with lines := on }
  | 's' => some { m with dotAll := on }
  | 'u' => some { m with allScripts := on }
  | 'R' => some { m with crlf := on }
  | 'x' => some { m with extended := on }
  | 'U' => some m
  | _ => none

/-- The word characters of the mode. -/
def word (m : Mode) : CharSet := if m.allScripts then wordChars else asciiWordChars

/-- The digits of the mode. -/
def digit (m : Mode) : CharSet := if m.allScripts then digits else asciiDigits

/-- The white space of the mode. -/
def space (m : Mode) : CharSet := if m.allScripts then Unicode.whiteSpace else asciiSpace

/-- The set with all case forms, if case does not count. -/
def fold (m : Mode) (s : CharSet) : CharSet :=
  if m.ignoreCase then if m.allScripts then s.anyCase else s.anyAsciiCase else s

/-- The complement of the set if `negated`, else the set itself. The complement of single octets has some that are not
ASCII. -/
def negate? (m : Mode) (negated : Bool) (s : CharSet) : Option CharSet :=
  if negated then if m.allScripts then some s.compl else none else some s

/-- What a dot stands for. -/
def dot? (m : Mode) : Option CharSet :=
  m.negate? true (if m.dotAll then .none else if m.crlf then .ofChars ['\n', '\r'] else .single '\n')

/-- What a caret stands for. -/
def caret (m : Mode) : Look := if m.lines then .lineStart m.crlf else .textStart

/-- What a dollar sign stands for. -/
def dollar (m : Mode) : Look := if m.lines then .lineEnd m.crlf else .textEnd

/-- The pattern from its first character that is neither blank nor in a comment. -/
def dropBlanks : (inComment : Bool) → List Char → List Char
  | _, [] => []
  | true, c :: rest => dropBlanks (c != '\n') rest
  | false, c :: rest =>
    if Unicode.isWhiteSpace c then dropBlanks false rest else if c = '#' then dropBlanks true rest else c :: rest

/-- The pattern from its first character that counts. -/
def skip (m : Mode) (cs : List Char) : List Char := if m.extended then dropBlanks false cs else cs

/-- The first character that counts, and the pattern after it. -/
def next? (m : Mode) (cs : List Char) : Option (Char × List Char) :=
  match m.skip cs with
  | [] => none
  | c :: rest => some (c, rest)

end Mode

/-- Reads the letters of a mode change up to a colon or a closing parenthesis, from the place where `seen` have been read. The
answer is the new mode, whether no letter was given, the character at the end, and the rest. A letter may not come twice,
there is one minus sign at most, and a letter follows it. -/
def modeLetters (m : Mode) (seen : List Char) (on dangling : Bool) : List Char → Option (Mode × Bool × Char × List Char)
  | [] => none
  | c :: rest =>
    if c = ':' || c = ')' then if dangling then none else some (m, seen.isEmpty, c, rest)
    else if c = '-' then if on then modeLetters m seen false true rest else none
    else if seen.contains c then none
    else
      match m.set? c on with
      | some m' => modeLetters m' (c :: seen) on false rest
      | none => none

end RuleScanner.Pattern
