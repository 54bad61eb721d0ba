import RuleScanner.Pattern.Brackets
import RuleScanner.Pattern.Regex

/-!
# Pieces of a pattern

A pattern is cut into pieces before it is put together: expressions that stand for one place, the parentheses and bars that
group them, and repetitions. All that a mode decides is decided here, so that the pieces mean the same wherever they stand.
-/

namespace RuleScanner.Pattern

/-- An expression that has been read, and how deep the groups, repetitions, classes, sequences and choices of its text lie in
one another. -/
structure Part where
  regex : Regex
  height : Nat := 0
  deriving DecidableEq, Repr

/-- A piece of a pattern. -/
inductive Piece where
  | atom (part : Part)
  /-- The start of a group. A group that can be referred to has a number. -/
  | groupStart (number : Option Nat)
  | groupEnd
  | bar
  /-- A change of mode. It stands for nothing and cannot be repeated. -/
  | modeChange
  | times (least : Nat) (most : Option Nat)
  deriving DecidableEq, Repr

/-- What the reading of a pattern depends on: the mode, the modes of the groups around it, the nearest first, and the number
and the names of groups so far. -/
structure Context where
  mode : Mode := {}
  outer : List Mode := []
  groups : Nat := 0
  names : List (List Char) := []

/-- The context at the start of a pattern. -/
def Context.start (database : Database) : Context := { mode := { database } }

/-- A piece that has been read, the context after it, and the rest of the pattern. -/
abbrev Reading : Type := Piece × Context × List Char

/-- The context inside of a group that starts here. -/
def Context.enter (x : Context) (mode : Mode) : Context := { x with mode, outer := x.mode :: x.outer }

/-- The piece of a numbered group that starts here, and the context inside of it. -/
def Context.enterNumbered (x : Context) (rest : List Char) : Piece × Context × List Char :=
  (.groupStart (some x.groups), { x.enter x.mode with groups := x.groups + 1 }, rest)

/-- The expression of an escape. -/
def Escape.regex (m : Mode) : Escape → Regex
  | .literal c => .set (m.fold (.single c))
  | .class s => .set s
  | .look condition => .look condition

/-- A character may stand in the name of a group, `first` if it stands first in it. -/
def isNameChar (first : Bool) (c : Char) : Bool :=
  c == '_' || Unicode.isAlphabetic c ||
    !first && (c == '.' || c == '[' || c == ']' || Unicode.isNumber c)

/-- Reads the name of a group up to a closing angle bracket. No two groups have one name. -/
def groupName? (x : Context) (cs : List Char) : Option Reading :=
  let name := cs.takeWhile (· != '>')
  match name, cs.dropWhile (· != '>') with
  | first :: others, _ :: rest =>
    if isNameChar true first && others.all (isNameChar false) && !x.names.contains name then
      some ({ x with names := name :: x.names }.enterNumbered rest)
    else none
  | _, _ => none

/-- Reads a group just after its opening parenthesis: a plain one, a named one, one with a mode of its own, or a change of the
mode of the group around it. Conditions on what comes before or after are not part of the language. -/
def group? (x : Context) (cs : List Char) : Option Reading :=
  match x.mode.skip cs with
  | '?' :: '=' :: _ | '?' :: '!' :: _ | '?' :: '<' :: '=' :: _ | '?' :: '<' :: '!' :: _ => none
  | '?' :: 'P' :: '<' :: rest | '?' :: '<' :: rest => groupName? x rest
  | '?' :: rest =>
    match modeLetters x.mode [] true false rest with
    | some (mode, _, ':', rest) => some (.groupStart none, x.enter mode, rest)
    | some (mode, false, _, rest) => some (.modeChange, { x with mode }, rest)
    | _ => none
  | rest => some (x.enterNumbered rest)

/-- Reads decimal digits after a value `value`, if any was read. There are at most `n` characters. -/
def decimalDigits (m : Mode) : (n : Nat) → (value : Option Nat) → List Char → Option Nat × List Char
  | 0, value, cs => (value, cs)
  | n + 1, value, cs =>
    match m.skip cs with
    | c :: rest =>
      if c.isDigit then decimalDigits m n (some (10 * value.getD 0 + (c.toNat - '0'.toNat))) rest else (value, c :: rest)
    | [] => (value, [])

/-- Reads a decimal number of 32 bits with the blanks around it. -/
def number? (m : Mode) (cs : List Char) : Option (Nat × List Char) :=
  let cs := (m.skip cs).dropWhile Unicode.isWhiteSpace
  match decimalDigits m cs.length none cs with
  | (some n, rest) => if n < UInt32.size then some (n, rest.dropWhile Unicode.isWhiteSpace) else none
  | (none, _) => none

/-- Reads the counts of a repetition in braces, just after the opening brace. -/
def counts? (m : Mode) (cs : List Char) : Option (Nat × Option Nat × List Char) := do
  let (least, rest) ← number? m cs
  match rest with
  | '\x7d' :: rest => some (least, some least, rest)
  | ',' :: rest =>
    match m.skip rest with
    | '\x7d' :: rest => some (least, none, rest)
    | rest =>
      let (most, rest) ← number? m rest
      match rest with
      | '\x7d' :: rest => if least ≤ most then some (least, some most, rest) else none
      | _ => none
  | _ => none

/-- The pattern without a question mark in front, which would prefer few repetitions to many. -/
def dropLazy : List Char → List Char
  | '?' :: rest => rest
  | rest => rest

/-- Reads the piece that starts with the character `c`. -/
def piece? (x : Context) (c : Char) (rest : List Char) : Option Reading :=
  match c with
  | '(' => group? x rest
  | ')' =>
    match x.outer with
    | mode :: outer => some (.groupEnd, { x with mode, outer }, rest)
    | [] => none
  | '|' => some (.bar, x, rest)
  | '[' => (bracketClass? x.mode rest).map fun (s, rest) => (.atom ⟨.set s.chars, s.height⟩, x, rest)
  | '?' => some (.times 0 (some 1), x, dropLazy rest)
  | '*' => some (.times 0 none, x, dropLazy rest)
  | '+' => some (.times 1 none, x, dropLazy rest)
  | '\x7b' => (counts? x.mode rest).map fun (least, most, rest) => (.times least most, x, dropLazy (x.mode.skip rest))
  | '\\' => (escape? x.mode rest).map fun (e, rest) => (.atom { regex := e.regex x.mode }, x, rest)
  | '.' => x.mode.dot?.map fun s => (.atom { regex := .set s }, x, rest)
  | '^' => some (.atom { regex := .look x.mode.caret }, x, rest)
  | '$' => some (.atom { regex := .look x.mode.dollar }, x, rest)
  | c => some (.atom { regex := (Escape.literal c).regex x.mode }, x, rest)

/-- Cuts a pattern into pieces. Each piece takes a character at least, so that as many pieces as there are characters are
enough. -/
def pieces? : Nat → Context → List Char → Option (List Piece)
  | n, x, cs =>
    match n, x.mode.skip cs with
    | _, [] => some []
    | 0, _ :: _ => none
    | n + 1, c :: rest => do
      let (piece, x, rest) ← piece? x c rest
      return piece :: (← pieces? n x rest)

end RuleScanner.Pattern
