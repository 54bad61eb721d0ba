import RuleScanner.Pattern.Escape

/-!
# Classes in brackets

A class in brackets is a union of characters, ranges, escapes and further classes. Unions are joined, from left to right, by
intersection, difference and symmetric difference. If case does not count, each operand takes all its case forms before it is
joined, and the whole before it is negated.
-/

namespace RuleScanner.Pattern

/-- What joins two unions in brackets. -/
inductive SetOperator where
  | inter
  | diff
  | symmDiff
  deriving DecidableEq, Repr

/-- The set that an operator makes of two. -/
def SetOperator.apply : SetOperator → CharSet → CharSet → CharSet
  | .inter => .inter
  | .diff => .diff
  | .symmDiff => .symmDiff

/-- How far the reading of a class has come: a hyphen is a literal until something else has been read, and a closing bracket
is one if it is the first of all. -/
inductive BracketPlace where
  | first
  | afterHyphens
  | inside
  deriving DecidableEq, Repr

/-- A set that has been read, and how deep the brackets, unions and operators of its text lie in one another. -/
structure Operand where
  chars : CharSet := .none
  height : Nat := 0
  deriving DecidableEq, Repr

/-- A class that is being read: the operand and operator before the present union, and the union so far with the number of its
items. -/
structure Bracket where
  negated : Bool
  before : Option (Operand × SetOperator) := none
  items : Nat := 0
  union : Operand := {}
  place : BracketPlace := .first
  deriving DecidableEq, Repr

namespace Bracket

/-- The class with one more item. -/
def add (b : Bracket) (item : Operand) : Bracket :=
  { b with
    items := b.items + 1
    union := ⟨.union b.union.chars item.chars, max b.union.height item.height⟩
    place := .inside }

/-- The class with one more character. -/
def addChar (b : Bracket) (c : Char) : Bracket := b.add { chars := .single c }

/-- The operands so far as one. One item alone is no union. -/
def operand (m : Mode) (b : Bracket) : Operand :=
  let height := if b.items < 2 then b.union.height else b.union.height + 1
  match b.before with
  | some (s, op) => ⟨op.apply (m.fold s.chars) (m.fold b.union.chars), max s.height height + 1⟩
  | none => ⟨b.union.chars, height⟩

/-- The class after an operator. -/
def join (m : Mode) (b : Bracket) (op : SetOperator) : Bracket :=
  { negated := b.negated, before := some (b.operand m, op), place := .inside }

/-- The set of a class that is read to its end. -/
def close? (m : Mode) (b : Bracket) : Option Operand := do
  let s := b.operand m
  return ⟨← m.negate? b.negated (m.fold s.chars), s.height + 1⟩

end Bracket

/-- Reads the caret that negates a class, just after its opening bracket. -/
def openBracket (m : Mode) (cs : List Char) : Bracket × List Char :=
  match m.skip cs with
  | '^' :: rest => ({ negated := true }, rest)
  | rest => ({ negated := false }, rest)

/-- Reads a class by name, such as `[:alpha:]` or `[:^digit:]`, just after its opening bracket. The answer is whether it is
negated, the class, and the rest. -/
def namedClass? : List Char → Option (Bool × CharSet × List Char)
  | ':' :: rest =>
    let (negated, rest) := match rest with
      | '^' :: rest => (true, rest)
      | rest => (false, rest)
    match rest.dropWhile (· != ':') with
    | ':' :: ']' :: after =>
      (asciiClass? (String.ofList (rest.takeWhile (· != ':')))).map fun s => (negated, s, after)
    | _ => none
  | _ => none

/-- Reads one character or escape of a class. A class of octets has no other characters than those of ASCII. -/
def bracketAtom? (m : Mode) (cs : List Char) : Option (Escape × List Char) := do
  let (e, rest) ← match cs with
    | [] => none
    | '\\' :: rest => escape? m rest
    | c :: rest => some (.literal c, rest)
  match e with
  | .literal c => if m.allScripts || c.toNat < 0x80 then some (e, rest) else none
  | _ => some (e, rest)

/-- The set of an escape that stands alone in a class. A condition on a place is no set. -/
def Escape.set? : Escape → Option CharSet
  | .literal c => some (.single c)
  | .class s => some s
  | .look _ => none

/-- The character by which a hyphen is told from an operator: the first after blanks, a number sign among them being passed
over once. -/
def afterHyphen? (m : Mode) (cs : List Char) : Option Char :=
  if m.extended then
    match cs.dropWhile Unicode.isWhiteSpace with
    | '#' :: rest => (rest.dropWhile Unicode.isWhiteSpace).head?
    | rest => rest.head?
  else cs.head?

/-- Reads a character, an escape or a range of a class. A hyphen before a closing bracket or another hyphen makes no range. -/
def bracketItem? (m : Mode) (cs : List Char) : Option (CharSet × List Char) := do
  let (lo, rest) ← bracketAtom? m cs
  match m.skip rest with
  | [] => none
  | '-' :: after =>
    if afterHyphen? m after == some ']' || afterHyphen? m after == some '-' then return (← lo.set?, '-' :: after)
    let (hi, rest) ← bracketAtom? m (m.skip after)
    match lo, hi with
    | .literal lo, .literal hi => if lo ≤ hi then some (.range lo hi, rest) else none
    | _, _ => none
  | rest => return (← lo.set?, rest)

/-- Reads a class to its closing bracket. `outer` are the classes around it, the nearest first. Each call takes a character at
least, so that as many calls as there are characters are enough. -/
def brackets? (m : Mode) : Nat → (outer : List Bracket) → Bracket → List Char → Option (Operand × List Char)
  | 0, _, _, _ => none
  | n + 1, outer, b, cs =>
    match m.skip cs with
    | [] => none
    | c :: rest =>
      if c = '-' && b.place != .inside then
        brackets? m n outer { b.addChar '-' with place := .afterHyphens } rest
      else if c = ']' && b.place == .first then brackets? m n outer (b.addChar ']') rest
      else if c = ']' then
        match b.close? m, outer with
        | none, _ => none
        | some s, [] => some (s, rest)
        | some s, o :: outer => brackets? m n outer (o.add s) rest
      else if c = '[' then
        match namedClass? rest with
        | some (negated, s, rest) =>
          match m.negate? negated (m.fold s) with
          | some chars => brackets? m n outer (b.add { chars }) rest
          | none => none
        | none =>
          let (inner, rest) := openBracket m rest
          brackets? m n (b :: outer) inner rest
      else if c = '&' && rest.head? == some '&' then brackets? m n outer (b.join m .inter) rest.tail
      else if c = '-' && rest.head? == some '-' then brackets? m n outer (b.join m .diff) rest.tail
      else if c = '~' && rest.head? == some '~' then brackets? m n outer (b.join m .symmDiff) rest.tail
      else
        match bracketItem? m (c :: rest) with
        | some (chars, rest) => brackets? m n outer (b.add { chars }) rest
        | none => none

/-- Reads a class just after its opening bracket. -/
def bracketClass? (m : Mode) (cs : List Char) : Option (Operand × List Char) :=
  let (b, rest) := openBracket m cs
  brackets? m (rest.length + 1) [] b rest

end RuleScanner.Pattern
