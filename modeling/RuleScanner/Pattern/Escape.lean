import RuleScanner.Pattern.Mode

/-!
# Escapes

What a backslash and the characters after it stand for: a literal character, a class, or a condition on a place.
-/

namespace RuleScanner.Pattern

/-- What an escape stands for. -/
inductive Escape where
  | literal (c : Char)
  | class (s : CharSet)
  | look (condition : Look)
  deriving DecidableEq, Repr, Inhabited

/-- The value of a hexadecimal digit. -/
def hexDigit? (c : Char) : Option Nat :=
  if '0' ≤ c ∧ c ≤ '9' then some (c.toNat - '0'.toNat)
  else if 'a' ≤ c ∧ c ≤ 'f' then some (c.toNat - 'a'.toNat + 10)
  else if 'A' ≤ c ∧ c ≤ 'F' then some (c.toNat - 'A'.toNat + 10)
  else none

/-- Reads `n` hexadecimal digits after a value `value`. -/
def hexDigits? (m : Mode) : (n value : Nat) → List Char → Option (Nat × List Char)
  | 0, value, cs => some (value, cs)
  | n + 1, value, cs => do
    let (c, rest) ← m.next? cs
    let d ← hexDigit? c
    hexDigits? m n (16 * value + d) rest

/-- Reads hexadecimal digits up to a closing brace, one at least. `value` is the value of those read, if any was. There are at
most `n` characters. -/
def hexToBrace? (m : Mode) : (n : Nat) → (value : Option Nat) → List Char → Option (Nat × List Char)
  | 0, _, _ => none
  | n + 1, value, cs => do
    let (c, rest) ← m.next? cs
    if c = '\x7d' then
      let value ← value
      return (value, rest)
    else
      let d ← hexDigit? c
      hexToBrace? m n (some (16 * value.getD 0 + d)) rest

/-- Reads the code point of a character, in braces or by exactly `n` digits. Two digits stand for an octet if classes are made
of octets. -/
def codePoint? (m : Mode) (n : Nat) (cs : List Char) : Option (Escape × List Char) := do
  let (value, rest) ← match m.next? cs with
    | some ('\x7b', rest) => hexToBrace? m rest.length none rest
    | _ => do
      let (value, rest) ← hexDigits? m n 0 cs
      if n = 2 && !m.allScripts && 0x80 ≤ value then none else some (value, rest)
  if value.isValidChar then some (.literal (Char.ofNat value), rest) else none

/-- Reads up to a closing brace. There are at most `n` characters. -/
def toBrace? (m : Mode) : (n : Nat) → List Char → Option (List Char × List Char)
  | 0, _ => none
  | n + 1, cs => do
    let (c, rest) ← m.next? cs
    if c = '\x7d' then return ([], rest)
    let (name, rest) ← toBrace? m n rest
    return (c :: name, rest)

/-- A text before and after the first of the characters `c`. -/
def splitAt? (c : Char) (cs : List Char) : Option (List Char × List Char) :=
  if cs.contains c then some (cs.takeWhile (· != c), (cs.dropWhile (· != c)).tail) else none

/-- A text before and after the first unequal sign. -/
def splitUnequal? : List Char → Option (List Char × List Char)
  | [] => none
  | '!' :: '=' :: rest => some ([], rest)
  | c :: rest => (splitUnequal? rest).map fun (name, value) => (c :: name, value)

/-- The set of a property in braces: a name, or a name and a value. What stands between name and value makes no
difference. -/
def bracedProperty? (database : Database) (inside : List Char) : Option CharSet :=
  match (splitUnequal? inside).orElse fun _ => (splitAt? ':' inside).orElse fun _ => splitAt? '=' inside with
  | some (name, value) => database.propertyValue? name value
  | none => database.property? inside

/-- Reads the name of a property, one letter or a name in braces. -/
def propertyName? (m : Mode) (cs : List Char) : Option (CharSet × List Char) := do
  let (c, rest) ← m.next? cs
  if c = '\x7b' then
    let (inside, rest) ← toBrace? m rest.length rest
    return (← bracedProperty? m.database inside, rest)
  else return (← m.database.property? [c], rest)

/-- Reads a property that characters have, or have not if it is `negated`. Octets have none. -/
def propertyEscape? (m : Mode) (negated : Bool) (cs : List Char) : Option (Escape × List Char) := do
  let (s, rest) ← propertyName? m cs
  if m.allScripts then return (.class (← m.negate? negated (m.fold s)), rest) else none

/-- A character that an escape leaves as it is: ASCII, neither a letter nor a digit, and not an angle bracket. -/
def isEscapable (c : Char) : Bool := c.toNat < 0x80 && !c.isAlphanum && c != '<' && c != '>'

/-- The condition that a word in braces after `\b` stands for. -/
def namedBoundary? (m : Mode) (name : String) : Option Look :=
  match name with
  | "start" => some (.wordStart m.word)
  | "end" => some (.wordEnd m.word)
  | "start-half" => some (.noWordBefore m.word)
  | "end-half" => some (.noWordAfter m.word)
  | _ => none

/-- What follows `\b`: a kind of boundary in braces, or nothing. Braces that begin with anything but a letter or a hyphen are
left for a repetition. -/
def boundary? (m : Mode) (cs : List Char) : Option (Escape × List Char) :=
  match cs with
  | '\x7b' :: rest => do
    let isName := fun c : Char => c.isAlpha || c == '-'
    let (c, _) ← m.next? rest
    if !isName c then return (.look (.boundary m.word), cs)
    let (name, rest) ← toBrace? m rest.length rest
    if name.all isName then return (.look (← namedBoundary? m (String.ofList name)), rest) else none
  | _ => some (.look (.boundary m.word), cs)

/-- Reads what follows a backslash. -/
def escape? (m : Mode) : List Char → Option (Escape × List Char)
  | [] => none
  | c :: rest =>
    match c with
    | 'x' => codePoint? m 2 rest
    | 'u' => codePoint? m 4 rest
    | 'U' => codePoint? m 8 rest
    | 'd' => some (.class m.digit, rest)
    | 's' => some (.class m.space, rest)
    | 'w' => some (.class m.word, rest)
    | 'D' => (m.negate? true m.digit).map fun s => (.class s, rest)
    | 'S' => (m.negate? true m.space).map fun s => (.class s, rest)
    | 'W' => (m.negate? true m.word).map fun s => (.class s, rest)
    | 'p' => propertyEscape? m false rest
    | 'P' => propertyEscape? m true rest
    | 'a' => some (.literal '\x07', rest)
    | 'f' => some (.literal '\x0c', rest)
    | 't' => some (.literal '\t', rest)
    | 'n' => some (.literal '\n', rest)
    | 'r' => some (.literal '\r', rest)
    | 'v' => some (.literal '\x0b', rest)
    | 'A' => some (.look .textStart, rest)
    | 'z' => some (.look .textEnd, rest)
    | 'b' => boundary? m rest
    | 'B' => some (.look (.noBoundary m.word), rest)
    | '<' => some (.look (.wordStart m.word), rest)
    | '>' => some (.look (.wordEnd m.word), rest)
    | _ => if isEscapable c then some (.literal c, rest) else none

end RuleScanner.Pattern
