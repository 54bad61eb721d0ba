import RuleScanner.CharSet.Basic

/-!
# Characters as octets

A program for a pattern reads the octets of the UTF-8 form of a text. A set of characters is for it a list of rows of octet
ranges: a character is in the set if its octets are in the ranges of a row, one by one.
-/

namespace RuleScanner.Utf8

/-- The octets of the UTF-8 form of a code point. -/
def octets (n : Nat) : List Nat :=
  if n < 0x80 then [n]
  else if n < 0x800 then [0xC0 + n / 0x40, 0x80 + n % 0x40]
  else if n < 0x10000 then [0xE0 + n / 0x1000, 0x80 + n / 0x40 % 0x40, 0x80 + n % 0x40]
  else [0xF0 + n / 0x40000, 0x80 + n / 0x1000 % 0x40, 0x80 + n / 0x40 % 0x40, 0x80 + n % 0x40]

/-- A row of octet ranges, each with its two ends. -/
abbrev Row : Type := List (Nat × Nat)

/-- Where a range of code points has to be cut because its forms differ in length. -/
def lengthCut? (lo hi : Nat) : Option Nat := [0x80, 0x800, 0x10000].find? fun cut => lo < cut && cut ≤ hi

/-- Where a range of code points with forms of one length has to be cut because an octet behind two different ones does not
take all its values: at the end of the first block of code points if the range starts within it, else before the last. -/
def blockCut? (lo hi : Nat) : Option Nat :=
  [0x40, 0x1000, 0x40000].findSome? fun block =>
    if lo / block = hi / block then none
    else if lo % block ≠ 0 then some ((lo / block + 1) * block)
    else if hi % block ≠ block - 1 then some (hi / block * block)
    else none

/-- Where a range of code points has to be cut, if it is not one row. -/
def cut? (lo hi : Nat) : Option Nat :=
  match lengthCut? lo hi with
  | some cut => some cut
  | none => if hi < 0x80 then none else blockCut? lo hi

/-- The rows of a range of code points that needs at most `n` cuts inside of one another. -/
def rowsOfRange : (n lo hi : Nat) → List Row
  | 0, _, _ => []
  | n + 1, lo, hi =>
    match cut? lo hi with
    | some cut => rowsOfRange n lo (cut - 1) ++ rowsOfRange n cut hi
    | none => [(octets lo).zip (octets hi)]

/-- The rows of a set, in the order of its characters. There are three cuts by length, and two for each kind of block. -/
def rows (s : CharSet) : List Row := s.ranges.flatMap fun (lo, hi) => rowsOfRange 10 lo hi

/-- The rows that begin with the same range, together: each range and what follows it. -/
def byFirst : List Row → List ((Nat × Nat) × List Row)
  | [] => []
  | [] :: rows => byFirst rows
  | (range :: row) :: rows =>
    match byFirst rows with
    | (next, follow) :: groups =>
      if next = range then (range, row :: follow) :: groups else (range, [row]) :: (next, follow) :: groups
    | [] => [(range, [row])]

/-- What can follow in rows of at most `n` ranges, at their start and after every range but the last. -/
def continuations : (n : Nat) → List Row → List (List Row)
  | 0, _ => []
  | n + 1, rows =>
    match byFirst rows with
    | [] => []
    | groups => rows :: groups.flatMap fun (_, follow) => continuations n follow

/-- The number of different beginnings of rows of at most `n` ranges, but the empty one. -/
def beginnings : (n : Nat) → List Row → Nat
  | 0, _ => 0
  | n + 1, rows => ((byFirst rows).map fun (_, follow) => 1 + beginnings n follow).sum

end RuleScanner.Utf8
