import RuleScanner.Pattern.Look

/-!
# Regular expressions

An expression is built by the functions of this module so that it takes the shape of which its program is made
(`RuleScanner.Pattern.Program`): a sequence is a chain of parts to the right, none of them empty or a sequence; a choice is a
chain of branches to the right, none of them a choice; a choice between single characters is one set; and what all branches of
a choice begin with stands in front of it. A character is the set of it alone.
-/

namespace RuleScanner

/-- A regular expression. -/
inductive Regex where
  | empty
  | set (chars : CharSet)
  | look (condition : Look)
  | seq (r s : Regex)
  | alt (r s : Regex)
  /-- The expression `r` at least `least` times in a row, and at most `most` times if that is given. -/
  | times (r : Regex) (least : Nat) (most : Option Nat)
  /-- The expression `r` in parentheses, the opening one being the one of that number. -/
  | group (number : Nat) (r : Regex)
  deriving DecidableEq, Repr, Inhabited

namespace Regex

/-- The expression spans nothing but empty parts of a word. -/
def onlyEmpty : Regex → Bool
  | .empty | .look _ => true
  | .set _ => false
  | .seq r s | .alt r s => r.onlyEmpty && s.onlyEmpty
  | .times r _ most => most == some 0 || most.isSome && r.onlyEmpty
  | .group _ r => r.onlyEmpty

/-- The expression has no span that is empty, and is not known to have none at all. -/
def neverEmpty (r : Regex) : Bool := (go r).any (0 < ·)
where
  /-- The least number of characters of a span, if every set in it has a character. -/
  go : Regex → Option Nat
    | .empty | .look _ => some 0
    | .set chars => if chars.isNone then none else some 1
    | .seq r s => do return (← go r) + (← go s)
    | .alt r s => do return min (← go r) (← go s)
    | .times r least _ => do return least * (← go r)
    | .group _ r => go r

/-- The expression spans only parts from the start of the word, as its anchors in front tell. -/
def fromStart : Regex → Bool
  | .look condition => condition == .textStart
  | .seq r s => r.fromStart || r.onlyEmpty && s.fromStart
  | .alt r s => r.fromStart && s.fromStart
  | .times r least _ => 0 < least && r.fromStart
  | .group _ r => r.fromStart
  | .empty | .set _ => false

/-- The expression spans only parts to the end of the word, as its anchors at the end tell. -/
def toEnd : Regex → Bool
  | .look condition => condition == .textEnd
  | .seq r s => s.toEnd || s.onlyEmpty && r.toEnd
  | .alt r s => r.toEnd && s.toEnd
  | .times r least _ => 0 < least && r.toEnd
  | .group _ r => r.toEnd
  | .empty | .set _ => false

/-- The expression is one character. -/
def isChar : Regex → Bool
  | .set chars => chars.only?.isSome
  | _ => false

/-- The expression is a set of more than one character, or of none. -/
def isClass : Regex → Bool
  | .set chars => chars.only?.isNone
  | _ => false

/-- The characters of a set. -/
def chars : Regex → CharSet
  | .set chars => chars
  | _ => .none

/-- The expression `r` and then `s`, as one chain. -/
def append : Regex → Regex → Regex
  | .empty, s => s
  | .seq r t, s => .seq r (t.append s)
  | r, .empty => r
  | r, s => .seq r s

/-- The expressions of a list, one after the other. -/
def sequence (rs : List Regex) : Regex := rs.foldr append .empty

/-- The parts of a chain. Characters in a row are one part. -/
def parts : Regex → List (List Regex)
  | .empty => []
  | .seq r s =>
    match s.parts with
    | (t :: run) :: rest => if r.isChar && t.isChar then (r :: t :: run) :: rest else [r] :: (t :: run) :: rest
    | rest => [r] :: rest
  | r => [[r]]

/-- The branches of a choice. -/
def branches : Regex → List Regex
  | .alt r s => r.branches ++ s.branches
  | r => [r]

/-- The choice between the branches of a list. -/
def choice : List Regex → Regex
  | [] => .set .none
  | [r] => r
  | r :: rs => .alt r (choice rs)

/-- What both lists begin with. -/
def commonStart {α : Type} [DecidableEq α] : List α → List α → List α
  | x :: xs, y :: ys => if x = y then x :: commonStart xs ys else []
  | _, _ => []

/-- The parts that all branches begin with, if each has more than one part. -/
def shared : List (List (List Regex)) → List (List Regex)
  | [] => []
  | first :: others =>
    if (first :: others).all (1 < ·.length) then others.foldl commonStart first else []

/-- The choice between branches of which none is a choice. What all begin with is put in front, `n` times at most. -/
def alternateFrom : (n : Nat) → List Regex → Regex
  | 0, rs => choice rs
  | n + 1, rs =>
    if rs.length < 2 then choice rs
    else if rs.all isChar || rs.all isClass then .set (.unions (rs.map chars))
    else
      match shared (rs.map parts) with
      | [] => choice rs
      | front =>
        let rests := rs.map fun r => sequence (r.parts.drop front.length).flatten
        (sequence front.flatten).append (alternateFrom n (rests.flatMap branches))

/-- The number of the parts of an expression that are not parts of a group or of a repetition. -/
def width : Regex → Nat
  | .seq r s | .alt r s => r.width + s.width
  | _ => 1

/-- The choice between the expressions of a list. Each time that branches lose what they begin with, fewer parts are left. -/
def alternate (rs : List Regex) : Regex := alternateFrom (rs.foldl (· + ·.width) 1) (rs.flatMap branches)

/-- The expression `r` repeated. To repeat what is empty more than once changes nothing. -/
def repeated (r : Regex) (least : Nat) (most : Option Nat) : Regex :=
  let (least, most) := if r.onlyEmpty then (min least 1, some (min (most.getD 1) 1)) else (least, most)
  if most = some 0 then .empty else if least = 1 ∧ most = some 1 then r else .times r least most

end Regex

end RuleScanner
