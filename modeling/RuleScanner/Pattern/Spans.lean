import RuleScanner.Pattern.Regex

/-!
# Spans

An expression spans the part of a word between two of its places. Its spans are held as one number for each place of the word,
from the place before the first character on: if bit `d` of it is set, there is a span of `d` characters that starts at the
place. No span goes to the left, and so spans of spans can be put together from the last place backwards: a repetition takes
one pass over the word, however often it is used (`Spans.closure`).
-/

namespace RuleScanner

/-- For each place of a word the lengths of the spans that start at it, as the bits of a number. -/
abbrev Spans : Type := List Nat

namespace Spans

/-- The lengths reached in two steps: first by one of the lengths `first`, then by a span of `next` from the place reached,
where `next` begins with the place at which the first step starts. -/
def follow : (next : Spans) → (first : Nat) → Nat
  | [], _ => 0
  | lengths :: next, first =>
    if first = 0 then 0 else (if first % 2 = 1 then lengths else 0) ||| 2 * follow next (first / 2)

/-- A span of the one and then a span of the other. -/
def compose : Spans → Spans → Spans
  | first :: rest, lengths :: next => follow (lengths :: next) first :: compose rest next
  | _, _ => []

/-- A span of the one or of the other. -/
def union (xs ys : Spans) : Spans := List.zipWith (· ||| ·) xs ys

/-- The empty span at each of `n` places. -/
def stay (n : Nat) : Spans := List.replicate n 1

/-- Exactly `k` spans, one after the other. -/
def power (xs : Spans) : (k : Nat) → Spans
  | 0 => stay xs.length
  | k + 1 => compose xs (power xs k)

/-- Any number of spans, one after the other. Past its first span that is not empty, a row of spans goes on from a later
place. -/
def closure : Spans → Spans
  | [] => []
  | lengths :: rest => (1 ||| 2 * follow (closure rest) (lengths / 2)) :: closure rest

/-- Spans in a row, at least `least` and at most `most` if that is given. Of more spans than there are places one is empty, and
it can be left out or taken again. -/
def times (xs : Spans) (least : Nat) (most : Option Nat) : Spans :=
  let more := match most with
    | some most => if most - least < xs.length then power (union (stay xs.length) xs) (most - least) else closure xs
    | none => closure xs
  compose (power xs (min least xs.length)) more

/-- The spans of one character of a set. -/
def ofSet (chars : CharSet) (word : List Char) : Spans := word.map (fun c => if chars.contains c then 2 else 0) ++ [0]

/-- The empty spans at the places where a condition holds, `before` being the character before the first place. -/
def ofLook (condition : Look) (before : Option Char) : (word : List Char) → Spans
  | [] => [if condition.holds before none then 1 else 0]
  | c :: word => (if condition.holds before (some c) then 1 else 0) :: ofLook condition (some c) word

end Spans

namespace Regex

/-- The spans of `before` in a word, each followed by a span of the expression. Where no span starts nothing has to be
followed, so that an anchor in front spares the rest of an expression all the places but one. -/
def spansAfter (word : List Char) (before : Spans) : Regex → Spans
  | .empty => before
  | .set chars => before.compose (.ofSet chars word)
  | .look condition => before.compose (.ofLook condition none word)
  | .seq r s => s.spansAfter word (r.spansAfter word before)
  | .alt r s => (r.spansAfter word before).union (s.spansAfter word before)
  | .times r least most => before.compose ((r.spansAfter word (.stay (word.length + 1))).times least most)
  | .group _ r => r.spansAfter word before

/-- The spans of an expression in a word. -/
def spans (word : List Char) (r : Regex) : Spans := r.spansAfter word (.stay (word.length + 1))

/-- There is a span of the expression somewhere in the word. -/
def isMatch (r : Regex) (word : List Char) : Bool := (r.spans word).any (· != 0)

end Regex

end RuleScanner
