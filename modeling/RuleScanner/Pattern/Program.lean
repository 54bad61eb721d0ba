import RuleScanner.Pattern.Regex
import RuleScanner.Pattern.Utf8
import RuleScanner.Text.Direction

/-!
# The program of a pattern

A pattern is refused if the program that would search for it does not fit into memory. There are two programs, one that reads
a text to the right and one that reads it to the left; both have states, and a state may list transitions to others. What
counts is their size alone, which can be told from the expression: a repetition repeats the states of what it repeats.
How many bytes a state takes, and how many are too many, is a matter of the engine and not of the syntax.

The states of an expression form a fragment with one entry and one end. The end is linked to whatever comes next. A link from
an end that is a fork takes room in its list; a link from any other end takes none.
-/

namespace RuleScanner.Program

/-- The number of bytes of a state. -/
def state : Nat := 32

/-- The number of bytes of a transition in the list of a state that reads one of several octet ranges. -/
def transition : Nat := 8

/-- The number of bytes of a link in the list of a fork. -/
def link : Nat := 4

/-- The number of bytes of the largest program. -/
def limit : Nat := 10 * 1024 * 1024

/-- The states of an expression. -/
inductive Fragment where
  /-- States with one entry. `fork` tells whether the end is a fork, `octets` what is read if it is one text only. -/
  | block (size : Nat) (fork : Bool) (octets : Option (List Nat))
  /-- The branches of a choice, with their links, and what is read if each of them is one text only. -/
  | branches (size : Nat) (octets : Option (List (List Nat)))

/-- The runs of texts between the empty ones. -/
def runs : List (List Nat) → List (List (List Nat))
  | [] => [[]]
  | [] :: texts => [] :: runs texts
  | text :: texts =>
    match runs texts with
    | run :: others => (text :: run) :: others
    | [] => [[text]]

/-- The texts with one empty text in front at most. -/
def withoutRepeats (texts : List (List Nat)) : List (List Nat) :=
  if texts.head? = some [] then [] :: texts.dropWhile (·.isEmpty) else texts

/-- The size of the states that read one of several texts of at most `n` octets, octet by octet. A place is a fork over the
runs of texts that are still possible there; a run has one state for its next octets. A place where nothing is left to be read
has no state. -/
def treeSize : (n : Nat) → (texts : List (List Nat)) → Nat
  | 0, _ => 0
  | n + 1, texts =>
    let all := runs (withoutRepeats texts)
    let going := all.filter (!·.isEmpty)
    if going.isEmpty then 0
    else
      let sizes := going.map fun run =>
        let firsts := (run.filterMap (·.head?)).eraseDups
        let below := firsts.map fun octet => treeSize n ((run.filter (·.head? == some octet)).map (·.tail))
        state + (if firsts.length = 1 then 0 else transition * firsts.length) + below.sum
      state + link * (going.length + (all.length - 1)) + sizes.sum

namespace Fragment

/-- The size of the states that read one of several texts. -/
def textsSize (texts : List (List Nat)) : Nat := state + treeSize (texts.foldl (fun n text => max n text.length) 0) texts

/-- The size of a fragment. A choice has a fork in front of its branches and one end behind them. -/
def size : Fragment → Nat
  | .block size _ _ => size
  | .branches _ (some texts) => textsSize texts
  | .branches size none => 2 * state + size

/-- The end of the fragment is a fork. -/
def fork : Fragment → Bool
  | .block _ fork _ => fork
  | .branches _ _ => false

/-- The room that a link from the end of the fragment takes. -/
def endLink (f : Fragment) : Nat := if f.fork then link else 0

/-- The size of a fragment whose end is linked. -/
def linked (f : Fragment) : Nat := f.size + f.endLink

/-- The size of a fragment as a part of a choice, with the links to its branches. -/
def asBranches : Fragment → Nat
  | .branches size _ => size
  | f => link + f.linked

/-- The texts of a fragment that reads nothing but one of some texts. -/
def texts : Fragment → Option (List (List Nat))
  | .block _ _ octets => octets.map ([·])
  | .branches _ octets => octets

/-- The text of a fragment that reads one text only. -/
def text : Fragment → Option (List Nat)
  | .block _ _ octets => octets
  | .branches _ _ => none

/-- States without a text. -/
def plain (size : Nat) : Fragment := .block size false none

/-- One fragment and then another, in the order in which the text is read. -/
def append (f g : Fragment) : Fragment :=
  .block (f.linked + g.size) g.fork (do return (← f.text) ++ (← g.text))

/-- A choice between the branches of two fragments. -/
def either (f g : Fragment) : Fragment :=
  .branches (f.asBranches + g.asBranches) (do return (← f.texts) ++ (← g.texts))

/-- A fragment `n` times. -/
def copies (f : Fragment) (n : Nat) : Fragment :=
  if n = 0 then plain state else .block (n * f.size + (n - 1) * f.endLink) f.fork none

/-- A fragment repeated. `neverEmpty` tells that it reads a character at least: then the fork that repeats it can also leave it
out. -/
def times (f : Fragment) (neverEmpty : Bool) (least : Nat) (most : Option Nat) : Fragment :=
  match most with
  | none =>
    if 0 < least then .block (least * f.linked + state + link) true none
    else if neverEmpty then .block (f.linked + state + link) true none
    else plain (f.linked + 3 * state + 4 * link)
  | some most =>
    if least = 0 ∧ most = 1 then plain (f.linked + 2 * state + 2 * link)
    else if least = most then f.copies least
    else plain ((f.copies least).linked + state + (most - least) * (state + 2 * link + f.linked))

end Fragment

/-- The states that read a character of a set. One character is read octet by octet; a set of ASCII has one state for its
ranges. To the right, other sets share the states after which the same can follow; to the left, they are a fork over rows of
states that share what they begin with. -/
def ofSet (direction : Direction) (chars : CharSet) : Fragment :=
  match chars.only? with
  | some n =>
    let octets := Utf8.octets n
    .block (state * octets.length) false (some (if direction = .right then octets else octets.reverse))
  | none =>
    if chars.isNone then .plain (2 * state)
    else if chars.isAscii then .plain (2 * state + transition * chars.ranges.length)
    else
      let rows := Utf8.rows chars
      match direction with
      | .right =>
        let places := (Utf8.continuations 4 rows).eraseDups
        .plain (places.foldl (fun n rows => n + state + transition * (Utf8.byFirst rows).length) state)
      | .left => .plain (state * (2 + Utf8.beginnings 4 rows) + link * rows.length)

/-- The states of an expression. Only the program to the right keeps where groups start and end. -/
def ofRegex (direction : Direction) : Regex → Fragment
  | .empty | .look _ => .plain state
  | .set chars => ofSet direction chars
  | .seq r s =>
    match direction with
    | .right => (ofRegex direction r).append (ofRegex direction s)
    | .left => (ofRegex direction s).append (ofRegex direction r)
  | .alt r s => (ofRegex direction r).either (ofRegex direction s)
  | .times r least most => (ofRegex direction r).times r.neverEmpty least most
  | .group _ r =>
    match direction with
    | .right => .plain ((ofRegex direction r).linked + 2 * state)
    | .left => ofRegex direction r

/-- The size of the program of an expression. It starts by passing over any octets, unless it is anchored where it starts, and
ends in one state more; to the right it keeps where the whole starts and ends. -/
def size (direction : Direction) (r : Regex) : Nat :=
  let body := (ofRegex direction r).linked + state
  match direction with
  | .right => (if r.fromStart then state else anyOctets) + 2 * state + body
  | .left => (if r.toEnd then state else anyOctets) + body
where
  /-- The size of the states that pass over any octets. -/
  anyOctets : Nat := 3 * state + transition + 2 * link

end RuleScanner.Program

namespace RuleScanner.Regex

/-- The programs of the expression are not too large. -/
def fits (r : Regex) : Bool := Program.size .right r ≤ Program.limit && Program.size .left r ≤ Program.limit

end RuleScanner.Regex
