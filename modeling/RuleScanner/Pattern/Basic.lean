import RuleScanner.Fault
import RuleScanner.Pattern.Piece
import RuleScanner.Pattern.Program
import RuleScanner.Pattern.Spans

/-!
# Patterns

A pattern is the text of a regular expression. `Pattern.parse?` reads one. Which sets a pattern can name, how deep it may nest and
how large a program it may need is not part of the syntax: an engine (`Pattern.Engine`) has limits of its own.

A word pattern is to match a word as a whole. It is put between the anchors of the text's two ends before it is given to the
engine, as a text: a parenthesis or a comment that the pattern leaves open, or closes without having opened it, reaches the
anchors too.
-/

namespace RuleScanner.Pattern

/-- What stands in a group: a part, or a change of mode, which cannot be repeated. -/
inductive Item where
  | part (part : Part)
  | modeChange
  deriving DecidableEq, Repr

/-- The part that a list of items makes, the last first. One item alone is no sequence. -/
def Item.sequence (items : List Item) : Part :=
  let whole := items.foldl (fun (whole : Part) item => match item with
    | .part p => ⟨p.regex.append whole.regex, max p.height whole.height⟩
    | .modeChange => whole) ⟨.empty, 0⟩
  if items.length < 2 then whole else { whole with height := whole.height + 1 }

/-- A group that is being read: its number, its finished branches and the items of the present one, the last first. -/
structure Group where
  number : Option Nat := none
  branches : List Part := []
  items : List Item := []
  deriving DecidableEq, Repr

namespace Group

/-- The group with one more item. -/
def add (g : Group) (item : Item) : Group := { g with items := item :: g.items }

/-- The group after a bar. -/
def bar (g : Group) : Group := { g with branches := Item.sequence g.items :: g.branches, items := [] }

/-- The part inside of a group that is read to its end. -/
def inside (g : Group) : Part :=
  match g.bar.branches with
  | [part] => part
  | parts => ⟨.alternate (parts.reverse.map (·.regex)), parts.foldl (fun n part => max n part.height) 0 + 1⟩

/-- The part of a group that is read to its end. -/
def close (g : Group) : Part :=
  let part := g.inside
  let regex := match g.number with
    | some number => .group number part.regex
    | none => part.regex
  ⟨regex, part.height + 1⟩

/-- The group with its last item repeated, if that can be. -/
def times? (g : Group) (least : Nat) (most : Option Nat) : Option Group :=
  match g.items with
  | .part p :: items => some { g with items := .part ⟨p.regex.repeated least most, p.height + 1⟩ :: items }
  | _ => none

end Group

/-- Puts pieces together. `outer` are the groups around the present one, the nearest first. -/
def assemble? (outer : List Group) (g : Group) : List Piece → Option Part
  | [] => if outer.isEmpty then some g.inside else none
  | .atom part :: rest => assemble? outer (g.add (.part part)) rest
  | .modeChange :: rest => assemble? outer (g.add .modeChange) rest
  | .groupStart number :: rest => assemble? (g :: outer) { number } rest
  | .groupEnd :: rest =>
    match outer with
    | [] => none
    | o :: outer => assemble? outer (o.add (.part g.close)) rest
  | .bar :: rest => assemble? outer g.bar rest
  | .times least most :: rest =>
    match g.times? least most with
    | some g => assemble? outer g rest
    | none => none

/-- The expression that a text is a pattern of, and how deep the pattern nests. -/
def parse? (database : Database) (pattern : List Char) : Option Part := do
  let pieces ← pieces? pattern.length (.start database) pattern
  assemble? [] {} pieces

/-- A pattern that an engine has accepted. -/
structure Compiled where
  /-- The pattern is found somewhere in a word. -/
  isMatch : (word : List Char) → Bool

/-- What makes a search of a pattern, or tells why it refuses the pattern. -/
structure Engine where
  compile : (pattern : List Char) → Except String Compiled

/-- How deep a pattern may nest. -/
def deepest : Nat := 250

/-- The pattern of the part does not nest too deep and has no program that is too large. -/
def Part.fits (part : Part) : Bool := part.height ≤ deepest && part.regex.fits

/-- The engine of this library. What is wrong with a text that is no pattern it does not say. -/
def Engine.standard : Engine where
  compile pattern :=
    match (parse? .standard pattern).filter (·.height ≤ deepest) with
    | some part =>
      if part.fits then .ok { isMatch := part.regex.isMatch }
      else .error s!"Compiled regex exceeds size limit of {Program.limit} bytes."
    | none => .error "regex parse error"

/-- A pattern between the anchors of the two ends of a text. -/
def anchored (pattern : List Char) : List Char := "\\A(?:".toList ++ pattern ++ ")\\z".toList

/-- What an engine makes of a word pattern. -/
def compile (pattern : String) (engine : Engine := .standard) : Except Fault Compiled :=
  (engine.compile (anchored pattern.toList)).mapError (.invalidPattern pattern)

end RuleScanner.Pattern
