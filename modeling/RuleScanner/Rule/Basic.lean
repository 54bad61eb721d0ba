import RuleScanner.Text.Direction
import RuleScanner.Text.Quoted
import RuleScanner.Text.Word
import RuleScanner.Token

/-!
# Rules and their activations

A rule says on which character a construct opens, which character closes it, and which way the scan goes while it is being
read. Each time a rule fires it makes an activation: the rule with a location of its own. An activation knows one end of its
location when it opens and the other when it closes.
-/

namespace RuleScanner

/-- A condition on the character `c` at `index` of a text, under which a rule may open there. -/
abbrev Matcher : Type := (c : Char) → (index : Nat) → (text : Text) → Bool

/-- The labels of a rule, one for each set of categories of a token. A label that is absent stands for the rule's name. -/
structure Labels where
  symbol : Option String := none
  referent : Option String := none
  expression : Option String := none
  deriving DecidableEq, Repr, Inhabited

/-- A rule. Of `symbol` and `terminator` the first character alone takes part in matching. -/
structure Rule where
  name : String
  symbol : String
  terminator : String
  direction : Direction := .right
  matcher : Option Matcher := none
  labels : Labels := {}
  deriving Inhabited

/-- The token of a construct: for each set of categories what its label names, or the name `name` where it has no label. -/
def Labels.token (labels : Labels) (name : String) (location : Location) : Token where
  location
  symbol := .ofLabel (labels.symbol.getD name)
  referent := .ofLabel (labels.referent.getD name)
  expression := .ofLabel (labels.expression.getD name)

/-- The text of a label that may be absent. -/
def Labels.renderLabel : Option String → String
  | none => "None"
  | some label => s!"Some({Quoted.text label})"

/-- The text of all labels. -/
def Labels.render (labels : Labels) : String :=
  let symbol := renderLabel labels.symbol
  let referent := renderLabel labels.referent
  let expression := renderLabel labels.expression
  s!"TokenLabels \x7b symbol: {symbol}, identifier_type: {referent}, expression_type: {expression} \x7d"

namespace Rule

/-- The character that opens the rule, or none for a rule that opens on any character. -/
def trigger (r : Rule) : Option Char := r.symbol.toList.head?

/-- The character that closes an activation of the rule. -/
def terminatorChar (r : Rule) : Option Char := r.terminator.toList.head?

/-- The rule may open on the character `c` at `index` of `text`: its trigger allows it, and so does its matcher. -/
def accepts (r : Rule) (c : Char) (index : Nat) (text : Text) : Bool :=
  r.trigger.all (· == c) && r.matcher.all (· c index text)

/-- The text of a rule. -/
def render (r : Rule) : String :=
  let name := Quoted.text r.name
  let symbol := Quoted.text r.symbol
  let terminator := Quoted.text r.terminator
  s!"TokenRule \x7b name: {name}, symbol: {symbol}, terminator: {terminator}, direction: {r.direction.render}, " ++
    s!"matcher: {r.matcher.isSome}, labels: {r.labels.render} \x7d"

end Rule

/-- A rule that has fired, with its location and its place `seq` in the order of all activations of a scan. -/
structure Activation where
  rule : Rule
  location : Location
  seq : Nat
  deriving Inhabited

namespace Activation

/-- The activation of a rule that opens at `p`: a rightward rule starts there, a leftward rule ends there. -/
def opening (rule : Rule) (p : Point) (seq : Nat) : Activation where
  rule
  location := match rule.direction with
    | .right => .startingAt p
    | .left => .endingAt p
  seq

/-- The activation closes on the character `c`. -/
def closesOn (a : Activation) (c : Char) : Bool := a.rule.terminatorChar == some c

/-- The activation closed at `p`, which becomes the end of its location that was not known. -/
def closeAt (a : Activation) (p : Point) : Activation :=
  match a.rule.direction with
  | .right => { a with location := { a.location with stop := p } }
  | .left => { a with location := { a.location with start := p } }

/-- The point at which the activation opened. -/
def origin (a : Activation) : Point :=
  match a.rule.direction with
  | .right => a.location.start
  | .left => a.location.stop

/-- The token of the activation. -/
def token (a : Activation) : Token := a.rule.labels.token a.rule.name a.location

end Activation

end RuleScanner
