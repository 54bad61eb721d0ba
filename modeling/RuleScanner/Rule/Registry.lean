import RuleScanner.Fault
import RuleScanner.Rule.Basic

/-!
# The registry of rules

The rules of a scanner, in the order in which they were registered. A rule without a terminator is refused, and so is a rule
whose name is taken: a closed construct is told apart from others by the name of its rule.
-/

namespace RuleScanner

/-- The registered rules, first come first. -/
structure Registry where
  rules : List Rule := []
  deriving Inhabited

namespace Registry

/-- A registry without rules. -/
def empty : Registry := {}

/-- The registered rule of that name. -/
def get? (g : Registry) (name : String) : Option Rule := g.rules.find? (·.name == name)

/-- A rule of that name is registered. -/
def hasName (g : Registry) (name : String) : Bool := g.rules.any (·.name == name)

/-- Adds a rule at the end, unless it has no terminator or its name is taken. -/
def register (g : Registry) (rule : Rule) : Except Fault Registry :=
  if rule.terminator.isEmpty then .error (.emptyTerminator rule.name)
  else if g.hasName rule.name then .error (.duplicateName rule.name)
  else .ok { rules := g.rules ++ [rule] }

/-- The rules that may open on the character `c` at `index` of `text`, in order. -/
def candidates (g : Registry) (c : Char) (index : Nat) (text : Text) : List Rule :=
  g.rules.filter (·.accepts c index text)

end Registry

end RuleScanner
