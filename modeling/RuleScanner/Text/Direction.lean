/-!
# Directions
-/

namespace RuleScanner

/-- The way in which a scan moves over a text: to lower or to higher indices. -/
inductive Direction where
  | left
  | right
  deriving DecidableEq, Repr, Inhabited

/-- The name of a direction. -/
def Direction.render : Direction → String
  | .left => "Left"
  | .right => "Right"

end RuleScanner
