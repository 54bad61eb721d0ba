import RuleScanner.Error
import RuleScanner.Text.Direction

/-!
# Causes of errors

A fault is what went wrong, with all that its error has to say: the condition, the message and the location of the error are
functions of it.
-/

namespace RuleScanner

/-- What can go wrong when a rule is made or registered, or when a text is scanned. -/
inductive Fault where
  /-- No character can close the rule. -/
  | emptyTerminator (rule : String)
  /-- A rule of this name is registered. -/
  | duplicateName (rule : String)
  /-- The pattern is refused, for a reason that its engine gives. -/
  | invalidPattern (pattern reason : String)
  /-- The scan had one more character to read, at `index`, and no steps left of its `budget`. -/
  | stepLimit (budget index : Nat) (point : Point)
  /-- An activation of the rule, opened at `origin`, is still open at the end of the scan. -/
  | unclosed (rule : String) (direction : Direction) (origin : Point)
  deriving DecidableEq, Repr

namespace Fault

/-- The condition that a fault falls under. -/
def condition : Fault → Condition
  | .emptyTerminator _ => .invalidRule
  | .duplicateName _ => .duplicateRule
  | .invalidPattern .. => .invalidRule
  | .stepLimit .. => .stepLimit
  | .unclosed _ .right _ => .unterminatedRight
  | .unclosed _ .left _ => .unterminatedLeft

/-- The wording of a fault. -/
def message : Fault → String
  | .emptyTerminator rule => s!"rule `{rule}` has an empty terminator"
  | .duplicateName rule => s!"rule `{rule}` is already registered"
  | .invalidPattern pattern reason => s!"invalid pattern `{pattern}`: {reason}"
  | .stepLimit budget index _ => s!"scan stopped after {budget} steps at index {index}"
  | .unclosed rule _ origin => s!"rule `{rule}` opened at {origin.render} was never closed"

/-- The point that a fault of a scan refers to. -/
def point? : Fault → Option Point
  | .stepLimit _ _ point => some point
  | .unclosed _ _ origin => some origin
  | _ => none

/-- The error of a fault. -/
def toError (fault : Fault) : ScanError where
  code := .single fault.condition
  message := fault.message
  location := fault.point?.map .point

end Fault

end RuleScanner
