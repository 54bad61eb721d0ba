import RuleScanner.Scan.Basic

/-!
# The history of a scan

For every activation of a scan a record of the steps on which it was opened and closed. Records stand in the order in which
their activations were pushed, so that the number of an activation is the place of its record.
-/

namespace RuleScanner

/-- An activation with the numbers of the steps on which it was opened and, if it was, closed. -/
structure Record where
  activation : Activation
  openedAt : Nat
  closedAt : Option Nat := none
  deriving Inhabited

namespace Record

/-- The activation was pushed before the other, and was still open then. -/
def encloses (r other : Record) : Bool :=
  r.activation.seq < other.activation.seq && r.closedAt.all (other.openedAt < ·)

end Record

/-- The records of the activations pushed so far. -/
abbrev History : Type := Array Record

namespace History

/-- An activation is opened on step `k`. -/
def opened (k : Nat) (h : History) (a : Activation) : History := h.push { activation := a, openedAt := k }

/-- An activation is closed on step `k`: its record takes the location that it has now. -/
def closed (k : Nat) (h : History) (a : Activation) : History :=
  h.modify a.seq fun r => { r with activation := a, closedAt := some k }

/-- The records after step `k`. -/
def add (h : History) (k : Nat) (step : Step) : History :=
  step.closed.foldl (closed k) (step.opened.foldl (opened k) h)

/-- The records of a list of steps, the first of which is numbered `k`, after the records `h`. -/
def addAll (h : History) (k : Nat) : List Step → History
  | [] => h
  | step :: steps => addAll (h.add k step) (k + 1) steps

end History

/-- The records of all activations of a scan, in the order in which they were pushed. -/
def Scan.history (s : Scan) : History := History.addAll #[] 0 s.steps.toList

end RuleScanner
