import RuleScanner.Rule.Basic

/-!
# The stack of open activations

The open activations, the latest on top. Only the top can close, so a construct never closes around one that is still open
inside it. Activations are numbered in the order in which they were pushed, and no number is used again before a clear.
-/

namespace RuleScanner

/-- The open activations, top first, and how many were pushed since the last clear. -/
structure Stack where
  items : List Activation := []
  pushed : Nat := 0
  deriving Inhabited

namespace Stack

/-- The stack of no activations. -/
def empty : Stack := {}

/-- The activation that may close next. -/
def top? (s : Stack) : Option Activation := s.items.head?

/-- The open activations, bottom first. -/
def toList (s : Stack) : List Activation := s.items.reverse

/-- How many activations are open. -/
def size (s : Stack) : Nat := s.items.length

/-- No activation is open. -/
def isEmpty (s : Stack) : Bool := s.items.isEmpty

/-- The activation that the next push of `rule` at `p` makes. -/
def next (s : Stack) (rule : Rule) (p : Point) : Activation := .opening rule p s.pushed

/-- Opens an activation of `rule` at `p` on top of the others. -/
def push (s : Stack) (rule : Rule) (p : Point) : Stack where
  items := s.next rule p :: s.items
  pushed := s.pushed + 1

/-- The activations that the character `c` at `p` closes, top first: from the top down to the first that `c` does not close. -/
def closing (s : Stack) (c : Char) (p : Point) : List Activation :=
  (s.items.takeWhile (·.closesOn c)).map (·.closeAt p)

/-- The stack without the activations that the character `c` closes. -/
def close (s : Stack) (c : Char) : Stack := { s with items := s.items.dropWhile (·.closesOn c) }

end Stack

end RuleScanner
