import RuleScanner.Rule.Registry
import RuleScanner.Rule.Stack
import RuleScanner.Text.CursorLemmas
import RuleScanner.Text.Trivia

/-!
# The scan of a text

A scan visits one character a step, from the first one on, in the direction that the activation opened last has given it.
Before a step it jumps over the comments under the cursor. A step then does the following, in order.

1. A blank may yield a token.
2. The activations on top of the stack that the character closes are popped.
3. Every rule that may open on the character is pushed, unless an activation of it has just closed, and each push turns the
   cursor to the direction of its rule.
4. The popped activations yield their tokens, the innermost first.
5. The cursor moves on. Past the last character, and to the left of the first, the scan is over.

A scan may go to and fro without end. It is cut off when it has used up its steps and has one more character to visit.
Whatever can be asked of a scan afterwards is read off the steps that it has made.
-/

namespace RuleScanner

/-- A comment that a scan has jumped over, from the index where it met it to the comment's other end. -/
structure Skip where
  direction : Direction
  origin : Nat
  target : Nat
  deriving DecidableEq, Repr

/-- One step of a scan: the comments that it jumped over before, the character and the direction in which it was met, and what
it did. -/
structure Step where
  skipped : List Skip
  index : Nat
  char : Char
  point : Point
  direction : Direction
  /-- The token of a blank. -/
  blank : Option Token
  /-- The activations opened, in order. -/
  opened : List Activation
  /-- The activations closed, the innermost first. -/
  closed : List Activation
  deriving Inhabited

/-- The tokens of a step: that of a blank, then those of the closed activations. -/
def Step.tokens (s : Step) : List Token := s.blank.toList ++ s.closed.map Activation.token

/-- The choices that a scan leaves open: how columns are remembered, and how long it may go on. -/
structure Config where
  memory : ColumnMemory := .everyLine
  /-- The most steps that a scan may make. Without a number it is sixty-four for each character, and sixty-four more. -/
  maxSteps : Option Nat := none
  deriving DecidableEq, Repr, Inhabited

/-- The most steps of a scan of a text of `length` characters. The number is not cut off at the largest machine word: it comes to
that only for texts of some 2 ^ 58 characters, more than any memory holds. -/
def Config.budget (config : Config) (length : Nat) : Nat := config.maxSteps.getD (64 * length + 64)

/-- The state of a scan between two steps. -/
structure ScanState where
  cursor : Cursor
  stack : Stack := {}
  steps : Array Step := #[]

/-- A scan that is over: its steps, the comments it jumped over after the last one, the activations that are still open, and
the fault that has cut it off, if one has. -/
structure Scan where
  steps : Array Step := #[]
  skipped : List Skip := []
  stack : Stack := {}
  cutOff : Option Fault := none
  deriving Inhabited

namespace Scan

/-- Jumps over the comment under the cursor, if there is one. The answer tells whether the cursor is on a character that may
be visited then. A comment to the left that starts with the first character leaves nothing to visit. -/
def jump? (trivia : Trivia) (text : Text) (c : Char) (k : Cursor) : Option (Skip × Bool × Cursor) :=
  match k.direction with
  | .right =>
    let stop := trivia.commentEnd k.index text
    if trivia.startsComment c k.index text && k.index < stop then some (⟨.right, k.index, stop⟩, k.skipTo text stop)
    else none
  | .left =>
    match trivia.commentStart? k.index text with
    | some 0 => some (⟨.left, k.index, 0⟩, false, k)
    | some (i + 1) => if i < k.index then some (⟨.left, k.index, i + 1⟩, k.skipBackTo text i) else none
    | none => none

/-- How many characters there are in front of the cursor, its own included if it faces right. -/
def room (text : Text) (k : Cursor) : Nat :=
  match k.direction with
  | .right => text.length - k.index
  | .left => k.index

/-- A jump after which there is a character to visit brings the cursor on its way. -/
theorem room_lt_of_jump? {trivia : Trivia} {text : Text} {c : Char} {k k' : Cursor} {skip : Skip}
    (hc : text[k.index]? = some c) (h : jump? trivia text c k = some (skip, true, k')) : room text k' < room text k := by
  obtain ⟨hlt, -⟩ := List.getElem?_eq_some_iff.1 hc
  unfold jump? at h
  split at h
  · next hd =>
    simp only [Option.ite_none_right_eq_some, Bool.and_eq_true, decide_eq_true_eq, Option.some.injEq, Prod.mk.injEq] at h
    obtain ⟨⟨-, hstop⟩, -, hskip⟩ := h
    have hd' : k'.direction = .right := by rw [← hd, ← Cursor.skipTo_direction k text (trivia.commentEnd k.index text), hskip]
    obtain ⟨h₁, h₂⟩ := Cursor.forward_index hskip
    have := h₂ (by omega)
    simp only [room, hd, hd']
    omega
  · next hd =>
    split at h
    · simp at h
    · next i _ =>
      simp only [Option.ite_none_right_eq_some, Option.some.injEq, Prod.mk.injEq] at h
      obtain ⟨hi, -, hskip⟩ := h
      have hd' : k'.direction = .left := by rw [← hd, ← Cursor.skipBackTo_direction k text i, hskip]
      simp only [Cursor.skipBackTo, Prod.mk.injEq, beq_iff_eq] at hskip
      obtain ⟨h₁, rfl⟩ := hskip
      simp only [room, hd, hd']
      omega
    · simp at h

/-- Jumps over all comments under the cursor. The answer is the comments, the character to visit, if there is one left, and
the cursor. -/
def settle (trivia : Trivia) (text : Text) (k : Cursor) : List Skip × Option Char × Cursor :=
  match _ : text[k.index]? with
  | none => ([], none, k)
  | some c =>
    match _ : jump? trivia text c k with
    | none => ([], some c, k)
    | some (skip, false, k') => ([skip], none, k')
    | some (skip, true, k') =>
      let (skips, visit, k'') := settle trivia text k'
      (skip :: skips, visit, k'')
termination_by room text k
decreasing_by exact room_lt_of_jump? (by assumption) (by assumption)

/-- Opens the rules in order at `p`, and collects the activations. -/
def openAll (p : Point) : List Rule → Stack → List Activation × Stack
  | [], stack => ([], stack)
  | rule :: rules, stack =>
    let (opened, stack') := openAll p rules (stack.push rule p)
    (stack.next rule p :: opened, stack')

/-- The rules that open on the character `c` at `index`: those that may, less those of which an activation has just closed. -/
def opening (registry : Registry) (closed : List Activation) (c : Char) (index : Nat) (text : Text) : List Rule :=
  (registry.candidates c index text).filter fun rule => !closed.any (·.rule.name == rule.name)

/-- The step on the character `c` under the cursor, after the jumps `skipped`, and the stack and the direction after it. -/
def step (registry : Registry) (trivia : Trivia) (text : Text) (skipped : List Skip) (c : Char) (k : Cursor) (stack : Stack) :
    Step × Stack × Direction :=
  let blank := if Unicode.isWhiteSpace c then trivia.blankToken c (.point k.point) else none
  let closed := stack.closing c k.point
  let (opened, stack) := openAll k.point (opening registry closed c k.index text) (stack.close c)
  let direction := (opened.getLast?.map (·.rule.direction)).getD k.direction
  ({ skipped, index := k.index, char := c, point := k.point, direction := k.direction, blank, opened, closed }, stack,
    direction)

/-- Goes on with a scan of at most `budget` steps that has `left` of them left. -/
def run (registry : Registry) (trivia : Trivia) (text : Text) (budget : Nat) : (left : Nat) → ScanState → Scan
  | left, s =>
    match left, settle trivia text s.cursor with
    | _, (skipped, none, _) => { steps := s.steps, skipped, stack := s.stack }
    | 0, (skipped, some _, k) =>
      { steps := s.steps, skipped, stack := s.stack, cutOff := some (.stepLimit budget k.index k.point) }
    | left + 1, (skipped, some c, k) =>
      let (made, stack, direction) := step registry trivia text skipped c k s.stack
      let k := k.face direction
      let steps := s.steps.push made
      if k.atLeftEdge then { steps, stack }
      else run registry trivia text budget left { cursor := (k.advance text).2, stack, steps }

/-- The scan of a text. -/
def ofText (registry : Registry) (trivia : Trivia) (config : Config) (text : Text) : Scan :=
  let budget := config.budget text.length
  run registry trivia text budget budget { cursor := ((Cursor.initial config.memory).enter text).2 }

/-! ## What a scan has found -/

/-- The tokens of a scan, in the order in which they were found. -/
def tokens (s : Scan) : List Token := s.steps.toList.flatMap Step.tokens

/-- The activations that are still open, bottom first. -/
def openActivations (s : Scan) : List Activation := s.stack.toList

/-- The fault of an activation that is still open. -/
def unclosed (a : Activation) : Fault := .unclosed a.rule.name a.rule.direction a.origin

/-- All that has gone wrong: the cut, then each activation that is still open, bottom first. -/
def faults (s : Scan) : List Fault := s.cutOff.toList ++ s.openActivations.map unclosed

/-- The error of a scan, if anything has gone wrong: all faults as one. -/
def error? (s : Scan) : Option ScanError := ScanError.combine (s.faults.map Fault.toError)

end Scan

end RuleScanner
