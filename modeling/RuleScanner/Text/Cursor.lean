import RuleScanner.Text.Direction
import RuleScanner.Text.Location
import RuleScanner.Text.Word

/-!
# The cursor of a scan

A cursor stands on one character of a text and knows the point of that character. It moves one character at a time in its
direction, and counts lines and columns on the way. Going left over the start of a line it needs the column at which the line
above ends: with a column for every line crossed, a move to the left is the inverse of a move to the right; with one column
for all lines it is so only for the last line crossed.

A move to the right may leave the text. The cursor is then outside, with the point of the last character, and no move to the
left brings it back.
-/

namespace RuleScanner

/-- Which columns a cursor remembers for its moves to the left. -/
inductive ColumnMemory where
  /-- The last column of every line above. -/
  | everyLine
  /-- The last column of the line that was ended last. -/
  | lastLine
  deriving DecidableEq, Repr, Inhabited

/-- The name of a column memory. -/
def ColumnMemory.render : ColumnMemory → String
  | .everyLine => "Stack"
  | .lastLine => "SingleSlot"

/-- The columns that a cursor remembers. -/
inductive Columns where
  /-- The last columns of all lines above, the nearest line first. -/
  | everyLine (above : List UInt32)
  /-- The last column of the line that was ended last. -/
  | lastLine (column : UInt32)
  deriving DecidableEq, Repr, Inhabited

namespace Columns

/-- No line has ended yet. -/
def initial : ColumnMemory → Columns
  | .everyLine => .everyLine []
  | .lastLine => .lastLine 0

/-- A line has ended at `column`. -/
def record (column : UInt32) : Columns → Columns
  | .everyLine above => .everyLine (column :: above)
  | .lastLine _ => .lastLine column

end Columns

/-- One less, and zero for zero. -/
def pred (n : UInt32) : UInt32 := if n = 0 then 0 else n - 1

/-- A place in a text, with the direction of the scan and the columns that it remembers. -/
structure Cursor where
  index : Nat
  point : Point
  direction : Direction
  columns : Columns
  deriving DecidableEq, Repr, Inhabited

namespace Cursor

/-- The cursor before the first character, facing right. -/
def initial (memory : ColumnMemory) : Cursor where
  index := 0
  point := ⟨1, 0⟩
  direction := .right
  columns := .initial memory

/-- The cursor facing the given way. -/
def face (k : Cursor) (direction : Direction) : Cursor := { k with direction }

/-- The coordinates after the character `c` has been reached from its left. A line feed opens the next line. -/
def arriveRight (k : Cursor) (c : Char) : Cursor :=
  if c = '\n' then { k with point := ⟨k.point.line + 1, 0⟩, columns := k.columns.record k.point.column }
  else { k with point.column := k.point.column + 1 }

/-- The coordinates after the character `arriving` has been reached from `leaving` on its right. With a column for every line,
the line changes when a line feed is left; with one column for all lines, when a line feed is reached. -/
def arriveLeft (k : Cursor) (leaving arriving : Char) : Cursor :=
  match k.columns with
  | .everyLine above =>
    if leaving = '\n' then
      { k with point := ⟨pred k.point.line, above.headD 0⟩, columns := .everyLine above.tail }
    else { k with point.column := pred k.point.column }
  | .lastLine column =>
    if arriving = '\n' then { k with point := ⟨pred k.point.line, column⟩ }
    else { k with point.column := pred k.point.column }

/-- Goes to the first character. The answer is whether there is one. -/
def enter (k : Cursor) (text : Text) : Bool × Cursor :=
  match text[0]? with
  | some c => (true, { k.arriveRight c with index := 0 })
  | none => (false, k)

/-- Goes one character to the right. The answer is whether the cursor is on a character of the text then. -/
def moveRight (k : Cursor) (text : Text) : Bool × Cursor :=
  match text[k.index + 1]? with
  | some c => (true, { k.arriveRight c with index := k.index + 1 })
  | none => (false, { k with index := k.index + 1 })

/-- Goes one character to the left. The answer is whether it has moved: a cursor on the first character or outside the text
does not. -/
def moveLeft (k : Cursor) (text : Text) : Bool × Cursor :=
  match k.index with
  | 0 => (false, k)
  | i + 1 =>
    match text[i + 1]?, text[i]? with
    | some leaving, some arriving => (true, { k.arriveLeft leaving arriving with index := i })
    | _, _ => (false, k)

/-- Goes one character in the direction of the cursor. -/
def advance (k : Cursor) (text : Text) : Bool × Cursor :=
  match k.direction with
  | .right => k.moveRight text
  | .left => k.moveLeft text

/-- Goes `n` characters to the right, or to the end of the text. The answer is whether the cursor has met no end. -/
def forward (text : Text) : Nat → Cursor → Bool × Cursor
  | 0, k => (true, k)
  | n + 1, k =>
    match k.moveRight text with
    | (true, k') => forward text n k'
    | (false, k') => (false, k')

/-- Goes `n` characters to the left, or as far as there are any. -/
def backward (text : Text) : Nat → Cursor → Cursor
  | 0, k => k
  | n + 1, k =>
    match k.moveLeft text with
    | (true, k') => backward text n k'
    | (false, k') => k'

/-- Goes right to the index `target`, if it is not there or beyond. The answer is whether the cursor has met no end. -/
def skipTo (k : Cursor) (text : Text) (target : Nat) : Bool × Cursor := forward text (target - k.index) k

/-- Goes left to the index `target`, if it is not there or before. The answer is whether the cursor stands at `target`. -/
def skipBackTo (k : Cursor) (text : Text) (target : Nat) : Bool × Cursor :=
  let k' := backward text (k.index - target) k
  (k'.index == target, k')

/-- A scan to the left has nowhere left to go. -/
def atLeftEdge (k : Cursor) : Bool := k.direction == .left && k.index == 0

end Cursor

end RuleScanner
