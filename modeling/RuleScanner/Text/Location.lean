/-!
# Points and spans of a text

A point is a line and a column; a location is a span between two points, both ends included. Points are ordered line first,
and a location is valid when its start does not come after its end. While a construct is open one end of its location is
still unset, and an unset end is the zero point; the location whose ends are both unset is the start of file.

Both coordinates are 32-bit words, so that the number that is counted is the number that is printed.
-/

namespace RuleScanner

/-- A place in a text. Lines count from 1. The first character of a line is at column 1, and a line feed is at column 0 of the
line that it opens. -/
structure Point where
  line : UInt32
  column : UInt32
  deriving DecidableEq, Repr, Inhabited

namespace Point

/-- The point that stands for an end that is not known yet. -/
def unset : Point := ⟨0, 0⟩

/-- `p` does not come after `q`: the line decides, and the column within one line. -/
protected def le (p q : Point) : Prop := p.line < q.line ∨ p.line = q.line ∧ p.column ≤ q.column

instance : LE Point := ⟨Point.le⟩

/-- `p` comes before `q`. -/
protected def lt (p q : Point) : Prop := p.line < q.line ∨ p.line = q.line ∧ p.column < q.column

instance : LT Point := ⟨Point.lt⟩

theorem le_def {p q : Point} : p ≤ q ↔ p.line < q.line ∨ p.line = q.line ∧ p.column ≤ q.column := Iff.rfl

theorem lt_def {p q : Point} : p < q ↔ p.line < q.line ∨ p.line = q.line ∧ p.column < q.column := Iff.rfl

instance (p q : Point) : Decidable (p ≤ q) := decidable_of_iff _ le_def.symm

instance (p q : Point) : Decidable (p < q) := decidable_of_iff _ lt_def.symm

theorem not_le {p q : Point} : ¬ p ≤ q ↔ q < p := by
  rw [le_def, lt_def, UInt32.lt_iff_toNat_lt, UInt32.lt_iff_toNat_lt, UInt32.lt_iff_toNat_lt, UInt32.le_iff_toNat_le,
    ← UInt32.toNat_inj, ← UInt32.toNat_inj]
  omega

theorem le_refl (p : Point) : p ≤ p := Or.inr ⟨rfl, UInt32.le_refl _⟩

theorem le_of_lt {p q : Point} (h : p < q) : p ≤ q := Or.imp_right (And.imp_right UInt32.le_of_lt) h

theorem le_trans {p q r : Point} (hpq : p ≤ q) (hqr : q ≤ r) : p ≤ r := by
  rw [le_def, UInt32.lt_iff_toNat_lt, UInt32.le_iff_toNat_le, ← UInt32.toNat_inj] at hpq hqr ⊢
  omega

/-- The text of a point: its line, a colon and its column. -/
def render (p : Point) : String := s!"{p.line}:{p.column}"

end Point

/-- A span of a text from `start` to `stop`, both included. -/
structure Location where
  start : Point
  stop : Point
  deriving DecidableEq, Repr, Inhabited

namespace Location

/-- The location of the start of file: both ends unset. -/
def startOfFile : Location := ⟨.unset, .unset⟩

/-- The span of one character. -/
def point (p : Point) : Location := ⟨p, p⟩

/-- A span that starts at `p` and whose end is not known yet. -/
def startingAt (p : Point) : Location := ⟨p, .unset⟩

/-- A span that ends at `p` and whose start is not known yet. -/
def endingAt (p : Point) : Location := ⟨.unset, p⟩

/-- A location is valid when its start does not come after its end. -/
def IsValid (l : Location) : Prop := l.start ≤ l.stop

instance (l : Location) : Decidable l.IsValid := inferInstanceAs (Decidable (l.start ≤ l.stop))

/-- The point `p` lies inside the span. -/
def Contains (l : Location) (p : Point) : Prop := l.start ≤ p ∧ p ≤ l.stop

instance (l : Location) (p : Point) : Decidable (l.Contains p) := inferInstanceAs (Decidable (_ ∧ _))

/-- The text of a location: its two points in parentheses, joined by a hyphen. -/
def render (l : Location) : String := s!"({l.start.render})-({l.stop.render})"

end Location

end RuleScanner
