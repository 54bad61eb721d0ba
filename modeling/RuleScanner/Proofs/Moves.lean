import RuleScanner.Proofs.Coordinates

/-!
# Where the moves of a cursor lead

A cursor that has entered a text can be told to move on, to turn, and to skip to an index on either side, in any order and with any
index. As long as it is on a character of the text, its coordinates are those of its index (`Cursor.exact_ofMoves`), a skip to
the right ends on its target or just behind the text (`Cursor.skipTo_of_lt`), and a skip to the left ends on its target unless that
lies to the right (`Cursor.skipBackTo_of_lt`).

A cursor behind the text stays there, with the coordinates of the last character. It still counts the moves to the right, and a
skip to the right is one such move, however far away its target is (`Cursor.skipTo_of_length_le`).
-/

namespace RuleScanner

namespace Text

/-- The indices among the first `n` at which the text has the character `c`, in increasing order. -/
def indicesOf (text : Text) (c : Char) (n : Nat) : List Nat := (List.range n).filter fun i => text[i]? = some c

theorem indicesOf_succ (text : Text) (c : Char) (n : Nat) :
    text.indicesOf c (n + 1) = text.indicesOf c n ++ if text[n]? = some c then [n] else [] := by
  rw [indicesOf, List.range_succ, List.filter_append]
  by_cases h : text[n]? = some c <;> simp [h, indicesOf]

/-- The last columns of the lines that end among the first `n` characters are those just before the line feeds. -/
theorem columnsAfter_eq (text : Text) (n : Nat) :
    text.columnsAfter n = (text.indicesOf '\n' n).reverse.map fun i => .ofNat (text.columnAfter i) := by
  induction n with
  | zero => rfl
  | succ n ih =>
    rw [columnsAfter, indicesOf_succ, List.reverse_append, List.map_append, ih]
    by_cases h : text[n]? = some '\n' <;> simp [h]

/-- All characters lead to the point of the last one, and there are no more. -/
theorem pointAfter_of_length_le {text : Text} {n : Nat} (h : text.length ≤ n) : text.pointAfter n = text.pointAfter text.length := by
  simp only [pointAfter, lineAfter, columnAfter, List.take_of_length_le h, List.take_length]

end Text

namespace Cursor

variable {text : Text} {k : Cursor}

/-! ## On a character of the text -/

/-- A skip of `n` characters to the right, from a character of the text, goes exactly so far or just behind the text. -/
theorem forward_index_of_lt (h : k.index < text.length) (n : Nat) :
    (forward text n k).2.index = min (k.index + n) text.length := by
  induction n generalizing k with
  | zero =>
    show k.index = _
    omega
  | succ n ih =>
    rw [forward]
    have hindex := moveRight_index k text
    have hinside := moveRight_fst k text
    split
    · next k' e =>
      rw [e] at hindex hinside
      simp only [true_eq_decide_iff] at hinside
      dsimp only at hindex
      rw [ih (by omega), hindex]
      omega
    · next k' e =>
      rw [e] at hindex hinside
      simp only [false_eq_decide_iff] at hinside
      dsimp only at hindex ⊢
      omega

/-- From a character of the text a skip to the right ends on its target, or where the cursor was if it was further to the right.
It meets the end of the text if there is no such character. -/
theorem skipTo_of_lt (h : k.index < text.length) (target : Nat) :
    (k.skipTo text target).1 = decide (max k.index target < text.length) ∧
      (k.skipTo text target).2.index = min (max k.index target) text.length := by
  rw [skipTo, forward_fst, forward_index_of_lt h, decide_eq_decide]
  omega

/-- From a character of the text a skip to the left ends on its target, or where the cursor was if it was further to the left. -/
theorem skipBackTo_of_lt (h : k.index < text.length) (target : Nat) :
    (k.skipBackTo text target).1 = decide (target ≤ k.index) ∧ (k.skipBackTo text target).2.index = min k.index target := by
  have hindex : (backward text (k.index - target) k).index = min k.index target := by
    rw [backward_index h]
    omega
  refine ⟨?_, hindex⟩
  show ((backward text (k.index - target) k).index == target) = _
  rw [hindex, Bool.eq_iff_iff, beq_iff_eq, decide_eq_true_eq]
  omega

/-! ## Behind the text -/

theorem moveRight_of_length_le (h : text.length ≤ k.index) : k.moveRight text = (false, { k with index := k.index + 1 }) := by
  unfold moveRight
  rw [List.getElem?_eq_none (Nat.le_succ_of_le h)]

/-- A cursor behind the text does not move to the left. -/
theorem moveLeft_of_length_le (h : text.length ≤ k.index) : k.moveLeft text = (false, k) := by
  unfold moveLeft
  split
  · rfl
  · next i hi =>
    have hnone : text[i + 1]? = none := List.getElem?_eq_none (by omega)
    rw [hnone]

theorem skipBackTo_of_length_le (h : text.length ≤ k.index) (target : Nat) :
    k.skipBackTo text target = (k.index == target, k) := by
  have hstay : ∀ n, backward text n k = k := by
    intro n
    cases n with
    | zero => rfl
    | succ n => rw [backward, moveLeft_of_length_le h]
  rw [skipBackTo, hstay]

/-- Behind the text a skip to the right is one move. -/
theorem skipTo_of_length_le (h : text.length ≤ k.index) {target : Nat} (ht : k.index < target) :
    k.skipTo text target = (false, { k with index := k.index + 1 }) := by
  obtain ⟨n, hn⟩ := Nat.exists_eq_add_one.2 (Nat.sub_pos_of_lt ht)
  rw [skipTo, hn, forward, moveRight_of_length_le h]

/-! ## Rows of moves -/

/-- What a cursor in a text can be told to do. -/
inductive Move where
  | advance
  | face (direction : Direction)
  | skipTo (target : Nat)
  | skipBackTo (target : Nat)
  deriving DecidableEq, Repr

/-- The cursor after a move. -/
def perform (text : Text) (k : Cursor) : Move → Cursor
  | .advance => (k.advance text).2
  | .face direction => k.face direction
  | .skipTo target => (k.skipTo text target).2
  | .skipBackTo target => (k.skipBackTo text target).2

/-- The cursor that has entered the text, with a column for every line, and has made the moves. -/
def ofMoves (text : Text) (moves : List Move) : Cursor := moves.foldl (perform text) ((initial .everyLine).enter text).2

/-- A move keeps an exact cursor exact, in a text that is short enough. -/
theorem Exact.perform (hlen : text.length < UInt32.size - 1) (h : Exact text k) (move : Move) :
    Exact text (k.perform text move) := by
  have hr : ∀ x, Exact text x → Exact text (x.moveRight text).2 := fun _ hx => hx.moveRight
  have hl : ∀ x, Exact text x → Exact text (x.moveLeft text).2 := fun _ hx => hx.moveLeft hlen
  cases move with
  | advance => exact advance_induction hr hl k h
  | face direction => exact ⟨h.point, h.columns⟩
  | skipTo target => exact forward_induction hr _ k h
  | skipBackTo target => exact backward_induction hl _ k h

/-- However a cursor has been moved about, its coordinates are those of its index. -/
theorem exact_ofMoves (hlen : text.length < UInt32.size - 1) (moves : List Move) : Exact text (ofMoves text moves) := by
  unfold ofMoves
  have hstart := exact_enter text
  generalize ((initial .everyLine).enter text).2 = k at hstart ⊢
  induction moves generalizing k with
  | nil => exact hstart
  | cons move moves ih => exact ih _ (hstart.perform hlen move)

/-- No move brings a cursor back from behind the text. -/
theorem index_le_perform (h : text.length ≤ k.index) (move : Move) : k.index ≤ (k.perform text move).index := by
  cases move with
  | advance =>
    show k.index ≤ (k.advance text).2.index
    unfold Cursor.advance
    split
    · rw [moveRight_index]
      exact Nat.le_succ _
    · have hstay : (k.moveLeft text).2.index = k.index := by rw [moveLeft_of_length_le h]
      exact Nat.le_of_eq hstay.symm
  | face direction => exact Nat.le_refl _
  | skipTo target =>
    show k.index ≤ (k.skipTo text target).2.index
    rcases Nat.lt_or_ge k.index target with hlt | hge
    · rw [skipTo_of_length_le h hlt]
      exact Nat.le_succ _
    · rw [Cursor.skipTo, Nat.sub_eq_zero_of_le hge]
      exact Nat.le_refl _
  | skipBackTo target =>
    show k.index ≤ (k.skipBackTo text target).2.index
    have hstay : (k.skipBackTo text target).2.index = k.index := by rw [skipBackTo_of_length_le h]
    exact Nat.le_of_eq hstay.symm

end Cursor

/-- The moves of a cursor lead where they say. Take any row of moves, with any targets, after a cursor with a column for every line
has entered a text. While it is on a character of the text, its line, its column and its remembered columns are those of its index,
one remembered column for each line feed up to there, the nearest first. From there a skip to the right ends on its target, or
where the cursor was if that is further, and fails just behind the text if there is no such character; a skip to the left ends on its
target, or where the cursor was if that is nearer, and fails if its target is to the right. Neither turns the cursor. Behind the text
the line and the column are those of the last character, no move leads back, moves to the left do nothing, and a skip to the right
fails after one move. -/
theorem cursor_moves (text : Text) (hlen : text.length < UInt32.size - 1) (moves : List Cursor.Move) :
    let k := Cursor.ofMoves text moves
    (k.index < text.length →
      k.point.line.toNat = text.lineAfter (k.index + 1) ∧ k.point.column.toNat = text.columnAfter (k.index + 1) ∧
      k.columns = .everyLine ((text.indicesOf '\n' (k.index + 1)).reverse.map fun i => .ofNat (text.columnAfter i)) ∧
      ∀ target,
        (max k.index target < text.length →
          (k.skipTo text target).1 = true ∧ (k.skipTo text target).2.index = max k.index target) ∧
        (text.length ≤ max k.index target →
          (k.skipTo text target).1 = false ∧ (k.skipTo text target).2.index = text.length) ∧
        (k.skipTo text target).2.direction = k.direction ∧
        (k.skipBackTo text target).2.index = min k.index target ∧
        ((k.skipBackTo text target).1 = true ↔ target ≤ k.index) ∧
        (k.skipBackTo text target).2.direction = k.direction) ∧
    (text.length ≤ k.index →
      k.point.line.toNat = text.lineAfter text.length ∧ k.point.column.toNat = text.columnAfter text.length ∧
      (∀ move, k.index ≤ (k.perform text move).index) ∧
      (k.direction = .left → k.advance text = (false, k)) ∧
      ∀ target,
        k.skipBackTo text target = (k.index == target, k) ∧
        (k.index < target → k.skipTo text target = (false, { k with index := k.index + 1 }))) := by
  intro k
  have hexact : Cursor.Exact text k := Cursor.exact_ofMoves hlen moves
  constructor
  · intro h
    obtain ⟨hline, hcolumn⟩ := Text.toNat_pointAfter hlen (k.index + 1)
    rw [← hexact.point] at hline hcolumn
    refine ⟨hline, hcolumn, ?_, ?_⟩
    · rw [hexact.columns, Text.columnsAfter_eq]
    · intro target
      obtain ⟨hfound, hindex⟩ := Cursor.skipTo_of_lt h target
      obtain ⟨hback, hindexBack⟩ := Cursor.skipBackTo_of_lt h target
      refine ⟨?_, ?_, k.skipTo_direction text target, hindexBack, ?_, k.skipBackTo_direction text target⟩
      · intro hmax
        rw [hfound, hindex]
        exact ⟨decide_eq_true hmax, Nat.min_eq_left (Nat.le_of_lt hmax)⟩
      · intro hmax
        rw [hfound, hindex]
        exact ⟨decide_eq_false (Nat.not_lt_of_le hmax), Nat.min_eq_right hmax⟩
      · rw [hback, decide_eq_true_eq]
  · intro h
    obtain ⟨hline, hcolumn⟩ := Text.toNat_pointAfter hlen text.length
    rw [← Text.pointAfter_of_length_le (Nat.le_succ_of_le h), ← hexact.point] at hline hcolumn
    refine ⟨hline, hcolumn, Cursor.index_le_perform h, ?_, ?_⟩
    · intro hd
      rw [Cursor.advance, hd]
      exact Cursor.moveLeft_of_length_le h
    · intro target
      exact ⟨Cursor.skipBackTo_of_length_le h target, Cursor.skipTo_of_length_le h⟩

/-- In this text a cursor that has skipped to the last character and turned goes back to the line feed, which is where it was: at
the start of the second line. From behind the text it does not come back. -/
theorem cursor_moves_back :
    let text : Text := ['a', '\n', 'b']
    let back := Cursor.ofMoves text [.skipTo 2, .face .left, .advance]
    let behind := Cursor.ofMoves text [.skipTo 9, .face .left, .advance]
    (back.index = 1 ∧ back.point.line.toNat = 2 ∧ back.point.column.toNat = 0 ∧ back.columns = .everyLine [1] ∧
      (back.skipTo text 3).1 = false ∧ (back.skipTo text 3).2.index = 3) ∧
    (behind.index = 3 ∧ behind.point.line.toNat = 2 ∧ behind.point.column.toNat = 1 ∧
      behind.skipBackTo text 0 = (false, behind)) := by
  intro text back behind
  have hback : back.index = 1 := by decide
  have hbehind : behind.index = 3 := by decide
  obtain ⟨hinside, -⟩ := cursor_moves text (by decide) [.skipTo 2, .face .left, .advance]
  obtain ⟨-, houtside⟩ := cursor_moves text (by decide) [.skipTo 9, .face .left, .advance]
  obtain ⟨hline, hcolumn, hcolumns, hskips⟩ := hinside (by decide)
  obtain ⟨hlast, hlastColumn, -, -, hstays⟩ := houtside (by decide)
  obtain ⟨-, hfails, -⟩ := hskips 3
  obtain ⟨hfailed, hend⟩ := hfails (by decide)
  exact ⟨⟨hback, hline, hcolumn, hcolumns, hfailed, hend⟩, hbehind, hlast, hlastColumn, (hstays 0).1⟩

end RuleScanner
