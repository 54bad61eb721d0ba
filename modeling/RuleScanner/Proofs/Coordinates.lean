import RuleScanner.Proofs.Run

/-!
# Coordinates are a function of the index

With a column for every line above, a cursor that has entered a text knows of its path no more than its index: its point and
its columns are those of the characters up to and including the one it stands on (`Cursor.Exact`). A move to the right counts
them exactly, modulo the size of a word. A move to the left undoes the count, as long as no number has wrapped around: the
largest is the line, which is at most one more than the length of the text (`Text.lineAfter_le`).
-/

namespace RuleScanner

/-! ## The coordinates of a text -/

namespace Text

/-- The line that the first `n` characters of the text lead to. -/
def lineAfter (text : Text) (n : Nat) : Nat := 1 + (text.take n).count '\n'

/-- How many of the first `n` characters of the text come after the last line feed among them. -/
def columnAfter (text : Text) (n : Nat) : Nat := ((text.take n).reverse.takeWhile (· != '\n')).length

/-- The point that the first `n` characters of the text lead to. -/
def pointAfter (text : Text) (n : Nat) : Point := ⟨.ofNat (text.lineAfter n), .ofNat (text.columnAfter n)⟩

/-- The last columns of the lines that end among the first `n` characters of the text, the nearest line first. -/
def columnsAfter (text : Text) : Nat → List UInt32
  | 0 => []
  | n + 1 => if text[n]? = some '\n' then .ofNat (text.columnAfter n) :: text.columnsAfter n else text.columnsAfter n

theorem take_succ_of_getElem? {text : Text} {n : Nat} {c : Char} (h : text[n]? = some c) :
    text.take (n + 1) = text.take n ++ [c] := by
  rw [List.take_add_one, h]
  rfl

theorem lineAfter_succ {text : Text} {n : Nat} {c : Char} (h : text[n]? = some c) :
    text.lineAfter (n + 1) = text.lineAfter n + if c = '\n' then 1 else 0 := by
  rw [lineAfter, lineAfter, take_succ_of_getElem? h, List.count_append, List.count_singleton, Nat.add_assoc]
  simp

theorem columnAfter_succ {text : Text} {n : Nat} {c : Char} (h : text[n]? = some c) :
    text.columnAfter (n + 1) = if c = '\n' then 0 else text.columnAfter n + 1 := by
  rw [columnAfter, columnAfter, take_succ_of_getElem? h, List.reverse_append, List.reverse_singleton, List.singleton_append,
    List.takeWhile_cons]
  by_cases hc : c = '\n' <;> simp [hc]

theorem columnsAfter_succ {text : Text} {n : Nat} {c : Char} (h : text[n]? = some c) :
    text.columnsAfter (n + 1) =
      if c = '\n' then .ofNat (text.columnAfter n) :: text.columnsAfter n else text.columnsAfter n := by
  simp [columnsAfter, h]

/-- A line feed leads to the next line, and any other character to the next column. -/
theorem pointAfter_succ {text : Text} {n : Nat} {c : Char} (h : text[n]? = some c) :
    text.pointAfter (n + 1) =
      if c = '\n' then ⟨(text.pointAfter n).line + 1, 0⟩ else ⟨(text.pointAfter n).line, (text.pointAfter n).column + 1⟩ := by
  simp only [pointAfter, lineAfter_succ h, columnAfter_succ h]
  split <;> simp [UInt32.ofNat_add]

/-- Beyond its end a text leads nowhere. -/
theorem pointAfter_succ_of_none {text : Text} {n : Nat} (h : text[n]? = none) : text.pointAfter (n + 1) = text.pointAfter n := by
  rw [pointAfter, pointAfter, lineAfter, lineAfter, columnAfter, columnAfter, List.take_add_one, h, Option.toList_none,
    List.append_nil]

theorem columnsAfter_succ_of_none {text : Text} {n : Nat} (h : text[n]? = none) :
    text.columnsAfter (n + 1) = text.columnsAfter n := by
  simp [columnsAfter, h]

theorem lineAfter_le (text : Text) (n : Nat) : text.lineAfter n ≤ 1 + min n text.length := by
  have h := List.count_le_length (a := '\n') (l := text.take n)
  rw [List.length_take] at h
  rw [lineAfter]
  omega

theorem columnAfter_le (text : Text) (n : Nat) : text.columnAfter n ≤ min n text.length := by
  have h := (List.takeWhile_sublist (· != '\n') (l := (text.take n).reverse)).length_le
  rw [List.length_reverse, List.length_take] at h
  exact h

/-- In a text that is short enough neither coordinate wraps around. -/
theorem toNat_pointAfter {text : Text} (hlen : text.length < UInt32.size - 1) (n : Nat) :
    (text.pointAfter n).line.toNat = text.lineAfter n ∧ (text.pointAfter n).column.toNat = text.columnAfter n := by
  have hline := text.lineAfter_le n
  have hcol := text.columnAfter_le n
  exact ⟨UInt32.toNat_ofNat_of_lt' (by omega), UInt32.toNat_ofNat_of_lt' (by omega)⟩

/-- Without a line feed the column counts all characters. -/
theorem columnAfter_of_notMem {text : Text} {n : Nat} (hn : n ≤ text.length) (h : '\n' ∉ text.take n) :
    text.columnAfter n = n := by
  rw [columnAfter, ← List.append_nil (text.take n).reverse, List.takeWhile_append_of_pos, List.takeWhile_nil, List.append_nil,
    List.length_reverse, List.length_take, Nat.min_eq_left hn]
  intro c hc
  simp only [bne_iff_ne, ne_eq]
  rintro rfl
  exact h (List.mem_reverse.1 hc)

/-- The column counts the characters after the last line feed. -/
theorem columnAfter_of_append {text before after : Text} {n : Nat} (ht : text.take n = before ++ '\n' :: after)
    (h : '\n' ∉ after) : text.columnAfter n = after.length := by
  rw [columnAfter, ht, List.reverse_append, List.reverse_cons, List.append_assoc, List.takeWhile_append_of_pos,
    List.singleton_append, List.takeWhile_cons_of_neg (by simp), List.append_nil, List.length_reverse]
  intro c hc
  simp only [bne_iff_ne, ne_eq]
  rintro rfl
  exact h (List.mem_reverse.1 hc)

/-- In the order of points, each character leads further. -/
theorem lineAfter_lt_or {text : Text} {m n : Nat} (hmn : m < n) (hn : n ≤ text.length) :
    text.lineAfter m < text.lineAfter n ∨
      text.lineAfter m = text.lineAfter n ∧ text.columnAfter m < text.columnAfter n := by
  induction n with
  | zero => omega
  | succ n ih =>
    have hc := List.getElem?_eq_getElem (show n < text.length by omega)
    have hstep : text.lineAfter n < text.lineAfter (n + 1) ∨
        text.lineAfter n = text.lineAfter (n + 1) ∧ text.columnAfter n < text.columnAfter (n + 1) := by
      rw [lineAfter_succ hc, columnAfter_succ hc]
      split <;> simp
    rcases Nat.lt_succ_iff_lt_or_eq.1 hmn with hlt | rfl
    · have := ih hlt (by omega)
      omega
    · exact hstep

/-- In a text that is short enough the order of points is that of the characters. -/
theorem pointAfter_le_iff {text : Text} (hlen : text.length < UInt32.size - 1) {m n : Nat} (hm : m ≤ text.length)
    (hn : n ≤ text.length) : text.pointAfter m ≤ text.pointAfter n ↔ m ≤ n := by
  obtain ⟨hlm, hcm⟩ := toNat_pointAfter hlen m
  obtain ⟨hln, hcn⟩ := toNat_pointAfter hlen n
  rw [Point.le_def, UInt32.lt_iff_toNat_lt, ← UInt32.toNat_inj, UInt32.le_iff_toNat_le, hlm, hcm, hln, hcn]
  constructor
  · intro h
    rcases Nat.lt_or_ge n m with hlt | hge
    · have := lineAfter_lt_or hlt hm
      omega
    · exact hge
  · intro h
    rcases Nat.lt_or_eq_of_le h with hlt | rfl
    · have := lineAfter_lt_or hlt hn
      omega
    · exact Or.inr ⟨rfl, Nat.le_refl _⟩

theorem pointAfter_lt_iff {text : Text} (hlen : text.length < UInt32.size - 1) {m n : Nat} (hm : m ≤ text.length)
    (hn : n ≤ text.length) : text.pointAfter m < text.pointAfter n ↔ m < n := by
  rw [← Point.not_le, pointAfter_le_iff hlen hn hm, Nat.not_le]

end Text

/-- One less than a number that has not wrapped around. -/
theorem pred_ofNat_succ {n : Nat} (h : n + 1 < UInt32.size) : pred (.ofNat (n + 1)) = .ofNat n := by
  have hne : UInt32.ofNat (n + 1) ≠ 0 := by
    intro he
    have := congrArg UInt32.toNat he
    rw [UInt32.toNat_ofNat_of_lt' h] at this
    simp at this
  rw [pred, if_neg hne, UInt32.ofNat_add]
  simp

/-! ## The coordinates of a cursor -/

namespace Cursor

/-- The point and the columns of the cursor are those of the characters up to and including the one under it. -/
structure Exact (text : Text) (k : Cursor) : Prop where
  point : k.point = text.pointAfter (k.index + 1)
  columns : k.columns = .everyLine (text.columnsAfter (k.index + 1))

/-- Entering a text, a cursor that has a column for every line is exact. -/
theorem exact_enter (text : Text) : Exact text ((initial .everyLine).enter text).2 := by
  unfold enter
  split
  · next c h =>
    constructor
    · rw [Text.pointAfter_succ h, arriveRight]
      split <;> rfl
    · rw [Text.columnsAfter_succ h, arriveRight]
      split <;> rfl
  · next h => exact ⟨(Text.pointAfter_succ_of_none h).symm, congrArg _ (Text.columnsAfter_succ_of_none h).symm⟩

/-- A move to the right keeps an exact cursor exact. -/
theorem Exact.moveRight {text : Text} {k : Cursor} (h : Exact text k) : Exact text (k.moveRight text).2 := by
  unfold Cursor.moveRight
  split
  · next c hc =>
    constructor
    · rw [Text.pointAfter_succ hc, ← h.point, arriveRight]
      split <;> rfl
    · rw [Text.columnsAfter_succ hc, arriveRight]
      split
      · simp only [h.columns, Columns.record, h.point, Text.pointAfter]
      · exact h.columns
  · next hn =>
    exact ⟨h.point.trans (Text.pointAfter_succ_of_none hn).symm,
      h.columns.trans (congrArg _ (Text.columnsAfter_succ_of_none hn).symm)⟩

/-- A move to the left keeps an exact cursor exact, in a text that is short enough. -/
theorem Exact.moveLeft {text : Text} (hlen : text.length < UInt32.size - 1) {k : Cursor} (h : Exact text k) :
    Exact text (k.moveLeft text).2 := by
  unfold Cursor.moveLeft
  split
  · exact h
  · next i hi =>
    split
    · next leaving arriving hl ha =>
      obtain ⟨hp, hc⟩ := h
      rw [hi, Text.pointAfter_succ hl] at hp
      rw [hi, Text.columnsAfter_succ hl] at hc
      have hlt := (List.getElem?_eq_some_iff.1 hl).1
      have hline := text.lineAfter_le (i + 1)
      have hcol := text.columnAfter_le (i + 1)
      -- What the move to the right has added is taken away again: neither number is zero.
      by_cases hn : leaving = '\n'
      · rw [if_pos hn] at hp hc
        have hpred : pred k.point.line = (text.pointAfter (i + 1)).line := by
          rw [hp]
          exact (congrArg pred (UInt32.ofNat_add ..).symm).trans (pred_ofNat_succ (by omega))
        simp only [arriveLeft, hc, hn, if_true, List.headD_cons, List.tail_cons]
        exact ⟨by rw [hpred]; rfl, rfl⟩
      · rw [if_neg hn] at hp hc
        have hpred : pred k.point.column = (text.pointAfter (i + 1)).column := by
          rw [hp]
          exact (congrArg pred (UInt32.ofNat_add ..).symm).trans (pred_ofNat_succ (by omega))
        simp only [arriveLeft, hc, hn, if_false]
        exact ⟨by rw [hpred, hp], rfl⟩
    · exact h

end Cursor

/-! ## The coordinates of a scan -/

namespace Scan

/-- With a column for every line, every step of a scan of a text that is short enough stands on the character at its index and
has the point that the characters up to that one lead to. -/
theorem ofText_exact (registry : Registry) (trivia : Trivia) (config : Config) (text : Text)
    (hm : config.memory = .everyLine) (hlen : text.length < UInt32.size - 1) :
    ∀ step ∈ (ofText registry trivia config text).steps,
      text[step.index]? = some step.char ∧ step.point = text.pointAfter (step.index + 1) := by
  have hr : ∀ k, Cursor.Exact text k → Cursor.Exact text (k.moveRight text).2 := fun _ h => h.moveRight
  have hl : ∀ k, Cursor.Exact text k → Cursor.Exact text (k.moveLeft text).2 := fun _ h => h.moveLeft hlen
  obtain ⟨s, hs, hsteps, -⟩ := ofText_induction (P := fun s => Cursor.Exact text s.cursor ∧
      ∀ step ∈ s.steps, text[step.index]? = some step.char ∧ step.point = text.pointAfter (step.index + 1))
    registry trivia config text
    (by
      rw [hm]
      exact ⟨Cursor.exact_enter text, by simp⟩)
    (by
      intro s skipped c k hs he
      have hk : Cursor.Exact text k := by
        have h : Cursor.Exact text (settle trivia text s.cursor).2.2 := settle_induction hr hl s.cursor hs.1
        rwa [he] at h
      refine ⟨⟨hk.point, hk.columns⟩, ?_⟩
      intro step hstep
      rcases Array.mem_push.1 hstep with hstep | rfl
      · exact hs.2 step hstep
      · exact ⟨settle_char he, hk.point⟩)
    (fun s hs => ⟨Cursor.advance_induction hr hl s.cursor hs.1, hs.2⟩)
  rw [hsteps]
  exact hs.2

end Scan

/-- The coordinates of a step are a function of its index: whatever the rules, the treatment of blanks and comments and the
budget are, and however the cursor has come there, the line counts the line feeds up to and including the character, and the
column counts the characters after the last of them. -/
theorem tokenize_coordinates (t : Tokenizer) (text : Text) (hm : t.config.memory = .everyLine)
    (hlen : text.length < UInt32.size - 1) (step : Step) (hs : step ∈ (t.tokenize text).last.steps) :
    step.index < text.length ∧ text[step.index]? = some step.char ∧
      step.point.line.toNat = 1 + (text.take (step.index + 1)).count '\n' ∧
      ('\n' ∉ text.take (step.index + 1) → step.point.column.toNat = step.index + 1) ∧
      ∀ before after, text.take (step.index + 1) = before ++ '\n' :: after → '\n' ∉ after →
        step.point.column.toNat = after.length := by
  obtain ⟨hc, hp⟩ := Scan.ofText_exact t.registry t.trivia t.config text hm hlen step hs
  have hlt := (List.getElem?_eq_some_iff.1 hc).1
  obtain ⟨hline, hcolumn⟩ := Text.toNat_pointAfter hlen (step.index + 1)
  rw [← hp] at hline hcolumn
  refine ⟨hlt, hc, hline, ?_, ?_⟩
  · intro hn
    rw [hcolumn, Text.columnAfter_of_notMem hlt hn]
  · intro before after ht hn
    rw [hcolumn, Text.columnAfter_of_append ht hn]

/-- A tokenizer whose one rule goes from a `c` to the left up to an `a`. -/
def leftwardFromC : Tokenizer where
  registry := { rules := [{ name := "back", symbol := "c", terminator := "a", direction := .left }] }

/-- In this text the rule turns the scan on the last character. The line feed, crossed again on the way back, is where it was:
at the start of the second line. -/
theorem tokenize_coordinates_leftward :
    ∃ step ∈ (leftwardFromC.tokenize ['a', '\n', 'b', 'c']).last.steps,
      step.direction = .left ∧ step.char = '\n' ∧ step.point.line.toNat = 2 ∧ step.point.column.toNat = 0 := by
  have h : (leftwardFromC.tokenize ['a', '\n', 'b', 'c']).last.steps[5]?.map (fun s => (s.index, s.direction, s.char)) =
      some (1, .left, '\n') := by decide +kernel
  obtain ⟨step, hs, he⟩ := Option.map_eq_some_iff.1 h
  obtain ⟨hi, hd, hc⟩ : step.index = 1 ∧ step.direction = .left ∧ step.char = '\n' := by simpa using he
  have hmem := Array.mem_of_getElem? hs
  obtain ⟨-, -, hline, -, hcolumn⟩ := tokenize_coordinates leftwardFromC ['a', '\n', 'b', 'c'] rfl (by decide) step hmem
  rw [hi] at hline hcolumn
  exact ⟨step, hmem, hd, hc, hline, hcolumn ['a'] [] rfl (by simp)⟩

end RuleScanner
