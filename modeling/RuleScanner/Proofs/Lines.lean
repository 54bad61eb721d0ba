import RuleScanner.Proofs.Coordinates

/-!
# Lines and columns exist in the text

With a column for every line above, the coordinates of a step are exact, so that its line is one of the text and its column no
larger than the text is long. With one column for all lines a line feed has two points: it opens the next line when the cursor
comes from its left, and ends the line above when the cursor comes from its right. The lines count the line feeds that the
cursor has passed then (`Cursor.OnLine`), and the columns leave room for the rest of the line (`Cursor.Within`).

This holds as long as the cursor does not turn on a line feed. Such a turn changes whether the line feed counts as passed, and
yet the line stays as it is: a turn to the left makes the lines too large by one, and a turn to the right makes them too small
by one (`tokenize_lines_drift`).
-/

namespace RuleScanner

/-! ## The lines of a text -/

namespace Text

theorem lineAfter_pos (text : Text) (n : Nat) : 1 ≤ text.lineAfter n := Nat.le_add_right ..

/-- Each line is opened by a line feed of the text, but for the first. -/
theorem lineAfter_le_count (text : Text) (n : Nat) : text.lineAfter n ≤ 1 + text.count '\n' :=
  Nat.add_le_add_left ((List.take_sublist n text).count_le '\n') 1

/-- Beyond the end of the text there are no more lines. -/
theorem lineAfter_succ_of_none {text : Text} {n : Nat} (h : text[n]? = none) : text.lineAfter (n + 1) = text.lineAfter n := by
  rw [lineAfter, lineAfter, List.take_add_one, h, Option.toList_none, List.append_nil]

/-- How many characters there are after the one at `i` up to the end of its line. -/
def restOfLine (text : Text) (i : Nat) : Nat := ((text.drop (i + 1)).takeWhile (· != '\n')).length

theorem restOfLine_le (text : Text) (i : Nat) : text.restOfLine i ≤ text.length - (i + 1) := by
  have h := (List.takeWhile_sublist (· != '\n') (l := text.drop (i + 1))).length_le
  rwa [List.length_drop] at h

theorem restOfLine_of_getElem? {text : Text} {i : Nat} {c : Char} (h : text[i + 1]? = some c) :
    text.restOfLine i = if c = '\n' then 0 else text.restOfLine (i + 1) + 1 := by
  obtain ⟨hlt, rfl⟩ := List.getElem?_eq_some_iff.1 h
  rw [restOfLine, restOfLine, List.drop_eq_getElem_cons hlt, List.takeWhile_cons]
  by_cases hc : text[i + 1] = '\n' <;> simp [hc]

end Text

theorem toNat_pred (n : UInt32) : (pred n).toNat = n.toNat - 1 := by
  unfold pred
  split
  · next h => rw [h]; rfl
  · next h =>
    have hpos : n.toNat ≠ 0 := fun he => h (UInt32.toNat_inj.1 he)
    rw [UInt32.toNat_sub_of_le]
    · rfl
    · rw [UInt32.le_iff_toNat_le]
      exact Nat.one_le_iff_ne_zero.2 hpos

theorem toNat_succ {n : UInt32} (h : n.toNat + 1 < UInt32.size) : (n + 1).toNat = n.toNat + 1 := by
  rw [UInt32.toNat_add]
  exact Nat.mod_eq_of_lt h

/-! ## One column for all lines -/

namespace Cursor

/-- How many characters of the text the cursor has on its left, with its own if it comes from there. -/
def passed (k : Cursor) : Nat :=
  match k.direction with
  | .right => k.index + 1
  | .left => k.index

/-- A cursor with one column for all lines that counts the line feeds it has passed, and `drift` more. -/
structure OnLine (text : Text) (drift : Nat) (k : Cursor) : Prop where
  columns : ∃ slot, k.columns = .lastLine slot
  line : k.point.line.toNat = text.lineAfter k.passed + drift

namespace OnLine

variable {text : Text} {k : Cursor} {drift : Nat}

theorem enter (text : Text) : OnLine text 0 ((initial .lastLine).enter text).2 := by
  have hzero : text.lineAfter 0 = 1 := by simp [Text.lineAfter]
  unfold Cursor.enter
  split
  · next c hc =>
    have hone := Text.lineAfter_succ hc
    rw [hzero] at hone
    unfold arriveRight
    split
    · next hn =>
      rw [if_pos hn] at hone
      exact ⟨⟨_, rfl⟩, hone.symm⟩
    · next hn =>
      rw [if_neg hn] at hone
      exact ⟨⟨_, rfl⟩, hone.symm⟩
  · next hc => exact ⟨⟨_, rfl⟩, (hzero.symm.trans (Text.lineAfter_succ_of_none hc).symm)⟩

/-- A move to the right passes the character that it comes to. -/
theorem moveRight (hlen : text.length < UInt32.size - 1) (h : OnLine text 0 k) (hd : k.direction = .right) :
    OnLine text 0 (k.moveRight text).2 := by
  obtain ⟨⟨slot, hslot⟩, hline⟩ := h
  have hle := text.lineAfter_le (k.index + 1)
  simp only [passed, hd] at hline
  unfold Cursor.moveRight
  split
  · next c hc =>
    unfold arriveRight
    split
    · next hn =>
      have hlt := (List.getElem?_eq_some_iff.1 hc).1
      refine ⟨⟨k.point.column, by simp only [hslot, Columns.record]⟩, ?_⟩
      simp only [passed, hd, Text.lineAfter_succ hc, hn, if_true]
      rw [toNat_succ (by omega), hline]
    · next hn =>
      refine ⟨⟨slot, hslot⟩, ?_⟩
      simp only [passed, hd, Text.lineAfter_succ hc, hn, if_false]
      exact hline
  · next hc =>
    refine ⟨⟨slot, hslot⟩, ?_⟩
    simp only [passed, hd, Text.lineAfter_succ_of_none hc]
    exact hline

/-- A move to the left takes back the character that it comes to. -/
theorem moveLeft (h : OnLine text drift k) (hd : k.direction = .left) : OnLine text drift (k.moveLeft text).2 := by
  obtain ⟨⟨slot, hslot⟩, hline⟩ := h
  unfold Cursor.moveLeft
  split
  · exact ⟨⟨slot, hslot⟩, hline⟩
  · next i hi =>
    split
    · next leaving arriving hl ha =>
      simp only [passed, hd, hi, Text.lineAfter_succ ha] at hline
      simp only [arriveLeft, hslot]
      split
      · next hn =>
        refine ⟨⟨slot, rfl⟩, ?_⟩
        simp only [passed, hd, toNat_pred, hline, hn, if_true]
        omega
      · next hn =>
        refine ⟨⟨slot, rfl⟩, ?_⟩
        simp only [passed, hd, hline, hn, if_false]
        omega
    · exact ⟨⟨slot, hslot⟩, hline⟩

/-- On a character other than a line feed the cursor may turn. -/
theorem face (h : OnLine text drift k) {c : Char} (hc : text[k.index]? = some c) (hn : c ≠ '\n') (d : Direction) :
    OnLine text drift (k.face d) := by
  refine ⟨h.columns, ?_⟩
  have hsame := Text.lineAfter_succ hc
  rw [if_neg hn, Nat.add_zero] at hsame
  have hpassed : text.lineAfter (k.face d).passed = text.lineAfter k.passed := by
    unfold passed Cursor.face
    cases d <;> cases k.direction <;> simp [hsame]
  rw [hpassed]
  exact h.line

end OnLine

/-- A cursor with one column for all lines, whose line and columns exist in the text. In the line of its character there is
room for the rest of the line, unless it comes to a line feed from the right: that one ends the line above, and has its
column. -/
structure Within (text : Text) (k : Cursor) : Prop extends OnLine text 0 k where
  slot : ∀ slot, k.columns = .lastLine slot → slot.toNat ≤ text.length
  column : k.point.column.toNat ≤ text.length
  room : (k.direction = .left → text[k.index]? ≠ some '\n') → k.point.column.toNat + text.restOfLine k.index ≤ text.length

namespace Within

variable {text : Text} {k : Cursor}

theorem enter (text : Text) : Within text ((initial .lastLine).enter text).2 := by
  have honLine := OnLine.enter text
  have hrest := text.restOfLine_le 0
  unfold Cursor.enter at honLine ⊢
  cases hc : text[0]? with
  | none =>
    simp only [hc] at honLine ⊢
    refine ⟨honLine, ?_, Nat.zero_le _, fun _ => ?_⟩
    · rintro slot ⟨⟩
      exact Nat.zero_le _
    · show 0 + text.restOfLine 0 ≤ text.length
      omega
  | some c =>
    have hlt := (List.getElem?_eq_some_iff.1 hc).1
    simp only [hc, arriveRight] at honLine ⊢
    by_cases hn : c = '\n'
    · simp only [hn, if_true] at honLine ⊢
      refine ⟨honLine, ?_, Nat.zero_le _, fun _ => ?_⟩
      · rintro slot ⟨⟩
        exact Nat.zero_le _
      · show 0 + text.restOfLine 0 ≤ text.length
        omega
    · simp only [hn, if_false] at honLine ⊢
      refine ⟨honLine, ?_, hlt, fun _ => ?_⟩
      · rintro slot ⟨⟩
        exact Nat.zero_le _
      · show 1 + text.restOfLine 0 ≤ text.length
        omega

/-- A move to the right goes on in the room of the line, or opens another line. -/
theorem moveRight (hlen : text.length < UInt32.size - 1) (h : Within text k) (hd : k.direction = .right) :
    Within text (k.moveRight text).2 := by
  have honLine := h.toOnLine.moveRight hlen hd
  have hcolumn := h.column
  have hroom := h.room (by simp [hd])
  have hrest := text.restOfLine_le (k.index + 1)
  unfold Cursor.moveRight at honLine ⊢
  cases hc : text[k.index + 1]? with
  | none =>
    have hle := List.getElem?_eq_none_iff.1 hc
    simp only [hc] at honLine ⊢
    refine ⟨honLine, h.slot, hcolumn, fun _ => ?_⟩
    show k.point.column.toNat + text.restOfLine (k.index + 1) ≤ text.length
    omega
  | some c =>
    rw [Text.restOfLine_of_getElem? hc] at hroom
    simp only [hc, arriveRight] at honLine ⊢
    by_cases hn : c = '\n'
    · simp only [hn, if_true] at honLine ⊢
      refine ⟨honLine, ?_, Nat.zero_le _, fun _ => ?_⟩
      · obtain ⟨slot, hslot⟩ := h.columns
        simp only [hslot, Columns.record]
        rintro slot ⟨⟩
        exact hcolumn
      · show 0 + text.restOfLine (k.index + 1) ≤ text.length
        omega
    · simp only [hn, if_false] at honLine hroom ⊢
      have hsucc : (k.point.column + 1).toNat = k.point.column.toNat + 1 := toNat_succ (by omega)
      refine ⟨honLine, h.slot, ?_, fun _ => ?_⟩
      · show (k.point.column + 1).toNat ≤ text.length
        omega
      · show (k.point.column + 1).toNat + text.restOfLine (k.index + 1) ≤ text.length
        omega

/-- A move to the left leaves the room of the line as it is, or goes to the end of the line above. -/
theorem moveLeft (h : Within text k) (hd : k.direction = .left) : Within text (k.moveLeft text).2 := by
  have honLine := h.toOnLine.moveLeft hd
  obtain ⟨slot, hslot⟩ := h.columns
  have hslotLe := h.slot slot hslot
  have hcolumn := h.column
  unfold Cursor.moveLeft at honLine ⊢
  split
  · exact h
  · next i hi =>
    simp only [hi] at honLine
    split
    · next leaving arriving hl ha =>
      have hlt := (List.getElem?_eq_some_iff.1 hl).1
      simp only [hl, ha, arriveLeft, hslot] at honLine ⊢
      by_cases hn : arriving = '\n'
      · simp only [hn, if_true] at honLine ⊢
        refine ⟨honLine, ?_, hslotLe, fun hno => ?_⟩
        · rintro slot ⟨⟩
          exact hslotLe
        · exact absurd (hn ▸ ha) (hno hd)
      · simp only [hn, if_false] at honLine ⊢
        refine ⟨honLine, ?_, ?_, fun _ => ?_⟩
        · rintro slot ⟨⟩
          exact hslotLe
        · show (pred k.point.column).toNat ≤ text.length
          rw [toNat_pred]
          omega
        · show (pred k.point.column).toNat + text.restOfLine i ≤ text.length
          rw [toNat_pred, Text.restOfLine_of_getElem? hl]
          have hrest := text.restOfLine_le (i + 1)
          split
          · omega
          · next hleaving =>
            have hroom := h.room
            rw [show k.index = i + 1 from hi, hl] at hroom
            have := hroom fun _ he => hleaving (Option.some.inj he)
            omega
    · exact h

theorem advance (hlen : text.length < UInt32.size - 1) (h : Within text k) : Within text (k.advance text).2 := by
  unfold Cursor.advance
  split
  · next hd => exact h.moveRight hlen hd
  · next hd => exact h.moveLeft hd

/-- On a character other than a line feed the cursor may turn. -/
theorem face (h : Within text k) {c : Char} (hc : text[k.index]? = some c) (hn : c ≠ '\n') (d : Direction) :
    Within text (k.face d) := by
  have hno : text[k.index]? ≠ some '\n' := by
    rw [hc]
    simpa using hn
  exact ⟨h.toOnLine.face hc hn d, h.slot, h.column, fun _ => h.room fun _ => hno⟩

end Within

end Cursor

/-! ## The lines of a scan -/

/-- The step is on a line feed and sends the scan back to where it has come from. -/
def Step.TurnsOnLineFeed (step : Step) : Prop := step.char = '\n' ∧ step.departure ≠ step.direction

instance (step : Step) : Decidable step.TurnsOnLineFeed := inferInstanceAs (Decidable (_ ∧ _))

/-- The line and the column of the point are of the text. -/
structure Text.Bounds (text : Text) (p : Point) : Prop where
  line_pos : 1 ≤ p.line.toNat
  line_le : p.line.toNat ≤ 1 + text.count '\n'
  column_le : p.column.toNat ≤ text.length

theorem Text.bounds_pointAfter {text : Text} (hlen : text.length < UInt32.size - 1) (n : Nat) :
    text.Bounds (text.pointAfter n) := by
  obtain ⟨hline, hcolumn⟩ := Text.toNat_pointAfter hlen n
  refine ⟨?_, ?_, ?_⟩
  · rw [hline]
    exact text.lineAfter_pos n
  · rw [hline]
    exact text.lineAfter_le_count n
  · rw [hcolumn]
    exact Nat.le_trans (text.columnAfter_le n) (Nat.min_le_right ..)

theorem Cursor.Within.bounds {text : Text} {k : Cursor} (h : k.Within text) : text.Bounds k.point where
  line_pos := by
    rw [h.line]
    exact text.lineAfter_pos _
  line_le := by
    rw [h.line]
    exact text.lineAfter_le_count _
  column_le := h.column

namespace ScanState

/-- Until a step turns on a line feed the points of the steps, and the cursor, are within the text. -/
structure KeepsLines (text : Text) (s : ScanState) : Prop where
  cursor : (∀ made ∈ s.steps.toList, ¬ made.TurnsOnLineFeed) → s.cursor.Within text
  steps : ∀ (n : Nat) (step : Step), s.steps.toList[n]? = some step →
    (∀ made ∈ s.steps.toList.take n, ¬ made.TurnsOnLineFeed) → text.Bounds step.point

variable {registry : Registry} {trivia : Trivia} {text : Text} {s : ScanState}

theorem KeepsLines.visit (hlen : text.length < UInt32.size - 1) (h : s.KeepsLines text) {skipped : List Skip} {c : Char}
    {k : Cursor} (he : Scan.settle trivia text s.cursor = (skipped, some c, k)) :
    (s.visit registry trivia text skipped c k).KeepsLines text := by
  have hk : (∀ made ∈ s.steps.toList, ¬ made.TurnsOnLineFeed) → k.Within text := by
    intro hno
    have hsettled : (Scan.settle trivia text s.cursor).2.2.Within text :=
      Scan.settle_advances (fun _ hx => hx.advance hlen) s.cursor (h.cursor hno)
    rwa [he] at hsettled
  constructor
  · intro hno
    rw [toList_steps_visit, List.forall_mem_append] at hno
    have hwithin := hk hno.1
    have hmade := hno.2 _ (List.mem_singleton_self _)
    -- The visit turns the cursor on another character, or not at all.
    by_cases hn : c = '\n'
    · have hsame : (Scan.step registry trivia text skipped c k s.stack).1.departure = k.direction :=
        Decidable.byContradiction fun hne => hmade ⟨hn, hne⟩
      show (k.face (Scan.step registry trivia text skipped c k s.stack).1.departure).Within text
      rw [hsame]
      exact hwithin
    · exact hwithin.face (Scan.settle_char he) hn _
  · intro n step hn hno
    rw [toList_steps_visit] at hn hno
    rcases getElem?_concat_cases hn with ⟨hlt, hn⟩ | ⟨rfl, rfl⟩
    · rw [List.take_append_of_le_length (Nat.le_of_lt hlt)] at hno
      exact h.steps n step hn hno
    · rw [List.take_left] at hno
      exact (hk hno).bounds

theorem KeepsLines.move (hlen : text.length < UInt32.size - 1) (h : s.KeepsLines text) : (s.move text).KeepsLines text :=
  ⟨fun hno => (h.cursor hno).advance hlen, h.steps⟩

end ScanState

namespace Scan

/-- With one column for all lines, the point of a step is within the text if no step before has turned on a line feed. -/
theorem ofText_bounds (registry : Registry) (trivia : Trivia) (config : Config) (text : Text)
    (hm : config.memory = .lastLine) (hlen : text.length < UInt32.size - 1) {n : Nat} {step : Step}
    (hs : (ofText registry trivia config text).steps[n]? = some step)
    (hturns : ∀ made ∈ (ofText registry trivia config text).steps.toList.take n, ¬ made.TurnsOnLineFeed) :
    text.Bounds step.point := by
  obtain ⟨s, hkeeps, hsteps, -⟩ := ofText_induction (P := ScanState.KeepsLines text) registry trivia config text
    (by
      rw [hm]
      exact ⟨fun _ => .enter text, by simp⟩)
    (fun s skipped c k h he => h.visit hlen he)
    (fun s h => h.move hlen)
  rw [hsteps] at hs hturns
  exact hkeeps.steps n step (by rwa [Array.getElem?_toList]) hturns

end Scan

/-- The lines and columns of steps exist in the text: there is no line before the first one and none after the last, and no
column is larger than the text is long. This holds of every step with a column for every line. With one column for all lines it
holds of a step if no step before has turned on a line feed. -/
theorem tokenize_lines (t : Tokenizer) (text : Text) (hlen : text.length < UInt32.size - 1) (n : Nat) (step : Step)
    (hs : (t.tokenize text).last.steps[n]? = some step)
    (hturns : t.config.memory = .everyLine ∨
      ∀ made ∈ (t.tokenize text).last.steps.toList.take n, ¬ made.TurnsOnLineFeed) :
    1 ≤ step.point.line.toNat ∧ step.point.line.toNat ≤ 1 + text.count '\n' ∧ step.point.column.toNat ≤ text.length := by
  have hbounds : text.Bounds step.point := by
    cases hm : t.config.memory with
    | everyLine =>
      obtain ⟨-, hp⟩ := Scan.ofText_exact t.registry t.trivia t.config text hm hlen step (Array.mem_of_getElem? hs)
      rw [hp]
      exact Text.bounds_pointAfter hlen _
    | lastLine =>
      refine Scan.ofText_bounds t.registry t.trivia t.config text hm hlen hs (hturns.resolve_left ?_)
      rw [hm]
      exact nofun
  exact ⟨hbounds.line_pos, hbounds.line_le, hbounds.column_le⟩

/-- With one column for all lines, this scan turns on the last character and crosses the line feed on its way back. It has
then left the second line for the end of the first one. -/
theorem tokenize_lines_leftward :
    ∃ step ∈ (Tokenizer.tokenize { leftwardFromC with config := { memory := .lastLine } } ['a', '\n', 'b', 'c']).last.steps,
      step.char = '\n' ∧ step.direction = .left ∧ 1 ≤ step.point.line.toNat ∧ step.point.line.toNat ≤ 2 ∧
        step.point.column.toNat ≤ 4 := by
  have h : (Tokenizer.tokenize { leftwardFromC with config := { memory := .lastLine } }
      ['a', '\n', 'b', 'c']).last.steps[5]?.map (fun s => (s.char, s.direction)) = some ('\n', .left) := by decide +kernel
  obtain ⟨step, hs, he⟩ := Option.map_eq_some_iff.1 h
  obtain ⟨hc, hd⟩ : step.char = '\n' ∧ step.direction = .left := by simpa using he
  exact ⟨step, Array.mem_of_getElem? hs, hc, hd,
    tokenize_lines { leftwardFromC with config := { memory := .lastLine } } ['a', '\n', 'b', 'c'] (by decide) 5 step hs
      (Or.inr (by decide +kernel))⟩

/-- Two rules that send a scan to and fro between the first and the last character of a text. -/
def swayingRules : List Rule :=
  [{ name := "forth", symbol := "", terminator := "z", matcher := some fun _ i _ => i == 0 },
   { name := "back", symbol := "", terminator := "z", direction := .left,
     matcher := some fun _ i text => i + 1 == text.length }]

/-- A tokenizer with one column for all lines that goes to and fro. -/
def swaying : Tokenizer where
  registry := { rules := swayingRules }
  config := { memory := .lastLine, maxSteps := some 14 }

/-- Where a scan with one column for all lines turns on line feeds, lines and columns leave the text. On the line feed of the
first text it turns to the right, and comes to a line before the first one. On that of the second text it turns to the left,
and comes to a line after the last one. Between those of the third text it comes to a column larger than the text is long. -/
theorem tokenize_lines_drift :
    Tokenizer.registerAll { config := swaying.config } swayingRules = .ok swaying ∧
    (∃ step ∈ (swaying.tokenize ['\n', 'b']).last.steps.toList, step.point.line.toNat < 1) ∧
    (∃ step ∈ (swaying.tokenize ['b', '\n']).last.steps.toList, 1 + ['b', '\n'].count '\n' < step.point.line.toNat) ∧
    ∃ step ∈ (swaying.tokenize ['\n', 'b', '\n']).last.steps.toList,
      ['\n', 'b', '\n'].length < step.point.column.toNat :=
  ⟨rfl, by decide +kernel, by decide +kernel, by decide +kernel⟩

end RuleScanner
