import RuleScanner.Proofs.Moves
import RuleScanner.Proofs.OneWay

/-!
# One column for all lines, after a reversal

A cursor with one column for all lines goes right to a character, turns, and goes left. On its way right it knows the point of
each character, and remembers the column at which the last line has ended (`Cursor.Unturned`). On its way left it takes that column
for each line feed that it comes to, whichever line the line feed ends, and counts down from there, but not below zero
(`Cursor.Returning`). The lines count the line feeds on its left, and one more if it has turned on a line feed.

So a character that is no line feed has its own line again, if the cursor has not turned on a line feed. In the first line that
the cursor comes back to, the columns are too small by one: the line feed has taken the column of the character before it.
-/

namespace RuleScanner

/-! ## Line feeds -/

namespace Text

/-- The text has no line feed from `i` on before `j`. -/
def NoFeed (text : Text) (i j : Nat) : Prop := ∀ n, i ≤ n → n < j → text[n]? ≠ some '\n'

/-- The first line feed of the text from `i` on is at `p`. -/
structure FirstFeed (text : Text) (i p : Nat) : Prop where
  le : i ≤ p
  feed : text[p]? = some '\n'
  before : text.NoFeed i p

/-- The last line feed of the text up to and including `k` is at `q`. -/
structure LastFeed (text : Text) (k q : Nat) : Prop where
  le : q ≤ k
  feed : text[q]? = some '\n'
  after : text.NoFeed (q + 1) (k + 1)

variable {text : Text} {i j k p q : Nat}

/-- A character is no line feed. -/
theorem noFeed_succ (hi : text[i]? ≠ some '\n') : text.NoFeed i (i + 1) := by
  intro n hin hni
  rwa [Nat.le_antisymm (Nat.le_of_lt_succ hni) hin]

theorem NoFeed.cons (h : text.NoFeed (i + 1) j) (hi : text[i]? ≠ some '\n') : text.NoFeed i j := by
  intro n hin hnj
  rcases Nat.lt_or_eq_of_le hin with hlt | rfl
  · exact h n hlt hnj
  · exact hi

/-- Without a line feed the line stays as it is. -/
theorem NoFeed.lineAfter_eq (h : text.NoFeed i j) (hij : i ≤ j) : text.lineAfter j = text.lineAfter i := by
  induction j, hij using Nat.le_induction with
  | base => rfl
  | succ j hij ih =>
    have hline := ih fun n hin hnj => h n hin (Nat.lt_succ_of_lt hnj)
    cases hc : text[j]? with
    | none => rw [lineAfter_succ_of_none hc, hline]
    | some c =>
      have hne : c ≠ '\n' := fun he => h j hij (Nat.lt_succ_self j) (he ▸ hc)
      rw [lineAfter_succ hc, if_neg hne, hline]
      rfl

/-- Without a line feed the column grows with each character. -/
theorem NoFeed.columnAfter_eq (h : text.NoFeed i j) (hij : i ≤ j) (hj : j ≤ text.length) :
    text.columnAfter j = text.columnAfter i + (j - i) := by
  induction j, hij using Nat.le_induction with
  | base => simp
  | succ j hij ih =>
    have hcolumn := ih (fun n hin hnj => h n hin (Nat.lt_succ_of_lt hnj)) (Nat.le_of_succ_le hj)
    have hc := List.getElem?_eq_getElem hj
    have hne : text[j] ≠ '\n' := fun he => h j hij (Nat.lt_succ_self j) (he ▸ hc)
    rw [columnAfter_succ hc, if_neg hne, hcolumn]
    omega

theorem lineAfter_mono (text : Text) (hij : i ≤ j) : text.lineAfter i ≤ text.lineAfter j :=
  Nat.add_le_add_left ((List.take_prefix_take_left hij).sublist.count_le '\n') 1

/-- If there is a line feed up to `k`, then there is a last one. -/
theorem exists_lastFeed (hp : p ≤ k) (hfeed : text[p]? = some '\n') : ∃ q, text.LastFeed k q := by
  induction k, hp using Nat.le_induction with
  | base => exact ⟨p, Nat.le_refl p, hfeed, fun n hpn hnp => absurd hpn (Nat.not_le_of_lt hnp)⟩
  | succ k hp ih =>
    by_cases hk : text[k + 1]? = some '\n'
    · exact ⟨k + 1, Nat.le_refl _, hk, fun n hpn hnp => absurd hpn (Nat.not_le_of_lt hnp)⟩
    · obtain ⟨q, hle, hfeed, hafter⟩ := ih
      refine ⟨q, Nat.le_succ_of_le hle, hfeed, fun n hqn hnk => ?_⟩
      rcases Nat.lt_succ_iff_lt_or_eq.1 hnk with hlt | rfl
      · exact hafter n hqn hlt
      · exact hk

/-- The column of the line that has ended last is the one before the last line feed. -/
theorem LastFeed.headD_columnsAfter (h : text.LastFeed k q) :
    (text.columnsAfter (k + 1)).headD 0 = .ofNat (text.columnAfter q) := by
  obtain ⟨hle, hfeed, hafter⟩ := h
  induction k, hle using Nat.le_induction with
  | base => simp [columnsAfter, hfeed]
  | succ k hle ih =>
    have hno := hafter (k + 1) (Nat.succ_le_succ hle) (Nat.lt_succ_self _)
    rw [columnsAfter, if_neg hno]
    exact ih fun n hqn hnk => hafter n hqn (Nat.lt_succ_of_lt hnk)

/-- Where the line changes but once, the first line feed is the last one. -/
theorem FirstFeed.eq_of_lineAfter_le (hp : text.FirstFeed i p) (hq : text.LastFeed k q) (hpk : p ≤ k)
    (hline : text.lineAfter (k + 1) ≤ text.lineAfter i + 1) : p = q := by
  have hpFeed := lineAfter_succ hp.feed
  have hqFeed := lineAfter_succ hq.feed
  rw [if_pos rfl] at hpFeed hqFeed
  rcases Nat.lt_trichotomy p q with hlt | heq | hgt
  · have hstart := text.lineAfter_mono hp.le
    have hbetween := text.lineAfter_mono (show p + 1 ≤ q from hlt)
    have hend := text.lineAfter_mono (Nat.add_le_add_right hq.le 1)
    omega
  · exact heq
  · exact absurd hp.feed (hq.after p hgt (Nat.lt_succ_of_le hpk))

end Text

namespace Cursor

variable {text : Text} {k : Cursor} {turn : Nat}

/-! ## The way right -/

/-- A cursor with one column for all lines that has not turned yet. It knows the point of its character, and remembers the column
at which the last line has ended. -/
structure Unturned (text : Text) (k : Cursor) : Prop where
  direction : k.direction = .right
  point : k.point = text.pointAfter (k.index + 1)
  columns : k.columns = .lastLine ((text.columnsAfter (k.index + 1)).headD 0)

theorem unturned_enter (text : Text) : Unturned text ((initial .lastLine).enter text).2 := by
  unfold enter
  split
  · next c hc =>
    refine ⟨arriveRight_direction .., ?_, ?_⟩
    · rw [Text.pointAfter_succ hc]
      exact arriveRight_point _ c
    · rw [Text.columnsAfter_succ hc]
      unfold arriveRight
      split <;> rfl
  · next hc =>
    refine ⟨rfl, (Text.pointAfter_succ_of_none hc).symm, ?_⟩
    show Columns.lastLine 0 = .lastLine ((text.columnsAfter (0 + 1)).headD 0)
    rw [Text.columnsAfter_succ_of_none hc]
    rfl

/-- A move to the right goes to the next point, and remembers the column of the line that it ends. -/
theorem Unturned.moveRight (h : Unturned text k) : Unturned text (k.moveRight text).2 := by
  unfold Cursor.moveRight
  split
  · next c hc =>
    refine ⟨(arriveRight_direction ..).trans h.direction, ?_, ?_⟩
    · rw [Text.pointAfter_succ hc, ← h.point]
      exact arriveRight_point k c
    · rw [Text.columnsAfter_succ hc]
      unfold arriveRight
      split
      · simp only [h.columns, h.point, Columns.record, Text.pointAfter, List.headD_cons]
      · exact h.columns
  · next hc =>
    refine ⟨h.direction, h.point.trans (Text.pointAfter_succ_of_none hc).symm, ?_⟩
    rw [Text.columnsAfter_succ_of_none hc]
    exact h.columns

/-- After `n` moves a cursor that has not turned is `n` characters to the right, and counts the line feeds up to there. -/
theorem Unturned.foldl_advance (hlen : text.length < UInt32.size - 1) (h : Unturned text k) (hline : OnLine text 0 k) (n : Nat) :
    let k' := (List.replicate n Move.advance).foldl (perform text) k
    Unturned text k' ∧ OnLine text 0 k' ∧ k'.index = k.index + n := by
  induction n generalizing k with
  | zero => exact ⟨h, hline, rfl⟩
  | succ n ih =>
    have hmove : k.perform text .advance = (k.moveRight text).2 := by rw [perform, Cursor.advance, h.direction]
    obtain ⟨hthere, hthereLine, hindex⟩ := ih h.moveRight (hline.moveRight hlen h.direction)
    rw [moveRight_index] at hindex
    rw [List.replicate_succ, List.foldl_cons, hmove]
    exact ⟨hthere, hthereLine, by omega⟩

/-! ## The way left -/

/-- A cursor with one column for all lines that has turned to the left at `turn`. The column that it remembers is still the one from its
way right. As long as it has come to no line feed, it has the column of its character; then it counts down from the column that it
remembers, anew from each line feed that it comes to. -/
structure Returning (text : Text) (turn : Nat) (k : Cursor) : Prop where
  direction : k.direction = .left
  le : k.index ≤ turn
  columns : k.columns = .lastLine ((text.columnsAfter (turn + 1)).headD 0)
  column :
    text.NoFeed k.index turn ∧ k.point.column.toNat = text.columnAfter (turn + 1) - (turn - k.index) ∨
    ∃ p, text.FirstFeed k.index p ∧ p < turn ∧
      k.point.column.toNat = ((text.columnsAfter (turn + 1)).headD 0).toNat - (p - k.index)

/-- A cursor that turns to the left has the column of its character, and no line feed behind it. -/
theorem Unturned.face_left (hlen : text.length < UInt32.size - 1) (h : Unturned text k) :
    Returning text k.index (k.face .left) := by
  refine ⟨rfl, Nat.le_refl _, h.columns, Or.inl ⟨fun n hn hlt => absurd hn (Nat.not_le_of_lt hlt), ?_⟩⟩
  show k.point.column.toNat = text.columnAfter (k.index + 1) - (k.index - k.index)
  rw [h.point, (Text.toNat_pointAfter hlen _).2, Nat.sub_self, Nat.sub_zero]

/-- A move to the left starts anew on a line feed, and goes back by one column on any other character. -/
theorem Returning.moveLeft (h : Returning text turn k) : Returning text turn (k.moveLeft text).2 := by
  have hcolumns := h.columns
  have hle := h.le
  unfold Cursor.moveLeft
  split
  · exact h
  · next i hi =>
    split
    · next leaving arriving hl ha =>
      rw [hi] at hle
      simp only [arriveLeft, hcolumns]
      split
      · next hn =>
        have hfirst : text.FirstFeed i i :=
          ⟨Nat.le_refl i, hn ▸ ha, fun n hin hni => absurd hin (Nat.not_le_of_lt hni)⟩
        exact ⟨h.direction, Nat.le_of_succ_le hle, rfl, Or.inr ⟨i, hfirst, hle, by simp⟩⟩
      · next hn =>
        have hno : text[i]? ≠ some '\n' := by
          rw [ha]
          simpa using hn
        refine ⟨h.direction, Nat.le_of_succ_le hle, rfl, ?_⟩
        dsimp only
        rw [toNat_pred]
        rcases h.column with ⟨hfree, hcolumn⟩ | ⟨p, hfirst, hp, hcolumn⟩
        · rw [hi] at hfree hcolumn
          exact Or.inl ⟨hfree.cons hno, by omega⟩
        · rw [hi] at hfirst hcolumn
          have hip := hfirst.le
          exact Or.inr ⟨p, ⟨Nat.le_of_succ_le hip, hfirst.feed, hfirst.before.cons hno⟩, hp, by omega⟩
    · exact h

/-- After `n` moves a cursor that has turned is `n` characters to the left, or on the first one. -/
theorem Returning.foldl_advance (hturn : turn < text.length) {drift : Nat} (h : Returning text turn k)
    (hline : OnLine text drift k) (n : Nat) :
    let k' := (List.replicate n Move.advance).foldl (perform text) k
    Returning text turn k' ∧ OnLine text drift k' ∧ k'.index = k.index - n := by
  induction n generalizing k with
  | zero => exact ⟨h, hline, rfl⟩
  | succ n ih =>
    have hmove : k.perform text .advance = (k.moveLeft text).2 := by rw [perform, Cursor.advance, h.direction]
    obtain ⟨hthere, hthereLine, hindex⟩ := ih h.moveLeft (hline.moveLeft h.direction)
    rw [moveLeft_index (Nat.lt_of_le_of_lt h.le hturn)] at hindex
    rw [List.replicate_succ, List.foldl_cons, hmove]
    exact ⟨hthere, hthereLine, by omega⟩

/-- The moves that lead from the first character right to the one at `turn`, and from there left to the one at `i`. -/
def thereAndBack (turn i : Nat) : List Move :=
  List.replicate turn .advance ++ .face .left :: List.replicate (turn - i) .advance

/-- The cursor that has entered the text, with one column for all lines, and has gone right to `turn` and left to `i`. -/
def turnedBack (text : Text) (turn i : Nat) : Cursor :=
  (thereAndBack turn i).foldl (perform text) ((initial .lastLine).enter text).2

theorem returning_turnedBack (hlen : text.length < UInt32.size - 1) {i : Nat} (hi : i ≤ turn) (hturn : turn < text.length) :
    Returning text turn (turnedBack text turn i) ∧
      OnLine text (if text[turn]? = some '\n' then 1 else 0) (turnedBack text turn i) ∧ (turnedBack text turn i).index = i := by
  obtain ⟨hthere, hline, hindex⟩ := (unturned_enter text).foldl_advance hlen (.enter text) turn
  rw [turnedBack, thereAndBack, List.foldl_append, List.foldl_cons]
  generalize (List.replicate turn Move.advance).foldl (perform text) ((initial .lastLine).enter text).2 = k
    at hthere hline hindex ⊢
  rw [enter_initial_index, Nat.zero_add] at hindex
  subst hindex
  have hc := List.getElem?_eq_getElem hturn
  obtain ⟨hback, hbackLine, hreached⟩ :=
    (hthere.face_left hlen).foldl_advance hturn (hline.turnLeft hthere.direction hc) (k.index - i)
  rw [hc]
  simp only [Option.some.injEq]
  refine ⟨hback, hbackLine, hreached.trans ?_⟩
  show k.index - (k.index - i) = i
  omega

/-- The column that a cursor remembers on its way left is that of the character before the last line feed up to where it turned. -/
theorem Returning.column_cases (hlen : text.length < UInt32.size - 1) (h : Returning text turn k) :
    text.NoFeed k.index turn ∧ k.point.column.toNat = text.columnAfter (turn + 1) - (turn - k.index) ∨
    ∃ p q, text.FirstFeed k.index p ∧ p < turn ∧ text.LastFeed turn q ∧
      k.point.column.toNat = text.columnAfter q - (p - k.index) := by
  refine h.column.imp_right ?_
  rintro ⟨p, hfirst, hp, hcolumn⟩
  obtain ⟨q, hlast⟩ := Text.exists_lastFeed (Nat.le_of_lt hp) hfirst.feed
  have hle := text.columnAfter_le q
  rw [hlast.headD_columnsAfter, UInt32.toNat_ofNat_of_lt' (by omega)] at hcolumn
  exact ⟨p, q, hfirst, hp, hlast, hcolumn⟩

/-- On a character other than a line feed, in the line above that in which the cursor has turned, the column is too small by one. -/
theorem Returning.column_of_lineAbove (hlen : text.length < UInt32.size - 1) (h : Returning text turn k)
    (hturn : turn < text.length) (hnoTurn : text[turn]? ≠ some '\n') (hno : text[k.index]? ≠ some '\n')
    (hline : text.lineAfter (turn + 1) = text.lineAfter (k.index + 1) + 1) :
    k.point.column.toNat + 1 = text.columnAfter (k.index + 1) := by
  have hsame := (Text.noFeed_succ hno).lineAfter_eq (Nat.le_succ _)
  rcases h.column_cases hlen with ⟨hfree, -⟩ | ⟨p, q, hfirst, hp, hlast, hcolumn⟩
  · have hback := hfree.lineAfter_eq h.le
    have hat := (Text.noFeed_succ hnoTurn).lineAfter_eq (Nat.le_succ _)
    omega
  · obtain rfl := hfirst.eq_of_lineAfter_le hlast (Nat.le_of_lt hp) (by omega)
    have hlt : k.index < p := Nat.lt_of_le_of_ne hfirst.le fun he => hno (he ▸ hfirst.feed)
    have hc := List.getElem?_eq_getElem (show k.index < text.length by omega)
    have hne : text[k.index] ≠ '\n' := fun he => hno (he ▸ hc)
    have hpos := Text.columnAfter_succ hc
    rw [if_neg hne] at hpos
    have hgrown := hfirst.before.columnAfter_eq hfirst.le (by omega)
    omega

end Cursor

/-- With one column for all lines a reversal follows this law. Let a cursor go right to the character at `turn` and then left to the
one at `i`. Its line counts the line feeds on its left, and one more if it has turned on a line feed. Its column is that of `turn`
less the characters gone back, if there was no line feed among those that it has come to. Otherwise, where the first of these is at
`p`, it is the column of the character before the last line feed up to `turn`, less the characters gone back from `p`. Neither is
below zero. So if neither `turn` nor `i` is on a line feed, then the line is that of the character; and in the line above that of
`turn` the column is too small by one. -/
theorem cursor_turned_back (text : Text) (hlen : text.length < UInt32.size - 1) (turn i : Nat) (hi : i < turn)
    (hturn : turn < text.length) :
    let k := Cursor.turnedBack text turn i
    k.index = i ∧
    k.point.line.toNat = 1 + (text.take i).count '\n' + (if text[turn]? = some '\n' then 1 else 0) ∧
    (text.NoFeed i turn ∧ k.point.column.toNat = text.columnAfter (turn + 1) - (turn - i) ∨
      ∃ p q, text.FirstFeed i p ∧ p < turn ∧ text.LastFeed turn q ∧
        k.point.column.toNat = text.columnAfter q - (p - i)) ∧
    (text[turn]? ≠ some '\n' → text[i]? ≠ some '\n' →
      k.point.line.toNat = text.lineAfter (i + 1) ∧
      (text.lineAfter (turn + 1) = text.lineAfter (i + 1) + 1 → k.point.column.toNat + 1 = text.columnAfter (i + 1))) := by
  intro k
  obtain ⟨hreturning, honLine, hindex⟩ := Cursor.returning_turnedBack hlen (Nat.le_of_lt hi) hturn
  have hcolumn := hreturning.column_cases hlen
  have hline := honLine.line
  simp only [Cursor.passed, hreturning.direction, hindex] at hcolumn hline
  refine ⟨hindex, hline, hcolumn, fun hnoTurn hno => ⟨?_, fun habove => ?_⟩⟩
  · rw [hline, if_neg hnoTurn, (Text.noFeed_succ hno).lineAfter_eq (Nat.le_succ i), Nat.add_zero]
  · rw [← hindex] at hno habove ⊢
    exact hreturning.column_of_lineAbove hlen hturn hnoTurn hno habove

/-- In this text the cursor turns on the last line. In the line above, on the `c`, it is in the right line and one column before
the right one, which is column 1. In the first line, on the `a`, it has counted down from the end of the second line. -/
theorem cursor_turned_back_twice :
    let text : Text := ['a', '\n', 'c', 'd', 'd', '\n', 'e']
    (∃ above, above = Cursor.turnedBack text 6 2 ∧ above.index = 2 ∧ above.point.line.toNat = 2 ∧
      above.point.column.toNat = 0) ∧
    ∃ first, first = Cursor.turnedBack text 6 0 ∧ first.index = 0 ∧ first.point.line.toNat = 1 ∧
      ∃ p q, text.FirstFeed 0 p ∧ p < 6 ∧ text.LastFeed 6 q ∧ first.point.column.toNat = text.columnAfter q - (p - 0) := by
  intro text
  obtain ⟨habove, hline, -, hright⟩ := cursor_turned_back text (by decide) 6 2 (by decide) (by decide)
  obtain ⟨hfirst, hlineFirst, hcolumns, -⟩ := cursor_turned_back text (by decide) 6 0 (by decide) (by decide)
  have hcolumn := (hright (by decide) (by decide)).2 (by decide)
  have hone : text.columnAfter (2 + 1) = 1 := by decide
  have hfeed : ¬ text.NoFeed 0 6 := fun hfree => hfree 1 (by decide) (by decide) rfl
  exact ⟨⟨_, rfl, habove, hline.trans (by decide), by omega⟩,
    ⟨_, rfl, hfirst, hlineFirst.trans (by decide), hcolumns.resolve_left fun h => hfeed h.1⟩⟩

end RuleScanner
