import RuleScanner.Text.Cursor

/-!
# Where a cursor goes

Main statements: a skip to the right that meets no end stands as far to the right as it was told to go, inside the text
(`Cursor.forward_index`), and it meets an end only if it was told to go there (`Cursor.forward_fst`); a skip to the left stands as
far to the left as it was told to go, or on the first character (`Cursor.backward_index`); neither skip changes the direction.
-/

namespace RuleScanner.Cursor

@[simp] theorem arriveRight_index (k : Cursor) (c : Char) : (k.arriveRight c).index = k.index := by
  unfold arriveRight; split <;> rfl

@[simp] theorem arriveRight_direction (k : Cursor) (c : Char) : (k.arriveRight c).direction = k.direction := by
  unfold arriveRight; split <;> rfl

@[simp] theorem arriveLeft_direction (k : Cursor) (leaving arriving : Char) :
    (k.arriveLeft leaving arriving).direction = k.direction := by
  unfold arriveLeft; split <;> split <;> rfl

@[simp] theorem enter_initial_index (memory : ColumnMemory) (text : Text) :
    ((initial memory).enter text).2.index = 0 := by
  unfold enter; split <;> rfl

@[simp] theorem enter_initial_direction (memory : ColumnMemory) (text : Text) :
    ((initial memory).enter text).2.direction = .right := by
  unfold enter; split
  · simp [initial]
  · rfl

@[simp] theorem moveRight_direction (k : Cursor) (text : Text) : (k.moveRight text).2.direction = k.direction := by
  unfold moveRight; split <;> simp

@[simp] theorem moveLeft_direction (k : Cursor) (text : Text) : (k.moveLeft text).2.direction = k.direction := by
  unfold moveLeft; split
  · rfl
  · split <;> simp

@[simp] theorem advance_direction (k : Cursor) (text : Text) : (k.advance text).2.direction = k.direction := by
  unfold advance; split <;> simp

@[simp] theorem moveRight_index (k : Cursor) (text : Text) : (k.moveRight text).2.index = k.index + 1 := by
  unfold moveRight; split <;> rfl

/-- A move to the right stays in the text exactly when there is a next character. -/
theorem moveRight_fst (k : Cursor) (text : Text) : (k.moveRight text).1 = decide (k.index + 1 < text.length) := by
  unfold moveRight
  split
  · next h => simp [(List.getElem?_eq_some_iff.1 h).1]
  · next h => simp [List.getElem?_eq_none_iff.1 h]

@[simp] theorem forward_direction (text : Text) (n : Nat) (k : Cursor) :
    (forward text n k).2.direction = k.direction := by
  induction n generalizing k with
  | zero => rfl
  | succ n ih =>
    rw [forward]
    have h := moveRight_direction k text
    split
    · next k' e => rw [ih, ← h, e]
    · next k' e => rw [← h, e]

@[simp] theorem backward_direction (text : Text) (n : Nat) (k : Cursor) :
    (backward text n k).direction = k.direction := by
  induction n generalizing k with
  | zero => rfl
  | succ n ih =>
    rw [backward]
    have h := moveLeft_direction k text
    split
    · next k' e => rw [ih, ← h, e]
    · next k' e => rw [← h, e]

/-- A skip of `n` characters to the right that meets no end goes exactly so far, and a skip of any length ends in the text. -/
theorem forward_index {text : Text} {n : Nat} {k k' : Cursor} (h : forward text n k = (true, k')) :
    k'.index = k.index + n ∧ (n ≠ 0 → k'.index < text.length) := by
  induction n generalizing k with
  | zero => simp_all [forward]
  | succ n ih =>
    rw [forward] at h
    have hi := moveRight_index k text
    have hf := moveRight_fst k text
    split at h
    · next k₁ e =>
      obtain ⟨h₁, h₂⟩ := ih h
      rw [e] at hi hf
      simp only [true_eq_decide_iff] at hf
      dsimp only at hi
      refine ⟨by omega, fun _ => ?_⟩
      by_cases hn : n = 0
      · omega
      · exact h₂ hn
    · simp at h

/-- A skip to the right meets an end exactly if it goes beyond the last character. -/
theorem forward_fst (text : Text) (n : Nat) (k : Cursor) :
    (forward text n k).1 = decide (n = 0 ∨ k.index + n < text.length) := by
  induction n generalizing k with
  | zero => rfl
  | succ n ih =>
    rw [forward]
    have hi := moveRight_index k text
    have hf := moveRight_fst k text
    split
    · next k' e =>
      rw [e] at hi hf
      simp only [true_eq_decide_iff] at hf
      rw [ih, hi, decide_eq_decide]
      omega
    · next k' e =>
      rw [e] at hf
      simp only [false_eq_decide_iff] at hf
      rw [false_eq_decide_iff]
      omega

theorem moveLeft_of_index_zero {k : Cursor} (hi : k.index = 0) (text : Text) : k.moveLeft text = (false, k) := by
  unfold moveLeft
  rw [hi]

/-- A move to the left from a character other than the first goes to the one before. -/
theorem moveLeft_of_index_succ {text : Text} {k : Cursor} {i : Nat} (hi : k.index = i + 1) (h : k.index < text.length) :
    ∃ k', k.moveLeft text = (true, k') ∧ k'.index = i := by
  have hleaving := List.getElem?_eq_getElem (show i + 1 < text.length by omega)
  have harriving := List.getElem?_eq_getElem (show i < text.length by omega)
  unfold moveLeft
  rw [hi]
  simp only [hleaving, harriving]
  exact ⟨_, rfl, rfl⟩

theorem moveLeft_index {text : Text} {k : Cursor} (h : k.index < text.length) : (k.moveLeft text).2.index = k.index - 1 := by
  cases hi : k.index with
  | zero =>
    rw [moveLeft_of_index_zero hi]
    exact hi
  | succ i =>
    obtain ⟨k', hk', hindex⟩ := moveLeft_of_index_succ hi h
    rw [hk']
    exact hindex

theorem moveLeft_index_le (k : Cursor) (text : Text) : (k.moveLeft text).2.index ≤ k.index := by
  unfold moveLeft
  split
  · exact Nat.le_refl _
  · next i hi =>
    split
    · exact hi ▸ Nat.le_succ i
    · exact Nat.le_refl _

theorem advance_index_right {k : Cursor} (hd : k.direction = .right) (text : Text) :
    (k.advance text).2.index = k.index + 1 := by
  rw [advance, hd]
  exact k.moveRight_index text

theorem advance_index_left {text : Text} {k : Cursor} (hd : k.direction = .left) (h : k.index < text.length) :
    (k.advance text).2.index = k.index - 1 := by
  rw [advance, hd]
  exact moveLeft_index h

/-- A skip of `n` characters to the left, from a character of the text, goes exactly so far or to the first character. -/
theorem backward_index {text : Text} {k : Cursor} (h : k.index < text.length) (n : Nat) :
    (backward text n k).index = k.index - n := by
  induction n generalizing k with
  | zero => rfl
  | succ n ih =>
    rw [backward]
    cases hi : k.index with
    | zero =>
      rw [moveLeft_of_index_zero hi]
      simpa using hi
    | succ i =>
      obtain ⟨k', hk', hindex⟩ := moveLeft_of_index_succ hi h
      rw [hk']
      simp only
      rw [ih (by omega), hindex]
      omega

@[simp] theorem skipTo_direction (k : Cursor) (text : Text) (target : Nat) :
    (k.skipTo text target).2.direction = k.direction := forward_direction ..

@[simp] theorem skipBackTo_direction (k : Cursor) (text : Text) (target : Nat) :
    (k.skipBackTo text target).2.direction = k.direction := backward_direction ..

end RuleScanner.Cursor
