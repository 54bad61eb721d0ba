import RuleScanner.Text.Word

/-!
# Words as longest runs

A word of a text is a longest run of characters that are not white space (`Text.IsWord`). The word that a text has at an index is
found by going left and right from there. Two words that share a character are one, so that there is one place at which a word
starts (`Text.IsWord.start_eq`) and one word that starts there (`Text.IsWord.stop_eq`).
-/

namespace RuleScanner.Text

/-- From `start` up to and without `stop` the text has a word: none of its characters is white space, and it cannot be made longer. -/
structure IsWord (text : Text) (start stop : Nat) : Prop where
  lt : start < stop
  inside : ∀ i, start ≤ i → i < stop → text.inWord i
  before : ∀ i, start = i + 1 → ¬ text.inWord i
  after : ¬ text.inWord stop

variable {text : Text}

theorem inWord_iff {i : Nat} : text.inWord i ↔ ∃ c, text[i]? = some c ∧ Unicode.isWhiteSpace c = false := by
  rw [inWord]
  cases text[i]? <;> simp

namespace IsWord

variable {start stop : Nat}

/-- A word that starts inside of another one starts where that one does. -/
theorem start_eq (h : text.IsWord start stop) {i j : Nat} (hi : text.IsWord i j) (hle : start ≤ i) (hlt : i < stop) :
    i = start := by
  rcases Nat.lt_or_eq_of_le hle with hbelow | heq
  · obtain ⟨k, rfl⟩ : ∃ k, i = k + 1 := ⟨i - 1, by omega⟩
    exact absurd (h.inside k (by omega) (by omega)) (hi.before k rfl)
  · exact heq.symm

/-- Words that start at one place end at one place. -/
theorem stop_eq (h : text.IsWord start stop) {stop' : Nat} (h' : text.IsWord start stop') : stop' = stop := by
  rcases Nat.lt_trichotomy stop' stop with hlt | heq | hgt
  · exact absurd (h.inside stop' (Nat.le_of_lt h'.lt) hlt) h'.after
  · exact heq
  · exact absurd (h'.inside stop (Nat.le_of_lt h.lt) hgt) h.after

end IsWord

/-! ## The word at an index -/

theorem wordStart_le (text : Text) (i : Nat) : text.wordStart i ≤ i := by
  induction i with
  | zero => exact Nat.le_refl 0
  | succ i ih =>
    rw [wordStart]
    split
    · exact Nat.le_succ_of_le ih
    · exact Nat.le_refl _

/-- No word reaches `i` from the left exactly if there is none just before. -/
theorem wordStart_eq_self_iff {i : Nat} : text.wordStart i = i ↔ ∀ j, i = j + 1 → ¬ text.inWord j := by
  cases i with
  | zero => simp [wordStart]
  | succ i =>
    rw [wordStart]
    split
    · next hin =>
      have hle := text.wordStart_le i
      refine iff_of_false (by omega) fun hbefore => ?_
      exact hbefore i rfl hin
    · next hin =>
      refine iff_of_true rfl ?_
      rintro j ⟨⟩
      exact hin

/-- Counted from `i` on, the characters before the first white space are those of a word. -/
theorem inWord_of_lt_wordLength {i j : Nat} (hj : j < wordLength (text.drop i)) : text.inWord (i + j) := by
  have hget : text[i + j]? = ((text.drop i).takeWhile (!Unicode.isWhiteSpace ·))[j]? := by
    rw [← List.getElem?_drop]
    exact (congrArg (·[j]?) List.takeWhile_append_dropWhile).symm.trans (List.getElem?_append_left hj)
  rw [List.getElem?_eq_getElem hj] at hget
  exact inWord_iff.2 ⟨_, hget, by simpa using List.all_eq_true.1 List.all_takeWhile _ (List.getElem_mem hj)⟩

/-- The first white space from `i` on, or the end of the text, belongs to no word. -/
theorem not_inWord_wordLength (text : Text) (i : Nat) : ¬ text.inWord (i + wordLength (text.drop i)) := by
  have hget : text[i + wordLength (text.drop i)]? = ((text.drop i).dropWhile (!Unicode.isWhiteSpace ·)).head? := by
    rw [← List.getElem?_drop, List.head?_eq_getElem?, ← Nat.sub_self (wordLength (text.drop i))]
    exact (congrArg (·[wordLength (text.drop i)]?) List.takeWhile_append_dropWhile).symm.trans
      (List.getElem?_append_right (Nat.le_refl _))
  rw [inWord_iff, hget]
  rintro ⟨c, hc, hno⟩
  have hnot := List.head?_dropWhile_not (!Unicode.isWhiteSpace ·) (text.drop i)
  rw [hc] at hnot
  simp [hno] at hnot

/-- From where a word starts up to the index there are only characters of it. -/
theorem inWord_of_wordStart_le {i j : Nat} (hle : text.wordStart i ≤ j) (hlt : j < i) : text.inWord j := by
  induction i with
  | zero => exact absurd hlt (Nat.not_lt_zero j)
  | succ i ih =>
    rw [wordStart] at hle
    split at hle
    · next hin =>
      rcases Nat.lt_or_eq_of_le (Nat.le_of_lt_succ hlt) with hbelow | rfl
      · exact ih hle hbelow
      · exact hin
    · exact absurd hlt (Nat.not_lt_of_le hle)

/-- There is no character of a word before its start. -/
theorem not_inWord_before_wordStart {i j : Nat} (h : text.wordStart i = j + 1) : ¬ text.inWord j := by
  induction i with
  | zero => cases h
  | succ i ih =>
    rw [wordStart] at h
    split at h
    · exact ih h
    · next hin =>
      cases h
      exact hin

theorem wordLength_pos {i : Nat} (h : text.inWord i) : 0 < wordLength (text.drop i) := by
  rcases Nat.eq_zero_or_pos (wordLength (text.drop i)) with hzero | hpos
  · have hnot := text.not_inWord_wordLength i
    rw [hzero, Nat.add_zero] at hnot
    exact absurd h hnot
  · exact hpos

/-- Around each character that is not white space there is a word. -/
theorem isWord_of_inWord {i : Nat} (h : text.inWord i) : text.IsWord (text.wordStart i) (i + wordLength (text.drop i)) := by
  have hpos := wordLength_pos h
  have hle := text.wordStart_le i
  refine ⟨by omega, fun j hstart hstop => ?_, fun _ => not_inWord_before_wordStart, text.not_inWord_wordLength i⟩
  rcases Nat.lt_or_ge j i with hbefore | hafter
  · exact inWord_of_wordStart_le hstart hbefore
  · have hj : text.inWord (i + (j - i)) := inWord_of_lt_wordLength (by omega)
    rwa [Nat.add_sub_cancel' hafter] at hj

theorem isWord_of_isWordStart {i : Nat} (h : text.isWordStart i) : text.IsWord i (i + wordLength (text.drop i)) := by
  rw [isWordStart, Bool.and_eq_true, beq_iff_eq] at h
  have hword := isWord_of_inWord h.1
  rwa [h.2] at hword

/-- A word starts at an index exactly if there is one from there on. -/
theorem isWordStart_iff {i : Nat} : text.isWordStart i ↔ ∃ stop, text.IsWord i stop := by
  constructor
  · intro h
    exact ⟨_, isWord_of_isWordStart h⟩
  · rintro ⟨stop, h⟩
    rw [isWordStart, Bool.and_eq_true, beq_iff_eq, wordStart_eq_self_iff]
    exact ⟨h.inside i (Nat.le_refl i) h.lt, h.before⟩

namespace IsWord

variable {start stop : Nat}

/-- The word around an index is the word at the index. -/
theorem wordAt_of_mem (h : text.IsWord start stop) {i : Nat} (hle : start ≤ i) (hlt : i < stop) :
    text.wordAt i = text.extract start stop := by
  have hin := h.inside i hle hlt
  have hword := isWord_of_inWord hin
  have hstart : text.wordStart i = start := by
    have hi := text.wordStart_le i
    have hpos := wordLength_pos hin
    rcases Nat.le_total start (text.wordStart i) with hbelow | habove
    · exact h.start_eq hword hbelow (by omega)
    · exact (hword.start_eq h habove (by omega)).symm
  rw [hstart] at hword
  rw [wordAt, wordBounds, if_pos hin, hstart, h.stop_eq hword, List.extract]

/-- The word that starts at an index is the word at the index. -/
theorem wordAt_eq (h : text.IsWord start stop) : text.wordAt start = text.extract start stop :=
  h.wordAt_of_mem (Nat.le_refl start) h.lt

/-- The words that an index lies in, by the word at the index. -/
theorem exists_mem_iff {P : List Char → Prop} {i : Nat} :
    (∃ start stop, text.IsWord start stop ∧ start ≤ i ∧ i < stop ∧ P (text.extract start stop)) ↔
      text.inWord i ∧ P (text.wordAt i) := by
  constructor
  · rintro ⟨start, stop, hword, hle, hlt, hP⟩
    rw [hword.wordAt_of_mem hle hlt]
    exact ⟨hword.inside i hle hlt, hP⟩
  · rintro ⟨hin, hP⟩
    have hword := isWord_of_inWord hin
    have hle := text.wordStart_le i
    have hlt := Nat.lt_add_of_pos_right (n := i) (wordLength_pos hin)
    rw [hword.wordAt_of_mem hle hlt] at hP
    exact ⟨_, _, hword, hle, hlt, hP⟩

/-- A word begins with the character at its start. -/
theorem head?_extract (h : text.IsWord start stop) : (text.extract start stop).head? = text[start]? := by
  have hlt := h.lt
  rw [List.extract_eq_take_drop, List.head?_take, if_neg (by omega), List.head?_drop]

end IsWord

end RuleScanner.Text
