import RuleScanner.Demo
import RuleScanner.Proofs.Anchoring

/-!
# Words divide a text

The word at an index is found by two searches, one to the left and one to the right, each for the nearest white space. Nothing
depends on which characters are white space, so that the searches are stated here for any blanks (`Text.runBounds`). They meet in one
range, however they are started: it holds no blank and cannot be made longer (`Text.IsRun`), and there is but one such range around
an index (`Text.IsRun.unique`). So all characters of a word have the same bounds. The words of a text, and the matchers that look at
them, are those for white space (`Text.wordBounds_eq`).
-/

namespace RuleScanner

namespace Text

/-! ## Runs -/

/-- From `start` up to and without `stop` the text has no blank, and at both ends there is a blank or the end of the text. -/
structure IsRun (blank : Char → Bool) (text : Text) (start stop : Nat) : Prop where
  lt : start < stop
  le_length : stop ≤ text.length
  inside : ∀ n c, start ≤ n → n < stop → text[n]? = some c → blank c = false
  before : start = 0 ∨ ∃ c, text[start - 1]? = some c ∧ blank c
  after : stop = text.length ∨ ∃ c, text[stop]? = some c ∧ blank c

/-- The range around an index without blanks: back to the nearest blank before it, and on to the nearest blank after it. It is empty at
an index that is on a blank or outside the text. -/
def runBounds (blank : Char → Bool) (text : Text) (index : Nat) : Nat × Nat :=
  if text[index]?.all blank then (index, index)
  else (index - (text.take index).reverse.findIdx blank, index + (text.drop index).findIdx blank)

variable {blank : Char → Bool} {text : Text} {start stop i : Nat}

/-- Before the first blank of a text there is none, and at its index there is one, if it has any. -/
theorem findIdx_spec (blank : Char → Bool) (text : Text) :
    (∀ n c, n < text.findIdx blank → text[n]? = some c → blank c = false) ∧
      (text.findIdx blank = text.length ∨ ∃ c, text[text.findIdx blank]? = some c ∧ blank c) := by
  have hle : text.findIdx blank ≤ text.length := List.findIdx_le_length
  constructor
  · intro n c hn hc
    obtain ⟨-, rfl⟩ := List.getElem?_eq_some_iff.1 hc
    exact List.not_of_lt_findIdx hn
  · rcases Nat.lt_or_eq_of_le hle with hlt | heq
    · exact Or.inr ⟨_, List.getElem?_eq_getElem hlt, List.findIdx_getElem⟩
    · exact Or.inl heq

/-- Counted back from an index, the characters before it are those of the text. -/
theorem getElem?_reverse_take (hi : i ≤ text.length) {n : Nat} (hn : n < i) :
    (text.take i).reverse[n]? = text[i - 1 - n]? := by
  have hlength : (text.take i).length = i := List.length_take_of_le hi
  rw [List.getElem?_reverse (by omega), List.getElem?_take, if_pos (by omega), hlength]

/-- The search to the left passes no blank, and stops behind one or at the start of the text. -/
theorem findIdx_left_spec (blank : Char → Bool) (hi : i ≤ text.length) :
    let back := (text.take i).reverse.findIdx blank
    back ≤ i ∧ (∀ n c, i - back ≤ n → n < i → text[n]? = some c → blank c = false) ∧
      (i - back = 0 ∨ ∃ c, text[i - back - 1]? = some c ∧ blank c) := by
  intro back
  obtain ⟨hinside, hend⟩ := findIdx_spec blank (text.take i).reverse
  have hlength : (text.take i).reverse.length = i := by rw [List.length_reverse, List.length_take_of_le hi]
  have hle : back ≤ (text.take i).reverse.length := List.findIdx_le_length
  refine ⟨by omega, fun n c hn hlt hc => ?_, ?_⟩
  · refine hinside (i - 1 - n) c (by omega) ?_
    rwa [getElem?_reverse_take hi (by omega), show i - 1 - (i - 1 - n) = n by omega]
  · rcases hend with hall | ⟨c, hc, hb⟩
    · exact Or.inl (by omega)
    · have hlt := (List.getElem?_eq_some_iff.1 hc).1
      rw [getElem?_reverse_take hi (by omega)] at hc
      exact Or.inr ⟨c, by rwa [show i - back - 1 = i - 1 - back by omega], hb⟩

/-- The search to the right passes no blank, and stops at one or at the end of the text. -/
theorem findIdx_right_spec (blank : Char → Bool) (hi : i ≤ text.length) :
    let on := (text.drop i).findIdx blank
    i + on ≤ text.length ∧ (∀ n c, i ≤ n → n < i + on → text[n]? = some c → blank c = false) ∧
      (i + on = text.length ∨ ∃ c, text[i + on]? = some c ∧ blank c) := by
  intro on
  obtain ⟨hinside, hend⟩ := findIdx_spec blank (text.drop i)
  have hlength : (text.drop i).length = text.length - i := List.length_drop
  have hle : on ≤ (text.drop i).length := List.findIdx_le_length
  refine ⟨by omega, fun n c hn hlt hc => ?_, ?_⟩
  · refine hinside (n - i) c (by omega) ?_
    rwa [List.getElem?_drop, Nat.add_sub_cancel' hn]
  · rcases hend with hall | ⟨c, hc, hb⟩
    · exact Or.inl (by omega)
    · rw [List.getElem?_drop] at hc
      exact Or.inr ⟨c, hc, hb⟩

theorem runBounds_of_blank (h : ∀ c, text[i]? = some c → blank c) : text.runBounds blank i = (i, i) := by
  rw [runBounds, if_pos]
  rwa [Option.all_eq_true]

/-- On a character that is no blank the two searches give a run around it. -/
theorem isRun_runBounds {c : Char} (hc : text[i]? = some c) (hb : blank c = false) :
    ∃ start stop, text.runBounds blank i = (start, stop) ∧ start ≤ i ∧ i < stop ∧ text.IsRun blank start stop := by
  have hi := (List.getElem?_eq_some_iff.1 hc).1
  obtain ⟨-, hinside, hbefore⟩ := findIdx_left_spec blank (Nat.le_of_lt hi)
  obtain ⟨hle, hinside', hafter⟩ := findIdx_right_spec blank (Nat.le_of_lt hi)
  have hne : i + (text.drop i).findIdx blank ≠ i := by
    intro he
    rw [he] at hafter
    rcases hafter with hend | ⟨c', hc', hb'⟩
    · omega
    · obtain rfl := Option.some.inj (hc.symm.trans hc')
      rw [hb] at hb'
      cases hb'
  refine ⟨_, _, by rw [runBounds, hc, Option.all_some, hb]; rfl, Nat.sub_le .., by omega, ?_⟩
  refine ⟨by omega, hle, fun n c hn hlt hc => ?_, hbefore, hafter⟩
  rcases Nat.lt_or_ge n i with hleft | hright
  · exact hinside n c hn hleft hc
  · exact hinside' n c hright hlt hc

namespace IsRun

variable {start' stop' : Nat}

/-- Of two runs around an index none starts after the other one. -/
theorem start_le (h : text.IsRun blank start stop) (h' : text.IsRun blank start' stop') (hi : i < stop) (hi' : start' ≤ i) :
    start' ≤ start := by
  rcases h'.before with hzero | ⟨c, hc, hb⟩
  · omega
  · refine Nat.le_of_not_lt fun hlt => ?_
    rw [h.inside _ c (by omega) (by omega) hc] at hb
    cases hb

/-- Of two runs around an index none ends before the other one. -/
theorem stop_le (h : text.IsRun blank start stop) (h' : text.IsRun blank start' stop') (hi : start ≤ i) (hi' : i < stop') :
    stop ≤ stop' := by
  rcases h'.after with hend | ⟨c, hc, hb⟩
  · rw [hend]
    exact h.le_length
  · refine Nat.le_of_not_lt fun hlt => ?_
    rw [h.inside _ c (by omega) hlt hc] at hb
    cases hb

/-- There is one run around an index. -/
theorem unique (h : text.IsRun blank start stop) (h' : text.IsRun blank start' stop') (hle : start ≤ i) (hlt : i < stop)
    (hle' : start' ≤ i) (hlt' : i < stop') : start' = start ∧ stop' = stop :=
  ⟨Nat.le_antisymm (h.start_le h' hlt hle') (h'.start_le h hlt' hle),
    Nat.le_antisymm (h'.stop_le h hle' hlt) (h.stop_le h' hle hlt')⟩

/-- All characters of a run have its bounds. -/
theorem runBounds_eq (h : text.IsRun blank start stop) (hle : start ≤ i) (hlt : i < stop) :
    text.runBounds blank i = (start, stop) := by
  have hc := List.getElem?_eq_getElem (Nat.lt_of_lt_of_le hlt h.le_length)
  obtain ⟨start', stop', hbounds, hle', hlt', h'⟩ := isRun_runBounds hc (h.inside i _ hle hlt hc)
  obtain ⟨rfl, rfl⟩ := h.unique h' hle hlt hle' hlt'
  exact hbounds

end IsRun

/-! ## What looks at runs -/

/-- A run starts at the index. -/
def isRunStart (blank : Char → Bool) (text : Text) (index : Nat) : Bool :=
  let (start, stop) := text.runBounds blank index
  start < stop && start == index

/-- The index is in a run, and the condition holds of the characters of the run. -/
def runHolds (blank : Char → Bool) (holds : List Char → Bool) (text : Text) (index : Nat) : Bool :=
  let (start, stop) := text.runBounds blank index
  start < stop && holds (text.extract start stop)

theorem IsRun.isRunStart_iff (h : text.IsRun blank start stop) (hle : start ≤ i) (hlt : i < stop) :
    text.isRunStart blank i ↔ i = start := by
  rw [isRunStart, h.runBounds_eq hle hlt]
  simp only [h.lt, decide_true, Bool.true_and, beq_iff_eq]
  exact eq_comm

theorem IsRun.runHolds_eq (h : text.IsRun blank start stop) (hle : start ≤ i) (hlt : i < stop) (holds : List Char → Bool) :
    text.runHolds blank holds i = holds (text.extract start stop) := by
  rw [runHolds, h.runBounds_eq hle hlt]
  simp only [h.lt, decide_true, Bool.true_and]

/-! ## Words -/

theorem isWhiteSpace_of_not_inWord (h : ¬ text.inWord i) {c : Char} (hc : text[i]? = some c) : Unicode.isWhiteSpace c := by
  cases hspace : Unicode.isWhiteSpace c with
  | true => rfl
  | false => exact absurd (inWord_iff.2 ⟨c, hc, hspace⟩) h

/-- A word is a run without white space. -/
theorem IsWord.isRun (h : text.IsWord start stop) : text.IsRun Unicode.isWhiteSpace start stop := by
  have hlt := h.lt
  have hlast : stop - 1 < text.length := by
    obtain ⟨c, hc, -⟩ := inWord_iff.1 (h.inside (stop - 1) (by omega) (by omega))
    exact (List.getElem?_eq_some_iff.1 hc).1
  refine ⟨hlt, by omega, fun n c hn hns hc => ?_, ?_, ?_⟩
  · obtain ⟨c', hc', hno⟩ := inWord_iff.1 (h.inside n hn hns)
    obtain rfl := Option.some.inj (hc.symm.trans hc')
    exact hno
  · rcases Nat.eq_zero_or_eq_succ_pred start with hzero | hsucc
    · exact Or.inl hzero
    · have hc := List.getElem?_eq_getElem (show start - 1 < text.length by omega)
      exact Or.inr ⟨_, hc, isWhiteSpace_of_not_inWord (h.before (start - 1) hsucc) hc⟩
  · rcases Nat.lt_or_eq_of_le (show stop ≤ text.length by omega) with hbelow | hend
    · have hc := List.getElem?_eq_getElem hbelow
      exact Or.inr ⟨_, hc, isWhiteSpace_of_not_inWord h.after hc⟩
    · exact Or.inl hend

/-- The word around an index is the run around it without white space. -/
theorem wordBounds_eq (text : Text) (i : Nat) : text.wordBounds i = text.runBounds Unicode.isWhiteSpace i := by
  rw [wordBounds]
  split
  · next hin =>
    have hpos := wordLength_pos hin
    exact ((isWord_of_inWord hin).isRun.runBounds_eq (text.wordStart_le i) (by omega)).symm
  · next hin => exact (runBounds_of_blank fun c hc => isWhiteSpace_of_not_inWord hin hc).symm

/-- An index is in a word if the bounds of its word are not empty. -/
theorem inWord_eq (text : Text) (i : Nat) : text.inWord i = decide ((text.wordBounds i).1 < (text.wordBounds i).2) := by
  rw [wordBounds]
  split
  · next hin =>
    have hlt := (isWord_of_inWord hin).lt
    simp only [hin, hlt, decide_true]
  · next hin => simpa using hin

theorem isWordStart_eq (text : Text) (i : Nat) : text.isWordStart i = text.isRunStart Unicode.isWhiteSpace i := by
  rw [isRunStart, ← wordBounds_eq, isWordStart, wordBounds]
  cases hin : text.inWord i with
  | true => simp [(isWord_of_inWord hin).lt]
  | false => simp

/-- A condition on the word at an index is one on the run around it without white space. -/
theorem runHolds_isWhiteSpace (holds : List Char → Bool) (text : Text) (i : Nat) :
    text.runHolds Unicode.isWhiteSpace holds i = (text.inWord i && holds (text.wordAt i)) := by
  rw [runHolds, ← wordBounds_eq, inWord_eq, wordAt]

end Text

/-! ## Rules that look at words -/

/-- A rule for words looks at where words start, and at a pattern. -/
theorem Demo.wordRule_matcher {name symbol pattern : String} {labels : Labels} {rule : Rule}
    (h : wordRule name symbol pattern labels = .ok rule) :
    ∃ matcher, Matcher.wordPattern pattern = .ok matcher ∧ rule.matcher = some (.both .wordStart matcher) := by
  unfold wordRule at h
  cases hm : Matcher.wordPattern pattern with
  | error fault =>
    rw [hm] at h
    cases h
  | ok matcher =>
    rw [hm] at h
    cases h
    exact ⟨matcher, rfl, rfl⟩

/-- A rule that looks at where words start accepts no other character of a word than its first. -/
theorem Rule.eq_start_of_accepts {rule : Rule} {matcher : Matcher} (hrule : rule.matcher = some (.both .wordStart matcher))
    {text : Text} {start stop i : Nat} (h : text.IsRun Unicode.isWhiteSpace start stop) (hle : start ≤ i) (hlt : i < stop) {c : Char}
    (haccepts : rule.accepts c i text) : i = start := by
  have hstart : text.isWordStart i := by
    rw [accepts, hrule, Option.all_some, Matcher.both, Bool.and_eq_true, Bool.and_eq_true] at haccepts
    exact haccepts.2.1
  rw [Text.isWordStart_eq] at hstart
  exact (h.isRunStart_iff hle hlt).1 hstart

/-- Whatever characters are blanks, they divide the text into runs. At a blank and outside the text the bounds are empty. At any other
character they are those of the one run around it, and all characters of the run have them. A run starts at one of its characters, the
first; a condition on a run holds at all of its characters or at none, so that with the start of the run it holds at one at most.

The words of the text are the runs for white space: they have the bounds of a word, and the matchers look at them. So a rule that also
asks for the start of a word, as the rules for words that match a pattern do, accepts one character of a word at most, the first. -/
theorem words_partition (blank : Char → Bool) (text : Text) :
    (∀ i, (∀ c, text[i]? = some c → blank c) → text.runBounds blank i = (i, i)) ∧
      (∀ i c, text[i]? = some c → blank c = false → ∃ start stop, text.runBounds blank i = (start, stop) ∧
        start ≤ i ∧ i < stop ∧ text.IsRun blank start stop ∧
        (∀ start' stop', start' ≤ i → i < stop' → text.IsRun blank start' stop' → start' = start ∧ stop' = stop) ∧
        ∀ j, start ≤ j → j < stop → text.runBounds blank j = (start, stop)) ∧
      (∀ start stop, text.IsRun blank start stop → ∀ i, start ≤ i → i < stop →
        (text.isRunStart blank i ↔ i = start) ∧ ∀ holds j, start ≤ j → j < stop →
          text.runHolds blank holds i = text.runHolds blank holds j ∧
            (text.isRunStart blank i && text.runHolds blank holds i → text.isRunStart blank j && text.runHolds blank holds j →
              i = j)) ∧
      (∀ i, text.wordBounds i = text.runBounds Unicode.isWhiteSpace i ∧
        text.isWordStart i = text.isRunStart Unicode.isWhiteSpace i) ∧
      (∀ pattern matcher, Matcher.wordPattern pattern = .ok matcher → ∃ r, Pattern.compile pattern = .ok r ∧
        ∀ c i, matcher c i text = text.runHolds Unicode.isWhiteSpace r.isMatch i) ∧
      (∀ (rule : Rule) matcher, rule.matcher = some (.both .wordStart matcher) → ∀ start stop,
        text.IsRun Unicode.isWhiteSpace start stop → ∀ i c, start ≤ i → i < stop → rule.accepts c i text → i = start) ∧
      ∀ name symbol pattern labels rule, Demo.wordRule name symbol pattern labels = .ok rule →
        ∃ matcher, Matcher.wordPattern pattern = .ok matcher ∧ rule.matcher = some (.both .wordStart matcher) := by
  refine ⟨fun i h => Text.runBounds_of_blank h, fun i c hc hb => ?_, fun start stop h i hle hlt => ?_, fun i => ?_,
    fun pattern matcher hm => ?_, fun rule matcher hrule start stop h i c hle hlt haccepts => ?_,
    fun name symbol pattern labels rule hrule => Demo.wordRule_matcher hrule⟩
  · obtain ⟨start, stop, hbounds, hle, hlt, h⟩ := Text.isRun_runBounds hc hb
    refine ⟨start, stop, hbounds, hle, hlt, h, fun start' stop' hle' hlt' h' => ?_, fun j hj hj' => h.runBounds_eq hj hj'⟩
    exact h.unique h' hle hlt hle' hlt'
  · refine ⟨h.isRunStart_iff hle hlt, fun holds j hle' hlt' => ⟨?_, fun hi hj => ?_⟩⟩
    · rw [h.runHolds_eq hle hlt, h.runHolds_eq hle' hlt']
    · rw [Bool.and_eq_true] at hi hj
      exact ((h.isRunStart_iff hle hlt).1 hi.1).trans ((h.isRunStart_iff hle' hlt').1 hj.1).symm
  · exact ⟨text.wordBounds_eq i, text.isWordStart_eq i⟩
  · obtain ⟨r, hr, rfl⟩ := Matcher.wordPattern_eq_ok_iff.1 hm
    exact ⟨r, hr, fun c i => (Text.runHolds_isWhiteSpace r.isMatch text i).symm⟩
  · exact rule.eq_start_of_accepts hrule h hle hlt haccepts

/-- A word of two letters, before a blank: a rule for words of letters accepts the first letter and no other. -/
theorem words_partition_two :
    ∃ (text : Text) (rule : Rule), text = "ab c".toList ∧ Demo.wordRule "letters" "" "[a-z]+" {} = .ok rule ∧
      text.IsRun Unicode.isWhiteSpace 0 2 ∧ rule.accepts 'a' 0 text ∧ ∀ i c, i < 2 → rule.accepts c i text → i = 0 := by
  obtain ⟨-, hbounds, -, -, -, honce, hmatcher⟩ := words_partition Unicode.isWhiteSpace "ab c".toList
  obtain ⟨rule, hrule, haccepts⟩ :
      ∃ rule, Demo.wordRule "letters" "" "[a-z]+" {} = .ok rule ∧ rule.accepts 'a' 0 "ab c".toList := ⟨_, rfl, by decide +kernel⟩
  obtain ⟨start, stop, heq, -, -, hrun, -, -⟩ := hbounds 0 'a' rfl (by decide)
  obtain ⟨rfl, rfl⟩ : 0 = start ∧ 2 = stop := by
    rw [← Prod.mk.injEq, ← heq]
    decide +kernel
  obtain ⟨matcher, -, hmatcher⟩ := hmatcher _ _ _ _ rule hrule
  exact ⟨_, rule, rfl, hrule, hrun, haccepts, fun i c hlt => honce rule matcher hmatcher 0 2 hrun i c (Nat.zero_le i) hlt⟩

end RuleScanner
