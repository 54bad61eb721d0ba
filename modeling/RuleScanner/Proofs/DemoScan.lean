import RuleScanner.Proofs.Closing
import RuleScanner.Proofs.DemoRules

/-!
# Literals and words of the demonstration language

A quotation mark closes literals only and a space words only, so each of them is held open by whatever of the other kind lies
above it (`Demo.closedAt_literal`, `Demo.closedAt_word`).

A word that lies above a literal was opened inside it. It is gone when the next quotation mark comes if a space came before
(`Demo.isOpenBefore_word_iff`). But a word ends with any blank, and one at the end of a line inside a literal is still there. Then
the quotation mark does not close the literal, and opens another one. So a literal closes on the next quotation mark exactly if
each word inside it is followed by a space (`Demo.closedAt_next_quote_iff`), and not always.

A word opens where it starts (`Demo.exists_isWord`). The scan passes each character once at most, so that no word of the text
opens twice (`Demo.eq_of_opensIn`).
-/

namespace RuleScanner

/-- The activation of the record was opened on a character of the text from `start` up to and without `stop`. -/
def Scan.OpensIn (s : Scan) (r : Record) (start stop : Nat) : Prop :=
  ∃ step, s.steps[r.openedAt]? = some step ∧ start ≤ step.index ∧ step.index < stop

namespace Demo

/-! ## Terminators -/

theorem direction_eq : ∀ rule ∈ scanner.registry.rules, rule.direction = .right := by
  intro rule hrule
  rcases mem_rules_iff.1 hrule with rfl | ⟨kind, rfl⟩ <;> rfl

theorem WordKind.name_ne (kind : WordKind) : kind.rule.name ≠ "literal" := by
  cases kind <;> decide

/-- Literals close on quotation marks, and words on spaces. -/
theorem terminatorChar_eq {rule : Rule} (h : rule ∈ scanner.registry.rules) :
    rule.terminatorChar = some (if rule.name = "literal" then '"' else ' ') := by
  rcases mem_rules_iff.1 h with rfl | ⟨kind, rfl⟩
  · rfl
  · rw [if_neg kind.name_ne]
    cases kind <;> rfl

/-- Quotation marks close literals only. -/
theorem terminatorChar_quote : ∀ rule ∈ scanner.registry.rules,
    (rule.terminatorChar == some '"') = (rule.name == "literal") := by
  intro rule hrule
  rw [terminatorChar_eq hrule]
  by_cases hname : rule.name = "literal" <;> simp [hname]

/-- Spaces close words only. -/
theorem terminatorChar_space : ∀ rule ∈ scanner.registry.rules,
    (rule.terminatorChar == some ' ') = (rule.name != "literal") := by
  intro rule hrule
  rw [terminatorChar_eq hrule]
  by_cases hname : rule.name = "literal" <;> simp [hname]

/-! ## When literals and words close -/

section

variable {text : Text} {r : Record} (hr : r ∈ (scanner.tokenize text).last.history)

include hr

/-- What is never closed is reported. -/
theorem reportsUnclosed (hnone : r.closedAt = none) : (scanner.tokenize text).last.ReportsUnclosed r := by
  have h : (scanner.tokenize text).last.Replays := Scan.ofText_replays ..
  have hrule := Tokenizer.rule_mem_of_mem_history hr
  exact h.reportsUnclosed hr hnone (direction_eq _ hrule)

theorem terminatorChar_of_literal (hname : r.activation.rule.name = "literal") :
    r.activation.rule.terminatorChar = some '"' := by
  rw [terminatorChar_eq (Tokenizer.rule_mem_of_mem_history hr), if_pos hname]

theorem terminatorChar_of_word (hname : r.activation.rule.name ≠ "literal") :
    r.activation.rule.terminatorChar = some ' ' := by
  rw [terminatorChar_eq (Tokenizer.rule_mem_of_mem_history hr), if_neg hname]

/-- A literal closes on the first later quotation mark on which only literals lie above it. -/
theorem closedAt_literal (hname : r.activation.rule.name = "literal") :
    r.closedAt = (scanner.tokenize text).last.firstAfter r.openedAt fun n step =>
      step.char == '"' && ((scanner.tokenize text).last.above n r.activation.seq).all (·.rule.name == "literal") :=
  Tokenizer.closedAt_eq_firstAfter hr (terminatorChar_of_literal hr hname) terminatorChar_quote

/-- A word closes on the first later space on which only words lie above it. -/
theorem closedAt_word (hname : r.activation.rule.name ≠ "literal") :
    r.closedAt = (scanner.tokenize text).last.firstAfter r.openedAt fun n step =>
      step.char == ' ' && ((scanner.tokenize text).last.above n r.activation.seq).all (·.rule.name != "literal") :=
  Tokenizer.closedAt_eq_firstAfter hr (terminatorChar_of_word hr hname) terminatorChar_space

/-- A literal opens on a quotation mark. -/
theorem char_of_literal (hname : r.activation.rule.name = "literal") {step : Step}
    (hs : (scanner.tokenize text).last.steps[r.openedAt]? = some step) : step.char = '"' := by
  obtain ⟨opened, hopened, -, hrule, haccepts⟩ := Tokenizer.exists_opening hr
  cases hs.symm.trans hopened
  rcases mem_rules_iff.1 hrule with hliteral | ⟨kind, hkind⟩
  · rw [hliteral] at haccepts
    exact literal_accepts_iff.1 haccepts
  · rw [hkind] at hname
    exact absurd hname kind.name_ne

/-- A word after which there was no quotation mark up to some step is open before that step exactly if there was no space. -/
theorem isOpenBefore_word_iff (hname : r.activation.rule.name ≠ "literal") {n : Nat}
    (hn : n ≤ (scanner.tokenize text).last.steps.size)
    (hquote : ∀ m step, r.openedAt < m → m < n → (scanner.tokenize text).last.steps[m]? = some step → step.char ≠ '"') :
    r.isOpenBefore n ↔ r.openedAt < n ∧
      ∀ m step, r.openedAt < m → m < n → (scanner.tokenize text).last.steps[m]? = some step → step.char ≠ ' ' := by
  have h : (scanner.tokenize text).last.Replays := Scan.ofText_replays ..
  rw [Record.isOpenBefore_iff]
  refine and_congr_right fun _ => ⟨fun hopen m step hm hmn hs hspace => ?_, fun hspace m hclosedAt => ?_⟩
  · -- No literal can have been opened above it, so that the space closes it.
    have hwords : ∀ a ∈ (scanner.tokenize text).last.above m r.activation.seq, a.rule.name ≠ "literal" := by
      refine (h.forall_mem_above (P := fun rule => rule.name ≠ "literal") (Nat.le_trans (Nat.le_of_lt hmn) hn)).2 ?_
      intro w hw hwopen hseq hliteral
      have hlater := (Tokenizer.openedAt_lt_iff (neverCompete text) hr hw).2 hseq
      have hsooner := Nat.lt_trans (Record.isOpenBefore_iff.1 hwopen).1 hmn
      obtain ⟨step, hs, -⟩ := Tokenizer.exists_opening hw
      exact hquote _ step hlater hsooner hs (char_of_literal hw hliteral hs)
    have hcloses : (step.char == ' ' &&
        ((scanner.tokenize text).last.above m r.activation.seq).all (·.rule.name != "literal")) = true := by
      simpa [hspace] using hwords
    have hclosed := closedAt_word hr hname
    cases hfirst : r.closedAt with
    | none =>
      rw [hfirst, eq_comm, Scan.firstAfter_eq_none_iff] at hclosed
      exact hclosed m step hm hs hcloses
    | some j =>
      rw [hfirst] at hclosed
      have hjm := Scan.le_of_firstAfter hclosed.symm hm hs hcloses
      exact Nat.lt_irrefl n (Nat.lt_of_le_of_lt (Nat.le_trans (hopen j hfirst) hjm) hmn)
  · obtain ⟨hm, step, hs, hchar⟩ := h.exists_step_of_closedAt hr (terminatorChar_of_word hr hname) hclosedAt
    exact Nat.le_of_not_lt fun hmn => hspace m step hm hmn hs hchar

/-- A literal is open before the next quotation mark, which closes it exactly if it closes all that was opened after it and is
open, too. -/
theorem closedAt_next_quote_iff_above (hname : r.activation.rule.name = "literal") {n : Nat}
    (hn : (scanner.tokenize text).last.firstAfter r.openedAt (fun _ step => step.char == '"') = some n) :
    r.closedAt = some n ↔ ∀ w ∈ (scanner.tokenize text).last.history, w.isOpenBefore n →
      r.activation.seq < w.activation.seq → w.activation.rule.terminatorChar = some '"' := by
  have h : (scanner.tokenize text).last.Replays := Scan.ofText_replays ..
  have hterminator := terminatorChar_of_literal hr hname
  obtain ⟨hlt, ⟨step, hs, hquote⟩, -⟩ := Scan.firstAfter_eq_some_iff.1 hn
  have hopen : r.isOpenBefore n := by
    refine Record.isOpenBefore_iff.2 ⟨hlt, fun m hm => ?_⟩
    obtain ⟨hlater, step, hs, hchar⟩ := h.exists_step_of_closedAt hr hterminator hm
    exact Scan.le_of_firstAfter hn hlater hs (beq_iff_eq.2 hchar)
  rw [h.closedAt_eq_some_iff hr hopen hs, beq_iff_eq.1 hquote]
  simp only [hterminator, Activation.closesOn, beq_iff_eq, true_and]
  exact h.forall_mem_above (P := fun rule => rule.terminatorChar = some '"') (Nat.le_of_lt (Scan.getD_steps hs).1)

/-- A literal closes on the next quotation mark exactly if every word opened in between is followed by a space before it. -/
theorem closedAt_next_quote_iff (hname : r.activation.rule.name = "literal") {n : Nat}
    (hn : (scanner.tokenize text).last.firstAfter r.openedAt (fun _ step => step.char == '"') = some n) :
    r.closedAt = some n ↔
      ∀ w ∈ (scanner.tokenize text).last.history, w.activation.rule.name ≠ "literal" → r.openedAt < w.openedAt →
        w.openedAt < n → ∃ m step, w.openedAt < m ∧ m < n ∧ (scanner.tokenize text).last.steps[m]? = some step ∧
          step.char = ' ' := by
  obtain ⟨-, ⟨step, hs, -⟩, hfirst⟩ := Scan.firstAfter_eq_some_iff.1 hn
  simp only [beq_iff_eq] at hfirst
  have hsize := Nat.le_of_lt (Scan.getD_steps hs).1
  rw [closedAt_next_quote_iff_above hr hname hn]
  refine forall₂_congr fun w hw => ?_
  rw [← Tokenizer.openedAt_lt_iff (neverCompete text) hr hw]
  by_cases hliteral : w.activation.rule.name = "literal"
  · simp [terminatorChar_of_literal hw hliteral, hliteral]
  · have hwquote : r.openedAt < w.openedAt → ∀ m step, w.openedAt < m → m < n →
        (scanner.tokenize text).last.steps[m]? = some step → step.char ≠ '"' :=
      fun hlater m step hm hmn hs => hfirst m step (Nat.lt_trans hlater hm) hmn hs
    rw [terminatorChar_of_word hw hliteral]
    constructor
    · intro hclosed _ hlater hsooner
      by_contra hno
      refine absurd (hclosed ?_ hlater) (by decide)
      refine (isOpenBefore_word_iff hw hliteral hsize (hwquote hlater)).2 ⟨hsooner, fun m step hm hmn hs hchar => ?_⟩
      exact hno ⟨m, step, hm, hmn, hs, hchar⟩
    · intro hspaces hwopen hlater
      obtain ⟨hsooner, hno⟩ := (isOpenBefore_word_iff hw hliteral hsize (hwquote hlater)).1 hwopen
      obtain ⟨m, step, hm, hmn, hs, hchar⟩ := hspaces hliteral hlater hsooner
      exact absurd hchar (hno m step hm hmn hs)

end

/-! ## Where words open -/

section

variable {text : Text} {kind : WordKind}

/-- A word opens where it starts, if it is of the kind. -/
theorem exists_isWord {r : Record} (hr : r ∈ (scanner.tokenize text).last.history)
    (hname : r.activation.rule.name = kind.name) :
    ∃ step stop, (scanner.tokenize text).last.steps[r.openedAt]? = some step ∧ text.IsWord step.index stop ∧
      kind.describes (text.extract step.index stop) := by
  obtain ⟨step, hs, hc, hrule, haccepts⟩ := Tokenizer.exists_opening hr
  rw [WordKind.rule_eq_of_name hrule hname] at haccepts
  obtain ⟨stop, hword, hkind⟩ := (kind.accepts_iff hc).1 haccepts
  exact ⟨step, stop, hs, hword, hkind⟩

/-- A visited character that starts a word of the kind opens it. -/
theorem exists_record_of_isWord {n stop : Nat} {step : Step} (hs : (scanner.tokenize text).last.steps[n]? = some step)
    (hword : text.IsWord step.index stop) (hkind : kind.describes (text.extract step.index stop)) :
    ∃ r ∈ (scanner.tokenize text).last.history, r.openedAt = n ∧ r.activation.rule.name = kind.name := by
  have h : (scanner.tokenize text).last.Replays := Scan.ofText_replays ..
  have hmem : kind.rule ∈ scanner.registry.rules := mem_rules_iff.2 (Or.inr ⟨kind, rfl⟩)
  have hc : text[step.index]? = some step.char := by
    obtain ⟨c, round, hround, rfl⟩ := scanner.exists_standsBefore text hs
    exact hround.2.2.1
  -- The step closes no word, since it is not on a space.
  have hclosed : ∀ a ∈ step.closed, a.rule ≠ kind.rule := by
    rintro a ha hrule
    have hchar := h.terminatorChar_of_mem_closed hs ha
    rw [hrule, terminatorChar_eq hmem, if_neg kind.name_ne, Option.some.injEq] at hchar
    obtain ⟨c, hc', hwhite⟩ := Text.inWord_iff.1 (hword.inside step.index (Nat.le_refl _) hword.lt)
    rw [hc, ← hchar] at hc'
    cases hc'
    exact absurd hwhite (by decide)
  obtain ⟨r, hr, hn, hrule⟩ := Tokenizer.exists_record_of_accepts nodup_names hs hmem
    ((kind.accepts_iff hc).2 ⟨stop, hword, hkind⟩) hclosed
  exact ⟨r, hr, hn, congrArg Rule.name hrule⟩

/-- Words that are opened inside one word of the text are the same. -/
theorem eq_of_opensIn {r r' : Record} (hr : r ∈ (scanner.tokenize text).last.history)
    (hr' : r' ∈ (scanner.tokenize text).last.history) {kind' : WordKind} (hname : r.activation.rule.name = kind.name)
    (hname' : r'.activation.rule.name = kind'.name) {start stop : Nat} (hword : text.IsWord start stop)
    (hin : (scanner.tokenize text).last.OpensIn r start stop) (hin' : (scanner.tokenize text).last.OpensIn r' start stop) :
    r = r' := by
  have hstart : ∀ {r : Record} {kind : WordKind}, r ∈ (scanner.tokenize text).last.history →
      r.activation.rule.name = kind.name → (scanner.tokenize text).last.OpensIn r start stop →
      ((scanner.tokenize text).last.steps.toList.map (·.index))[r.openedAt]? = some start := by
    rintro r kind hr hname ⟨step, hs, hle, hlt⟩
    obtain ⟨opened, _, hopened, hfirst, -⟩ := exists_isWord hr hname
    cases hs.symm.trans hopened
    rw [List.getElem?_map, Array.getElem?_toList, hs, Option.map_some, hword.start_eq hfirst hle hlt]
  have hnodup : ((scanner.tokenize text).last.steps.toList.map (·.index)).Nodup :=
    (Tokenizer.pairwise_index_of_right direction_eq text).imp Nat.ne_of_lt
  refine Tokenizer.eq_of_openedAt_eq (neverCompete text) hr hr' ?_
  obtain ⟨hlt, hget⟩ := List.getElem?_eq_some_iff.1 (hstart hr hname hin)
  obtain ⟨hlt', hget'⟩ := List.getElem?_eq_some_iff.1 (hstart hr' hname' hin')
  exact (hnodup.getElem_inj_iff).1 (hget.trans hget'.symm)

end

end Demo

/-- Quoted literals, whatever the text is. A literal closes on the first later quotation mark on which nothing but literals lies
above it. That is the next quotation mark exactly if every word that is opened before it, and after the literal, is followed by a
space before it. A literal that is never closed is reported. -/
theorem tokenize_literals (text : Text) :
    ∃ t, Demo.tokenizer = .ok t ∧
      let s := (t.tokenize text).last
      ∀ r ∈ s.history, r.activation.rule.name = "literal" →
        (r.closedAt = s.firstAfter r.openedAt fun n step =>
          step.char == '"' && (s.above n r.activation.seq).all (·.rule.name == "literal")) ∧
        (∀ n, s.firstAfter r.openedAt (fun _ step => step.char == '"') = some n →
          (r.closedAt = some n ↔
            ∀ w ∈ s.history, w.activation.rule.name ≠ "literal" → r.openedAt < w.openedAt → w.openedAt < n →
              ∃ m step, w.openedAt < m ∧ m < n ∧ s.steps[m]? = some step ∧ step.char = ' ')) ∧
        (r.closedAt = none → s.ReportsUnclosed r) := by
  refine ⟨Demo.scanner, Demo.tokenizer_eq, ?_⟩
  intro s r hr hname
  refine ⟨?_, fun n hn => ?_, ?_⟩
  · exact Demo.closedAt_literal hr hname
  · exact Demo.closedAt_next_quote_iff hr hname hn
  · exact Demo.reportsUnclosed hr

/-- The name of the rule of a record, and the steps on which its activation was opened and closed. -/
def Record.timing (r : Record) : String × Nat × Option Nat := (r.activation.rule.name, r.openedAt, r.closedAt)

theorem Scan.exists_timing {s : Scan} {i : Nat} {name : String} {openedAt : Nat} {closedAt : Option Nat}
    (h : s.history[i]?.map Record.timing = some (name, openedAt, closedAt)) :
    ∃ r ∈ s.history, r.activation.rule.name = name ∧ r.openedAt = openedAt ∧ r.closedAt = closedAt := by
  obtain ⟨r, hr, htold⟩ := Option.map_eq_some_iff.1 h
  cases htold
  exact ⟨r, Array.mem_of_getElem? hr, rfl, rfl, rfl⟩

/-- The word inside this literal is followed by a space, and the next quotation mark closes the literal. -/
theorem tokenize_literals_spaced :
    ∃ t, Demo.tokenizer = .ok t ∧
      let s := (t.tokenize ['"', ' ', 'a', ' ', '"']).last
      ∃ r ∈ s.history, ∃ w ∈ s.history, r.activation.rule.name = "literal" ∧ r.openedAt = 0 ∧ r.closedAt = some 4 ∧
        w.activation.rule.name = "identifier" ∧ w.openedAt = 2 ∧
        ∃ m step, 2 < m ∧ m < 4 ∧ s.steps[m]? = some step ∧ step.char = ' ' := by
  obtain ⟨t, ht, hliterals⟩ := tokenize_literals ['"', ' ', 'a', ' ', '"']
  refine ⟨t, ht, ?_⟩
  cases ht.symm.trans Demo.tokenizer_eq
  intro s
  have hfirst : s.history[0]?.map Record.timing = some ("literal", 0, some 4) := by decide +kernel
  have hsecond : s.history[1]?.map Record.timing = some ("identifier", 2, some 3) := by decide +kernel
  obtain ⟨r, hr, hname, hopened, hclosed⟩ := Scan.exists_timing hfirst
  obtain ⟨w, hw, hword, hlater, -⟩ := Scan.exists_timing hsecond
  have hquote : s.firstAfter 0 (fun _ step => step.char == '"') = some 4 := by decide +kernel
  obtain ⟨-, hnext, -⟩ := hliterals r hr hname
  have hspaces := (hnext 4 (by rw [hopened]; exact hquote)).1 hclosed w hw (by rw [hword]; decide)
  rw [hopened, hlater] at hspaces
  exact ⟨r, hr, w, hw, hname, hopened, hclosed, hword, hlater, hspaces (by decide) (by decide)⟩

/-- The word inside this literal is followed by a line feed. It is still open when the next quotation mark comes, which does not
close the literal, and opens another one. -/
theorem tokenize_literals_straddling :
    ∃ t, Demo.tokenizer = .ok t ∧
      let s := (t.tokenize ['"', ' ', 'a', '\n', '"']).last
      ∃ r ∈ s.history, r.activation.rule.name = "literal" ∧ r.openedAt = 0 ∧
        s.firstAfter 0 (fun _ step => step.char == '"') = some 4 ∧ r.closedAt = none := by
  refine ⟨Demo.scanner, Demo.tokenizer_eq, ?_⟩
  intro s
  have hfirst : s.history[0]?.map Record.timing = some ("literal", 0, none) := by decide +kernel
  obtain ⟨r, hr, hname, hopened, hclosed⟩ := Scan.exists_timing hfirst
  exact ⟨r, hr, hname, hopened, by decide +kernel, hclosed⟩

/-- Words, whatever the text is. The rules for words are those of five patterns. Each activation of them was opened on the first
character of a word, a longest run without white space, that matches the pattern as a whole, and every visited character that
starts such a word has opened one. No two of them were opened inside one word. Each closes on the first later space on which no
literal lies above it, and one for which there is no such space is reported. -/
theorem tokenize_words (text : Text) :
    (∀ (kind : Demo.WordKind) (word : List Char), ∃ regex, Pattern.compile kind.pattern = .ok regex ∧
      regex.isMatch word = kind.describes word) ∧
    ∃ t, Demo.tokenizer = .ok t ∧
      let s := (t.tokenize text).last
      (∀ (kind : Demo.WordKind), ∀ r ∈ s.history, r.activation.rule.name = kind.name →
        (∃ step stop, s.steps[r.openedAt]? = some step ∧ text.IsWord step.index stop ∧
          kind.describes (text.extract step.index stop)) ∧
        (r.closedAt = s.firstAfter r.openedAt fun n step =>
          step.char == ' ' && (s.above n r.activation.seq).all (·.rule.name != "literal")) ∧
        (r.closedAt = none → s.ReportsUnclosed r)) ∧
      (∀ (kind : Demo.WordKind) (n : Nat) (step : Step) (stop : Nat), s.steps[n]? = some step → text.IsWord step.index stop →
        kind.describes (text.extract step.index stop) → ∃ r ∈ s.history, r.openedAt = n ∧ r.activation.rule.name = kind.name) ∧
      ∀ (start stop : Nat) (kind kind' : Demo.WordKind), text.IsWord start stop →
        ∀ r ∈ s.history, ∀ r' ∈ s.history, r.activation.rule.name = kind.name → r'.activation.rule.name = kind'.name →
          s.OpensIn r start stop → s.OpensIn r' start stop → r = r' := by
  refine ⟨fun kind word => ⟨_, kind.compile_pattern, kind.isMatch_regex word⟩, Demo.scanner, Demo.tokenizer_eq, ?_⟩
  intro s
  refine ⟨fun kind r hr hname => ⟨?_, ?_, ?_⟩, fun kind n step stop => ?_, fun start stop kind kind' hword r hr r' hr' => ?_⟩
  · exact Demo.exists_isWord hr hname
  · exact Demo.closedAt_word hr (by rw [hname]; exact kind.name_ne)
  · exact Demo.reportsUnclosed hr
  · exact Demo.exists_record_of_isWord
  · exact fun hname hname' => Demo.eq_of_opensIn hr hr' hname hname' hword

/-- The first word of this text ends with the line feed. The space inside the literal does not close it, since the literal lies
above it, and the one behind the literal does. The last word is never closed. -/
theorem tokenize_words_across :
    ∃ t, Demo.tokenizer = .ok t ∧
      let text : Text := ['x', '\n', '"', ' ', '"', ' ', '1']
      let s := (t.tokenize text).last
      ∃ r ∈ s.history, ∃ w ∈ s.history, r.activation.rule.name = "identifier" ∧ r.closedAt = some 5 ∧
        (∃ step stop, s.steps[0]? = some step ∧ text.IsWord step.index stop) ∧
        (s.firstAfter 0 fun n step =>
          step.char == ' ' && (s.above n r.activation.seq).all (·.rule.name != "literal")) = some 5 ∧
        w.activation.rule.name = "value" ∧ s.ReportsUnclosed w := by
  obtain ⟨-, t, ht, hlaws, -⟩ := tokenize_words ['x', '\n', '"', ' ', '"', ' ', '1']
  refine ⟨t, ht, ?_⟩
  cases ht.symm.trans Demo.tokenizer_eq
  intro text s
  have hfirst : s.history[0]?.map Record.timing = some ("identifier", 0, some 5) := by decide +kernel
  have hlast : s.history[2]?.map Record.timing = some ("value", 6, none) := by decide +kernel
  obtain ⟨r, hr, hname, hopened, hclosed⟩ := Scan.exists_timing hfirst
  obtain ⟨w, hw, hvalue, -, hnone⟩ := Scan.exists_timing hlast
  obtain ⟨⟨step, stop, hs, hword, -⟩, hspace, -⟩ := hlaws .identifier r hr hname
  obtain ⟨-, -, hreports⟩ := hlaws .value w hw hvalue
  rw [hopened] at hs hspace
  exact ⟨r, hr, w, hw, hname, hclosed, ⟨step, stop, hs, hword⟩, hspace.symm.trans hclosed, hvalue, hreports hnone⟩

end RuleScanner
