import RuleScanner.Proofs.Order

/-!
# What the records tell of openings

A record is of an activation that a step has opened, and what a step opens is registered and accepts the character
(`Tokenizer.exists_opening`). The other way round, a registered rule that accepts a visited character has a record of that step,
unless the step has closed an activation of it (`Tokenizer.exists_record_of_accepts`).

Rules never compete for the characters of a text if no two of them accept the same one. Then each step opens at most one
activation, and the order of the activations is that of the steps which have opened them (`Tokenizer.openedAt_lt_iff`).
-/

namespace RuleScanner

namespace Scan.Replays

variable {s : Scan} {n : Nat} {r : Record}

/-- A record is of an activation that the step on which it was opened has opened. -/
theorem exists_mem_opened (h : s.Replays) (hr : r ∈ s.history) :
    ∃ step, s.steps[r.openedAt]? = some step ∧ ∃ a ∈ step.opened, a.key = r.activation.key := by
  have hmem := Array.mem_toList_iff.2 hr
  have hstep := Array.getElem?_eq_getElem (h.ledger.openedAt r hmem)
  have hkey : r.activation.key ∈ (s.history.openedOn r.openedAt).map (·.activation.key) :=
    List.mem_map.2 ⟨r, List.mem_filter.2 ⟨hmem, beq_self_eq_true _⟩, rfl⟩
  rw [← h.map_key_opened hstep] at hkey
  exact ⟨_, hstep, List.mem_map.1 hkey⟩

/-- What a step has opened has a record. -/
theorem exists_record_of_mem_opened (h : s.Replays) {step : Step} (hs : s.steps[n]? = some step) {a : Activation}
    (ha : a ∈ step.opened) : ∃ r ∈ s.history, r.openedAt = n ∧ r.activation.key = a.key := by
  have hkey : a.key ∈ step.opened.map (·.key) := List.mem_map_of_mem ha
  rw [h.map_key_opened hs] at hkey
  obtain ⟨r, hr, hkey⟩ := List.mem_map.1 hkey
  obtain ⟨hmem, hn⟩ := List.mem_filter.1 hr
  exact ⟨r, Array.mem_toList_iff.1 hmem, beq_iff_eq.1 hn, hkey⟩

end Scan.Replays

/-- On each character of the text at most one of the rules may open. -/
def Rule.NeverCompete (rules : List Rule) (text : Text) : Prop :=
  ∀ (i : Nat) (c : Char), text[i]? = some c → (rules.filter (·.accepts c i text)).length ≤ 1

namespace Tokenizer

variable {t : Tokenizer} {text : Text} {r : Record}

/-- What a record is of is registered and accepts the character on which it was opened. -/
theorem exists_opening (hr : r ∈ (t.tokenize text).last.history) :
    ∃ step, (t.tokenize text).last.steps[r.openedAt]? = some step ∧ text[step.index]? = some step.char ∧
      r.activation.rule ∈ t.registry.rules ∧ r.activation.rule.accepts step.char step.index text := by
  have h : (t.tokenize text).last.Replays := Scan.ofText_replays ..
  obtain ⟨step, hs, a, ha, hkey⟩ := h.exists_mem_opened hr
  obtain ⟨c, round, hround, rfl⟩ := t.exists_standsBefore text hs
  have hrule : a.rule = r.activation.rule := congrArg Prod.fst hkey
  have hmem : a.rule ∈ (round.visited t.registry t.trivia text c).opened.map (·.rule) := List.mem_map_of_mem ha
  rw [Round.visited, Scan.map_rule_step, hrule] at hmem
  obtain ⟨hregistered, haccepts⟩ := List.mem_filter.1 (List.mem_filter.1 hmem).1
  exact ⟨_, hs, hround.2.2.1, hregistered, haccepts⟩

theorem rule_mem_of_mem_history (hr : r ∈ (t.tokenize text).last.history) : r.activation.rule ∈ t.registry.rules := by
  obtain ⟨-, -, -, hrule, -⟩ := exists_opening hr
  exact hrule

/-- A registered rule that accepts the character of a step is opened on it, unless the step has closed an activation of it. -/
theorem exists_record_of_accepts (hnames : (t.registry.rules.map (·.name)).Nodup) {n : Nat} {step : Step}
    (hs : (t.tokenize text).last.steps[n]? = some step) {rule : Rule} (hrule : rule ∈ t.registry.rules)
    (haccepts : rule.accepts step.char step.index text) (hclosed : ∀ a ∈ step.closed, a.rule ≠ rule) :
    ∃ r ∈ (t.tokenize text).last.history, r.openedAt = n ∧ r.activation.rule = rule := by
  have h : (t.tokenize text).last.Replays := Scan.ofText_replays ..
  obtain ⟨c, round, hround, hstep⟩ := t.exists_standsBefore text hs
  have hopened : step.opened.map (·.rule) = Scan.opening t.registry step.closed step.char step.index text := by
    rw [hstep]
    exact Scan.map_rule_step ..
  have hregistered : ∀ a ∈ step.closed, a.rule ∈ t.registry.rules := by
    rw [hstep]
    exact Stack.rule_mem_of_mem_closing hround.rule_mem c round.state.cursor.point
  have hmem : rule ∈ step.opened.map (·.rule) := by
    rw [hopened, Scan.mem_opening_iff hnames hregistered]
    exact ⟨hrule, haccepts, hclosed⟩
  obtain ⟨a, ha, rfl⟩ := List.mem_map.1 hmem
  obtain ⟨r, hr, hn, hkey⟩ := h.exists_record_of_mem_opened hs ha
  exact ⟨r, hr, hn, congrArg Prod.fst hkey⟩

variable (hapart : Rule.NeverCompete t.registry.rules text) {r' : Record} (hr : r ∈ (t.tokenize text).last.history)
  (hr' : r' ∈ (t.tokenize text).last.history)

include hapart hr hr'

/-- Rules that never compete are opened one at a time. -/
theorem eq_of_openedAt_eq (heq : r.openedAt = r'.openedAt) : r = r' := by
  have h : (t.tokenize text).last.Replays := Scan.ofText_replays ..
  have hstep := Array.getElem?_eq_getElem (h.ledger.openedAt r (Array.mem_toList_iff.2 hr))
  have hkeys := congrArg List.length (h.map_key_opened hstep)
  obtain ⟨c, round, hround, hmade⟩ := t.exists_standsBefore text hstep
  have hrules := congrArg List.length
    (Scan.map_rule_step t.registry t.trivia text round.skipped c round.state.cursor round.state.stack)
  have hone : ((t.tokenize text).last.history.openedOn r.openedAt).length ≤ 1 := by
    rw [List.length_map, List.length_map, hmade] at hkeys
    rw [List.length_map] at hrules
    calc ((t.tokenize text).last.history.openedOn r.openedAt).length
      _ = (round.visited t.registry t.trivia text c).opened.length := hkeys.symm
      _ = (Scan.opening t.registry _ c round.state.cursor.index text).length := hrules
      _ ≤ (t.registry.candidates c round.state.cursor.index text).length := List.length_filter_le ..
      _ ≤ 1 := hapart _ c hround.2.2.1
  have hmem : ∀ x ∈ (t.tokenize text).last.history, r.openedAt = x.openedAt →
      x ∈ (t.tokenize text).last.history.openedOn r.openedAt := fun x hx hn =>
    List.mem_filter.2 ⟨Array.mem_toList_iff.2 hx, beq_iff_eq.2 hn.symm⟩
  obtain ⟨x, hx⟩ := List.length_eq_one_iff.1 (Nat.le_antisymm hone (List.length_pos_of_mem (hmem r hr rfl)))
  have hsame := hmem r' hr' heq
  have hself := hmem r hr rfl
  rw [hx, List.mem_singleton] at hsame hself
  rw [hsame, hself]

/-- Rules that never compete are numbered in the order of the steps on which they were opened. -/
theorem openedAt_lt_iff : r.openedAt < r'.openedAt ↔ r.activation.seq < r'.activation.seq := by
  have h : (t.tokenize text).last.Replays := Scan.ofText_replays ..
  have hmem := Array.mem_toList_iff.2 hr
  have hmem' := Array.mem_toList_iff.2 hr'
  constructor
  · intro hlt
    rcases Nat.lt_trichotomy r.activation.seq r'.activation.seq with hseq | hseq | hseq
    · exact hseq
    · cases h.ledger.eq_of_seq_eq hmem hmem' hseq
      exact absurd hlt (Nat.lt_irrefl _)
    · exact absurd (h.ledger.rel_of_seq_lt h.pairwise_openedAt hmem' hmem hseq) (Nat.not_le_of_lt hlt)
  · intro hseq
    refine Nat.lt_of_le_of_ne (h.ledger.rel_of_seq_lt h.pairwise_openedAt hmem hmem' hseq) fun heq => ?_
    cases eq_of_openedAt_eq hapart hr hr' heq
    exact Nat.lt_irrefl _ hseq

end Tokenizer

end RuleScanner
