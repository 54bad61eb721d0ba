import RuleScanner.Proofs.Nesting
import RuleScanner.Proofs.OneWay

/-!
# The order of the output

Where all rules go right, the scan passes each character at most once, and the points of its steps are in the order of the
steps (`Tokenizer.point_le_iff_of_right`). So what is to be known of the spans of two tokens is known of the steps on which
their activations were opened and closed. Tokens come out in the order in which their activations are closed, and the
activations closed on one step from the latest to the earliest (`Scan.Replays.pairwise_emitted`). Of two activations, the
one that comes out first is closed before the other is opened, or was not opened before it
(`Scan.Replays.openedAt_of_comesOutBefore`).
-/

namespace RuleScanner

/-! ## The order of the records -/

/-- The openings of steps are in the order of the steps. -/
theorem Step.pairwise_openings (k : Nat) (steps : List Step) : (openings k steps).Pairwise fun x y => x.2 ≤ y.2 := by
  rw [openings, List.pairwise_flatMap]
  constructor
  · rintro ⟨step, n⟩ -
    rw [List.pairwise_map]
    exact List.pairwise_of_forall fun _ _ => Nat.le_refl n
  · have hnumbers : ((steps.zipIdx k).map Prod.snd).Pairwise (· < ·) := by
      rw [List.zipIdx_map_snd]
      exact List.pairwise_lt_range'
    refine (List.pairwise_map.1 hnumbers).imp ?_
    rintro ⟨step, m⟩ ⟨step', n⟩ hmn x hx y hy
    obtain ⟨a, -, rfl⟩ := List.mem_map.1 hx
    obtain ⟨b, -, rfl⟩ := List.mem_map.1 hy
    exact Nat.le_of_lt hmn

/-- The token of the one record comes out before that of the other: its activation is closed before, or on the same step as a
later one. -/
def Record.ComesOutBefore (a b : Record) : Prop :=
  ∃ i ∈ a.closedAt, ∃ j ∈ b.closedAt, i < j ∨ i = j ∧ b.activation.seq < a.activation.seq

namespace Ledger

variable {made : Nat → Step} {k bound : Nat} {now : List Activation} {stack : Stack} {bases : List Stack}
  {records : List Record} {a b : Record}

/-- Of two records the one with the smaller number stands first. -/
theorem rel_of_seq_lt (hl : Ledger made k bound now stack bases records) {S : Record → Record → Prop} (h : records.Pairwise S)
    (ha : a ∈ records) (hb : b ∈ records) (hlt : a.activation.seq < b.activation.seq) : S a b := by
  obtain ⟨i, hi⟩ := List.mem_iff_getElem?.1 ha
  obtain ⟨j, hj⟩ := List.mem_iff_getElem?.1 hb
  rw [hl.seq_eq hi, hl.seq_eq hj] at hlt
  exact rel_of_pairwise_drop (h.sublist (List.drop_sublist i records)) hlt hi hj

theorem eq_of_seq_eq (hl : Ledger made k bound now stack bases records) (ha : a ∈ records) (hb : b ∈ records)
    (heq : a.activation.seq = b.activation.seq) : a = b := by
  obtain ⟨i, hi⟩ := List.mem_iff_getElem?.1 ha
  obtain ⟨j, hj⟩ := List.mem_iff_getElem?.1 hb
  rw [hl.seq_eq hi, hl.seq_eq hj] at heq
  rw [heq] at hi
  exact Option.some.inj (hi.symm.trans hj)

end Ledger

namespace Scan

variable {s : Scan}

/-- The records of the closed activations, in the order in which their tokens come out. -/
def emitted (s : Scan) : List Record := (List.range s.steps.size).flatMap s.history.closedOn

theorem mem_closedOn {h : History} {n : Nat} {r : Record} (hr : r ∈ h.closedOn n) : r ∈ h ∧ r.closedAt = some n := by
  rw [History.closedOn, List.mem_reverse, List.mem_filter, beq_iff_eq] at hr
  exact ⟨Array.mem_toList_iff.1 hr.1, hr.2⟩

theorem mem_history_of_mem_emitted {r : Record} (hr : r ∈ s.emitted) : r ∈ s.history := by
  obtain ⟨n, -, hn⟩ := List.mem_flatMap.1 hr
  exact (mem_closedOn hn).1

namespace Replays

/-- Where blanks yield nothing, the tokens are those of the closed activations. -/
theorem tokens_eq_map_emitted (h : s.Replays) {trivia : Trivia} (hnone : ∀ c l, trivia.blankToken c l = none)
    (hb : ∀ step ∈ s.steps.toList, step.blank = trivia.blankOf step) : s.tokens = s.emitted.map (·.activation.token) := by
  have hblank : ∀ step, trivia.blankOf step = none := by
    intro step
    rw [Trivia.blankOf, hnone, ite_self]
  simp only [h.tokens_eq hb, hblank, Option.toList_none, List.nil_append]
  rw [emitted, List.map_flatMap, List.range_eq_range', ← Array.length_toList, ← List.zipIdx_map_snd 0 s.steps.toList,
    List.flatMap_map]

theorem pairwise_emitted (h : s.Replays) : s.emitted.Pairwise Record.ComesOutBefore := by
  rw [emitted, List.pairwise_flatMap]
  constructor
  · intro n _
    refine (h.ledger.closedOn_pairwise n).imp_of_mem fun ha hb hlt => ?_
    exact ⟨n, (mem_closedOn ha).2, n, (mem_closedOn hb).2, Or.inr ⟨rfl, hlt⟩⟩
  · refine List.pairwise_lt_range.imp fun hmn a ha b hb => ?_
    exact ⟨_, (mem_closedOn ha).2, _, (mem_closedOn hb).2, Or.inl hmn⟩

/-- The records are in the order in which their activations were opened. -/
theorem pairwise_openedAt (h : s.Replays) : s.history.toList.Pairwise fun a b => a.openedAt ≤ b.openedAt := by
  have hopenings := Step.pairwise_openings 0 s.steps.toList
  rw [← h.map_opening_history, List.pairwise_map] at hopenings
  exact hopenings

/-- Of two activations, the one that comes out first is closed before the other is opened, or was not opened before it. -/
theorem openedAt_of_comesOutBefore (h : s.Replays) {a b : Record} (ha : a ∈ s.history) (hb : b ∈ s.history)
    (hab : a.ComesOutBefore b) {i j : Nat} (hi : a.closedAt = some i) (hj : b.closedAt = some j) :
    i ≤ j ∧ (i = j → b.openedAt ≤ a.openedAt) ∧ (i ≤ b.openedAt ∨ b.openedAt ≤ a.openedAt) := by
  have hamem := Array.mem_toList_iff.2 ha
  have hbmem := Array.mem_toList_iff.2 hb
  have hlater : b.activation.seq ≤ a.activation.seq → b.openedAt ≤ a.openedAt := by
    intro hseq
    rcases Nat.lt_or_eq_of_le hseq with hlt | heq
    · exact h.ledger.rel_of_seq_lt h.pairwise_openedAt hbmem hamem hlt
    · exact Nat.le_of_eq (congrArg Record.openedAt (h.ledger.eq_of_seq_eq hbmem hamem heq))
  obtain ⟨i', hi', j', hj', hij⟩ := hab
  cases hi.symm.trans hi'
  cases hj.symm.trans hj'
  rcases hij with hlt | ⟨rfl, hseq⟩
  · refine ⟨Nat.le_of_lt hlt, fun heq => absurd heq (Nat.ne_of_lt hlt), ?_⟩
    rcases Nat.lt_or_ge a.activation.seq b.activation.seq with hseq | hseq
    · rcases h.ledger.rel_of_seq_lt h.ledger.nested hamem hbmem hseq i hi with hopen | ⟨m, hm, hle⟩
      · exact Or.inl hopen
      · cases hj.symm.trans hm
        exact absurd hle (Nat.not_le_of_lt hlt)
    · exact Or.inr (hlater hseq)
  · have hopen := hlater (Nat.le_of_lt hseq)
    exact ⟨Nat.le_refl i, fun _ => hopen, Or.inr hopen⟩

end Replays

end Scan

/-! ## The order of the points -/

namespace Location

/-- Of two spans the second ends last and, if they end together, starts first. It starts where the first one ends or after it,
or has the first one inside. -/
structure NestsBefore (l m : Location) : Prop where
  stop_le : l.stop ≤ m.stop
  start_le : l.stop = m.stop → m.start ≤ l.start
  apart_or_inside : l.stop ≤ m.start ∨ m.Contains l.start ∧ m.Contains l.stop

/-- Two spans overlap in part: the first one ends inside the second, and starts outside. -/
def PartlyOverlaps (l m : Location) : Prop := l.start < m.start ∧ m.start < l.stop ∧ l.stop < m.stop

namespace NestsBefore

variable {l m : Location}

theorem not_partlyOverlaps (h : l.NestsBefore m) : ¬ l.PartlyOverlaps m := by
  rintro ⟨hstart, hinside, -⟩
  rcases h.apart_or_inside with hapart | ⟨hcontains, -⟩
  · exact Point.not_le.2 hinside hapart
  · exact Point.not_le.2 hstart hcontains.1

theorem not_partlyOverlaps_symm (h : l.NestsBefore m) : ¬ m.PartlyOverlaps l := fun ⟨_, _, hstop⟩ =>
  Point.not_le.2 hstop h.stop_le

end NestsBefore

end Location

namespace Tokenizer

variable {t : Tokenizer} (hrules : ∀ rule ∈ t.registry.rules, rule.direction = .right) {text : Text}
  (hlen : text.length < UInt32.size - 1)

include hrules hlen in
/-- Where all rules go right, the points of the steps are in the order of the steps. -/
theorem point_le_iff_of_right {m n : Nat} {a b : Step} (ha : (t.tokenize text).last.steps.toList[m]? = some a)
    (hb : (t.tokenize text).last.steps.toList[n]? = some b) : a.point ≤ b.point ↔ m ≤ n := by
  have hrise := List.pairwise_map.1 (pairwise_index_of_right hrules text)
  have hindex : ∀ {m n : Nat} {a b : Step}, (t.tokenize text).last.steps.toList[m]? = some a →
      (t.tokenize text).last.steps.toList[n]? = some b → m < n → a.index < b.index := fun ha hb hmn =>
    rel_of_pairwise_drop (hrise.sublist (List.drop_sublist ..)) hmn ha hb
  have hamem := List.mem_of_getElem? ha
  have hbmem := List.mem_of_getElem? hb
  rw [(exact_of_right hrules hlen a (Array.mem_toList_iff.1 hamem)).2,
    (exact_of_right hrules hlen b (Array.mem_toList_iff.1 hbmem)).2,
    Text.pointAfter_le_iff hlen (t.index_lt_length text a hamem) (t.index_lt_length text b hbmem), Nat.succ_le_succ_iff]
  constructor
  · intro hle
    rcases Nat.lt_or_ge n m with hlt | hge
    · exact absurd hle (Nat.not_le_of_lt (hindex hb ha hlt))
    · exact hge
  · intro hle
    rcases Nat.lt_or_eq_of_le hle with hlt | rfl
    · exact Nat.le_of_lt (hindex ha hb hlt)
    · cases ha.symm.trans hb
      exact Nat.le_refl _

include hrules hlen in
/-- Where all rules go right, the span of an activation that comes out before another one is apart from its span or inside it.
-/
theorem nestsBefore_of_comesOutBefore {a b : Record} (ha : a ∈ (t.tokenize text).last.history)
    (hb : b ∈ (t.tokenize text).last.history) (hab : a.ComesOutBefore b) :
    a.activation.location.NestsBefore b.activation.location := by
  have h : (t.tokenize text).last.Replays := Scan.ofText_replays ..
  obtain ⟨i, hi, j, hj, -⟩ := id hab
  obtain ⟨hij, heq, hopened⟩ := h.openedAt_of_comesOutBefore ha hb hab hi hj
  obtain ⟨openedA, closedA, hoa, hca, hltA, -, hruleA, hlocA⟩ := exists_opened_closed hrules ha hi
  obtain ⟨openedB, closedB, hob, hcb, hltB, -, hruleB, hlocB⟩ := exists_opened_closed hrules hb hj
  rw [hlocA, hlocB, Rule.span, Rule.span, hruleA, hruleB]
  -- The order of the four points is that of the four steps.
  have hle := @point_le_iff_of_right t hrules text hlen
  refine ⟨(hle hca hcb).2 hij, ?_, ?_⟩
  · intro hstop
    have hstop : closedB.point = closedA.point := hstop.symm
    have hji : j ≤ i := (hle hcb hca).1 (hstop ▸ Point.le_refl _)
    exact (hle hob hoa).2 (heq (Nat.le_antisymm hij hji))
  · rcases hopened with hapart | hinside
    · exact Or.inl ((hle hca hob).2 hapart)
    · refine Or.inr ⟨⟨(hle hob hoa).2 hinside, (hle hoa hcb).2 ?_⟩, (hle hob hca).2 ?_, (hle hca hcb).2 hij⟩ <;> omega

end Tokenizer

/-- The output of rules that all go right is in order and properly nested, whether the scan fails or not, and whatever the
comments, the configuration and the text are, as long as blanks yield no tokens. Of two tokens the one that comes out later
ends last and, if they end together, starts first. It starts where the other ends or after it, or has the other inside. No two
spans overlap in part. -/
theorem tokenize_order (t : Tokenizer) (hrules : ∀ rule ∈ t.registry.rules, rule.direction = .right)
    (hblank : ∀ c l, t.trivia.blankToken c l = none) (text : Text) (hlen : text.length < UInt32.size - 1) :
    let output := match (t.tokenize text).last.result with | .ok tokens => tokens | .error failure => failure.tokens
    output.Pairwise fun a b =>
      a.location.stop ≤ b.location.stop ∧
      (a.location.stop = b.location.stop → b.location.start ≤ a.location.start) ∧
      (a.location.stop ≤ b.location.start ∨ b.location.Contains a.location.start ∧ b.location.Contains a.location.stop) ∧
      ¬ a.location.PartlyOverlaps b.location ∧ ¬ b.location.PartlyOverlaps a.location := by
  intro output
  have h : (t.tokenize text).last.Replays := Scan.ofText_replays ..
  have houtput : output = (t.tokenize text).last.tokens := Scan.result_tokens _
  have hsteps : ∀ step ∈ (t.tokenize text).last.steps.toList, step.blank = t.trivia.blankOf step := fun step hstep =>
    Scan.ofText_blank t.registry t.trivia t.config text step (Array.mem_toList_iff.1 hstep)
  rw [houtput, h.tokens_eq_map_emitted hblank hsteps, List.pairwise_map]
  refine h.pairwise_emitted.imp_of_mem fun ha hb hab => ?_
  have hnests := Tokenizer.nestsBefore_of_comesOutBefore hrules hlen (Scan.mem_history_of_mem_emitted ha)
    (Scan.mem_history_of_mem_emitted hb) hab
  exact ⟨hnests.stop_le, hnests.start_le, hnests.apart_or_inside, hnests.not_partlyOverlaps, hnests.not_partlyOverlaps_symm⟩

/-- The first closing bracket of this text closes two activations, the inner one first, and the second one closes a third,
which is apart from both. -/
theorem tokenize_order_shared :
    let output := match (sharedTerminator.tokenize ['(', '[', ')', '(', ')']).last.result with
      | .ok tokens => tokens | .error failure => failure.tokens
    output.map (·.location) = [⟨⟨1, 2⟩, ⟨1, 3⟩⟩, ⟨⟨1, 1⟩, ⟨1, 3⟩⟩, ⟨⟨1, 4⟩, ⟨1, 5⟩⟩] ∧
      output.Pairwise fun a b => a.location.stop ≤ b.location.start ∨
        b.location.Contains a.location.start ∧ b.location.Contains a.location.stop := by
  intro output
  have horder := tokenize_order sharedTerminator (by
    intro rule hrule
    rcases List.mem_pair.1 hrule with rfl | rfl <;> rfl) (fun _ _ => rfl) ['(', '[', ')', '(', ')'] (by decide)
  exact ⟨by decide +kernel, horder.imp fun hab => hab.2.2.1⟩

end RuleScanner
