import RuleScanner.Proofs.Ledger

/-!
# Nesting

The activations of a scan are properly nested, and the records tell it: what a record says of another one by their numbers and
steps alone (`Record.encloses`) is where their activations were on the stack.
-/

namespace RuleScanner

namespace Ledger

variable {made : Nat → Step} {k bound : Nat} {now : List Activation} {stack : Stack} {bases : List Stack}
  {records : List Record}

/-- One record encloses another one exactly if its activation was on the stack when that of the other was pushed. -/
theorem encloses_iff (h : Ledger made k bound now stack bases records) {i j : Nat} {a b : Record} (ha : records[i]? = some a)
    (hb : records[j]? = some b) {base : Stack} (hbase : bases[j]? = some base) :
    a.encloses b ↔ ∃ x ∈ base.items, x.seq = i := by
  rw [(h.based j b base hb hbase).2 i, Record.encloses, h.seq_eq ha, h.seq_eq hb, Bool.and_eq_true, decide_eq_true_eq]
  constructor
  · rintro ⟨hij, hopen⟩
    exact ⟨hij, a, ha, hopen⟩
  · rintro ⟨hij, a', ha', hopen⟩
    cases ha.symm.trans ha'
    exact ⟨hij, hopen⟩

/-- What is enclosed is closed when that which encloses it is closed, and on the same step before it. -/
theorem closed_of_encloses (h : Ledger made k k [] stack bases records) {i j : Nat} {a b : Record} (ha : records[i]? = some a)
    (hb : records[j]? = some b) (he : a.encloses b) {n : Nat} (hn : n ∈ a.closedAt) :
    ∃ m ∈ b.closedAt, m ≤ n ∧ (m = n → [b.activation, a.activation].Sublist (made n).closed) := by
  rw [Record.encloses, h.seq_eq ha, h.seq_eq hb, Bool.and_eq_true, decide_eq_true_eq, hn] at he
  obtain ⟨hij, hopen⟩ := he
  simp only [Option.all_some, decide_eq_true_eq] at hopen
  obtain ⟨hi, rfl⟩ := List.getElem?_eq_some_iff.1 ha
  obtain ⟨hj, rfl⟩ := List.getElem?_eq_some_iff.1 hb
  rcases List.pairwise_iff_getElem.1 h.nested i j hi hj hij n hn with hle | ⟨m, hm, hmn⟩
  · omega
  · refine ⟨m, hm, hmn, ?_⟩
    rintro rfl
    exact h.closed_sublist (h.closedAt_lt (List.getElem_mem hi) hn) hij ha hb hn hm

/-- The number of a record is among those of the activations that the steps have closed once if it is closed, and else not at
all. -/
theorem count_closed (h : Ledger made k k [] stack bases records) {i : Nat} {r : Record} (hr : records[i]? = some r) :
    (((List.range k).flatMap fun n => (made n).closed).map (·.seq)).count i = if r.closedAt.isSome then 1 else 0 := by
  have hperm : (((List.range k).flatMap fun n => (made n).closed).map (·.seq)).Perm
      ((records.filter (·.closedAt.any (· < k))).map (·.activation.seq)) := by
    simpa [Function.comp_def] using (h.closed_perm k (Nat.le_refl k)).map (·.seq)
  have hnodup : ((records.filter (·.closedAt.any (· < k))).map (·.activation.seq)).Nodup := by
    refine (List.filter_sublist.map _).nodup ?_
    rw [h.numbered]
    exact List.nodup_range
  rw [hperm.count_eq, hnodup.count]
  congr 1
  rw [List.mem_map, eq_iff_iff]
  constructor
  · rintro ⟨r', hr', hi⟩
    obtain ⟨hmem, hc⟩ := List.mem_filter.1 hr'
    obtain ⟨i', hi'⟩ := List.mem_iff_getElem?.1 hmem
    rw [h.seq_eq hi'] at hi
    cases hi
    cases hr.symm.trans hi'
    obtain ⟨n, hn, -⟩ := (Option.any_eq_true _ _).1 hc
    simp [hn]
  · intro hc
    obtain ⟨n, hn⟩ := Option.isSome_iff_exists.1 hc
    have hmem := List.mem_of_getElem? hr
    exact ⟨r, List.mem_filter.2 ⟨hmem, by simpa [hn] using h.closedAt_lt hmem hn⟩, h.seq_eq hr⟩

end Ledger

namespace Scan.Replays

variable {s : Scan}

/-- When a step closes an activation, the record at its number is the open one of that activation. -/
theorem record_before (h : s.Replays) {n : Nat} {step : Step} (hs : s.steps[n]? = some step) {a : Activation}
    (ha : a ∈ step.closed) :
    ∃ r : Record, (s.historyBefore n)[a.seq]? = some r ∧ r.closedAt = none ∧ r.activation.closeAt step.point = a := by
  have hl := h.ledgerBefore n (Nat.le_of_lt (getD_steps hs).1)
  rw [(h.chain n step (by rw [Array.getElem?_toList]; exact hs)).closed, Stack.closing, List.mem_map] at ha
  obtain ⟨x, hx, rfl⟩ := ha
  obtain ⟨r, hr, rfl, hopen⟩ := (hl.mem_items_iff x).1 ((List.takeWhile_sublist _).subset hx)
  exact ⟨r, by simpa using hr, hopen, rfl⟩

/-- When a step has closed an activation, the record at its number says so. -/
theorem record_after (h : s.Replays) {n : Nat} {step : Step} (hs : s.steps[n]? = some step) {a : Activation}
    (ha : a ∈ step.closed) :
    ∃ r : Record, s.history[a.seq]? = some r ∧ r.closedAt = some n ∧ r.activation = a := by
  obtain ⟨hn, hmade⟩ := getD_steps hs
  obtain ⟨r, hr, hra, hrn⟩ := (h.ledger.mem_closed_iff hn a).1 (by rw [hmade]; exact ha)
  exact ⟨r, by simpa using hr, hrn, hra⟩

/-- The steps have closed the activation of a closed record once, and that of another one not at all. -/
theorem count_closed (h : s.Replays) {i : Nat} {r : Record} (hr : s.history[i]? = some r) :
    ((s.steps.toList.flatMap (·.closed)).map (·.seq)).count i = if r.closedAt.isSome then 1 else 0 := by
  rw [← flatMap_getD_steps]
  exact h.ledger.count_closed (by rw [Array.getElem?_toList, hr])

/-- For the activation of every record there is a stack on which it was pushed. -/
theorem exists_base (h : s.Replays) {j : Nat} {b : Record} (hb : s.history[j]? = some b) :
    ∃ base, s.bases[j]? = some base ∧ base.pushed = j := by
  have hj : j < s.bases.length := by
    rw [h.ledger.length_bases]
    exact (Array.getElem?_eq_some_iff.1 hb).1
  have hbase := List.getElem?_eq_getElem hj
  exact ⟨_, hbase, (h.ledger.based j b _ (by rw [Array.getElem?_toList, hb]) hbase).1⟩

end Scan.Replays

/-- The stack of a scan and its records agree, whatever the rules, the treatment of blanks and comments, the configuration and
the text are. Each step is made on the stack that those before it leave. The record of an activation stands at its number, and
when a step closes an activation, the record at its number is the open one of that activation. The activations left open are
those of the records that are not closed. A record is closed after it was opened, and its activation was popped once. One
record encloses another one exactly if its activation was on the stack when the other was pushed, and then the other is closed
no later, and on the same step before it. -/
theorem tokenize_nesting (t : Tokenizer) (text : Text) :
    let s := (t.tokenize text).last
    s.Replays ∧
    (∀ (i : Nat) (r : Record), s.history[i]? = some r → r.activation.seq = i) ∧
    (∀ (n : Nat) (step : Step), s.steps[n]? = some step → ∀ a ∈ step.closed,
      (∃ r : Record, (s.historyBefore n)[a.seq]? = some r ∧ r.closedAt = none ∧ r.activation.closeAt step.point = a) ∧
      ∃ r : Record, s.history[a.seq]? = some r ∧ r.closedAt = some n ∧ r.activation = a) ∧
    s.openActivations = (s.history.toList.filter (·.closedAt.isNone)).map (·.activation) ∧
    (∀ (i : Nat) (r : Record), s.history[i]? = some r → (∀ n ∈ r.closedAt, r.openedAt < n) ∧
      ((s.steps.toList.flatMap (·.closed)).map (·.seq)).count i = if r.closedAt.isSome then 1 else 0) ∧
    ∀ (i j : Nat) (a b : Record), s.history[i]? = some a → s.history[j]? = some b →
      (∃ base, s.bases[j]? = some base ∧ base.pushed = j ∧ (a.encloses b ↔ ∃ x ∈ base.items, x.seq = i)) ∧
      (a.encloses b → ∀ n ∈ a.closedAt, ∃ m ∈ b.closedAt, m ≤ n ∧
        (m = n → ∃ step : Step, s.steps[n]? = some step ∧ [b.activation, a.activation].Sublist step.closed)) := by
  intro s
  have h : s.Replays := Scan.ofText_replays ..
  have hget : ∀ {i : Nat} {r : Record}, s.history[i]? = some r → s.history.toList[i]? = some r := by simp
  refine ⟨h, fun i r hr => h.ledger.seq_eq (hget hr), ?_, h.ledger.items, ?_, ?_⟩
  · intro n step hs a ha
    exact ⟨h.record_before hs ha, h.record_after hs ha⟩
  · intro i r hr
    exact ⟨fun n hn => (h.ledger.closedAt r (List.mem_of_getElem? (hget hr)) n hn).1, h.count_closed hr⟩
  · intro i j a b ha hb
    constructor
    · obtain ⟨base, hbase, hpushed⟩ := h.exists_base hb
      exact ⟨base, hbase, hpushed, h.ledger.encloses_iff (hget ha) (hget hb) hbase⟩
    · intro he n hn
      obtain ⟨m, hm, hmn, hsub⟩ := h.ledger.closed_of_encloses (hget ha) (hget hb) he hn
      refine ⟨m, hm, hmn, fun hmn => ?_⟩
      have hstep := Array.getElem?_eq_getElem (h.ledger.closedAt_lt (List.mem_of_getElem? (hget ha)) hn)
      exact ⟨_, hstep, by rw [← (Scan.getD_steps hstep).2]; exact hsub hmn⟩

/-- A tokenizer with two kinds of opening bracket and one closing bracket for both. -/
def sharedTerminator : Tokenizer where
  registry := { rules := [{ name := "round", symbol := "(", terminator := ")" },
    { name := "square", symbol := "[", terminator := ")" }] }

/-- The closing bracket of this text closes both activations, the inner one first. -/
theorem tokenize_nesting_shared :
    ∃ (outer inner : Record) (step : Step),
      (sharedTerminator.tokenize ['(', '[', ')']).last.history[0]? = some outer ∧
      (sharedTerminator.tokenize ['(', '[', ')']).last.history[1]? = some inner ∧ outer.encloses inner ∧
      (sharedTerminator.tokenize ['(', '[', ')']).last.steps[2]? = some step ∧
      [inner.activation, outer.activation].Sublist step.closed := by
  have h₀ : (sharedTerminator.tokenize ['(', '[', ')']).last.history[0]?.map (fun r => (r.openedAt, r.closedAt)) =
      some (0, some 2) := by decide +kernel
  have h₁ : (sharedTerminator.tokenize ['(', '[', ')']).last.history[1]?.map (fun r => (r.openedAt, r.closedAt)) =
      some (1, some 2) := by decide +kernel
  obtain ⟨outer, houter, he₀⟩ := Option.map_eq_some_iff.1 h₀
  obtain ⟨inner, hinner, he₁⟩ := Option.map_eq_some_iff.1 h₁
  simp only [Prod.mk.injEq] at he₀ he₁
  obtain ⟨-, hseq, -, -, -, hpair⟩ := tokenize_nesting sharedTerminator ['(', '[', ')']
  have hencl : outer.encloses inner := by
    simp [Record.encloses, hseq 0 outer houter, hseq 1 inner hinner, he₀, he₁]
  obtain ⟨m, hm, -, hstep⟩ := (hpair 0 1 outer inner houter hinner).2 hencl 2 he₀.2
  have hm2 : m = 2 := Option.some.inj (hm.symm.trans he₁.2)
  obtain ⟨step, hs, hsub⟩ := hstep hm2
  exact ⟨outer, inner, step, houter, hinner, hencl, hs, hsub⟩

end RuleScanner
