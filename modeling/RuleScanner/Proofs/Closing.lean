import RuleScanner.Proofs.Openings
import RuleScanner.Proofs.Outcome
import RuleScanner.Proofs.Truncation

/-!
# When an activation is closed

The steps of a scan tell the stack that it has before each of them: it is the stack of the run there
(`Tokenizer.StandsBefore.stack_eq`), and all that lies on it is of registered rules (`Tokenizer.rule_mem_of_mem_above`). The records
tell it, too: on the stack are the activations that were opened by then and are closed on that step or later
(`Scan.Replays.map_key_stackBefore`). The stack is sorted by number, the latest on top, and a character closes what it can from the
top down. So an activation is closed on the first later step on its terminator on which whatever lies above it is closed, too
(`Scan.Replays.closedAt_eq_firstAfter`). What is never closed is reported, with its rule and the place where it was opened
(`Scan.Replays.reportsUnclosed`).
-/

namespace RuleScanner

namespace Scan

/-- The stack before step `n`: what the steps before it leave of the empty one. -/
def stackBefore (s : Scan) (n : Nat) : Stack := (s.steps.toList.take n).foldl Stack.after .empty

/-- What lies on the stack before step `n` above the activation of number `seq`. -/
def above (s : Scan) (n seq : Nat) : List Activation := (s.stackBefore n).items.filter (seq < ·.seq)

/-- The first step after step `k` of which `p` holds. -/
def firstAfter (s : Scan) (k : Nat) (p : Nat → Step → Bool) : Option Nat :=
  (List.range s.steps.size).find? fun n => k < n && s.steps[n]?.any (p n)

section

variable {s : Scan} {k n : Nat} {p : Nat → Step → Bool}

theorem firstAfter_eq_some_iff :
    s.firstAfter k p = some n ↔ k < n ∧ (∃ step, s.steps[n]? = some step ∧ p n step) ∧
      ∀ m step, k < m → m < n → s.steps[m]? = some step → ¬ p m step := by
  rw [firstAfter, List.find?_range_eq_some]
  simp only [Bool.and_eq_true, decide_eq_true_eq, Option.any_eq_true, List.mem_range, Bool.not_eq_true', Bool.and_eq_false_iff,
    decide_eq_false_iff_not, Option.any_eq_false, Bool.not_eq_true]
  constructor
  · rintro ⟨⟨hk, step, hs, hp⟩, -, hfirst⟩
    refine ⟨hk, ⟨step, hs, hp⟩, fun m step hm hmn hs => ?_⟩
    rcases hfirst m hmn with hle | hno
    · exact absurd hm hle
    · exact hno step hs
  · rintro ⟨hk, ⟨step, hs, hp⟩, hfirst⟩
    refine ⟨⟨hk, step, hs, hp⟩, (Array.getElem?_eq_some_iff.1 hs).1, fun m hmn => ?_⟩
    rcases Nat.lt_or_ge k m with hm | hm
    · exact Or.inr fun step hs => hfirst m step hm hmn hs
    · exact Or.inl (Nat.not_lt_of_le hm)

theorem firstAfter_eq_none_iff :
    s.firstAfter k p = none ↔ ∀ n step, k < n → s.steps[n]? = some step → ¬ p n step := by
  rw [firstAfter, List.find?_range_eq_none]
  simp only [Bool.not_eq_true', Bool.and_eq_false_iff, decide_eq_false_iff_not, Option.any_eq_false, Bool.not_eq_true]
  constructor
  · intro h n step hn hs
    rcases h n (Array.getElem?_eq_some_iff.1 hs).1 with hle | hno
    · exact absurd hn hle
    · exact hno step hs
  · intro h n _
    rcases Nat.lt_or_ge k n with hn | hn
    · exact Or.inr fun step hs => h n step hn hs
    · exact Or.inl (Nat.not_lt_of_le hn)

/-- Only the steps after step `k` count. -/
theorem firstAfter_congr {q : Nat → Step → Bool} (h : ∀ n step, k < n → s.steps[n]? = some step → p n step = q n step) :
    s.firstAfter k p = s.firstAfter k q := by
  cases hq : s.firstAfter k q with
  | none =>
    rw [firstAfter_eq_none_iff] at hq ⊢
    intro n step hn hs
    rw [h n step hn hs]
    exact hq n step hn hs
  | some n =>
    rw [firstAfter_eq_some_iff] at hq ⊢
    obtain ⟨hn, ⟨step, hs, hstep⟩, hfirst⟩ := hq
    refine ⟨hn, ⟨step, hs, by rw [h n step hn hs]; exact hstep⟩, fun m step hm hmn hs => ?_⟩
    rw [h m step hm hs]
    exact hfirst m step hm hmn hs

/-- The first step with `p` does not come after any other. -/
theorem le_of_firstAfter (h : s.firstAfter k p = some n) {m : Nat} {step : Step} (hm : k < m) (hs : s.steps[m]? = some step)
    (hp : p m step) : n ≤ m := by
  obtain ⟨-, -, hfirst⟩ := firstAfter_eq_some_iff.1 h
  exact Nat.le_of_not_lt fun hlt => hfirst m step hm hlt hs hp

end

end Scan

/-! ## The stack before a step -/

/-- The stack before a step is the one that the scan has when it stands before the step. -/
theorem Tokenizer.StandsBefore.stack_eq {t : Tokenizer} {text : Text} {n : Nat} {c : Char} {r : Round}
    (h : t.StandsBefore text n c r) : r.state.stack = (t.tokenize text).last.stackBefore n := by
  obtain ⟨⟨m, hm⟩, hsize, -⟩ := h
  have hstack : r.state.stack = r.state.steps.toList.foldl Stack.after .empty := by
    refine Round.iterate_induction (P := fun r => r.state.stack = r.state.steps.toList.foldl Stack.after .empty) ?_ rfl hm
    intro r r' hr hn
    obtain ⟨c, -, ⟨skip, k, -, rfl⟩ | ⟨-, -, rfl⟩⟩ := Round.next_eq_inr hn
    · exact hr
    · show (Scan.step t.registry t.trivia text r.skipped c r.state.cursor r.state.stack).2.1 = _
      rw [ScanState.move, ScanState.toList_steps_visit, List.foldl_append, ← hr]
      exact Scan.step_stack ..
  -- The steps that are made by then are the first of all.
  have hsteps : r.state.steps.toList = (t.tokenize text).last.steps.toList.take n := by
    obtain ⟨last, -, hlast⟩ := Round.iterate_ofText t.registry t.trivia t.config text
    have hrest := Round.iterate_of_inr hm last
    rw [Nat.add_comm, Round.iterate_of_inl hlast m] at hrest
    refine List.ext_getElem? fun i => ?_
    rw [List.getElem?_take, Array.getElem?_toList, Array.getElem?_toList]
    by_cases hi : i < n
    · have hmade := Array.getElem?_eq_getElem (Nat.lt_of_lt_of_eq hi hsize.symm)
      rw [if_pos hi, hmade]
      exact (Round.getElem?_steps_iterate hrest.symm hmade).symm
    · rw [if_neg hi, Array.getElem?_eq_none (hsize ▸ Nat.le_of_not_lt hi)]
  rw [hstack, hsteps]
  rfl

/-- What lies above an activation before a step lies there on the stack of the run. -/
theorem Tokenizer.StandsBefore.above_eq {t : Tokenizer} {text : Text} {n : Nat} {c : Char} {r : Round}
    (h : t.StandsBefore text n c r) (seq : Nat) :
    (t.tokenize text).last.above n seq = r.state.stack.items.filter (seq < ·.seq) := by rw [Scan.above, h.stack_eq]

/-- What lies on the stack before a step is of registered rules. -/
theorem Tokenizer.rule_mem_of_mem_above {t : Tokenizer} {text : Text} {n seq : Nat} {step : Step}
    (hs : (t.tokenize text).last.steps[n]? = some step) {a : Activation} (ha : a ∈ (t.tokenize text).last.above n seq) :
    a.rule ∈ t.registry.rules := by
  obtain ⟨c, r, hr, -⟩ := t.exists_standsBefore text hs
  rw [hr.above_eq] at ha
  exact hr.rule_mem a (List.mem_filter.1 ha).1

namespace Record

/-- The activation of the record is open before step `n`. -/
def isOpenBefore (n : Nat) (r : Record) : Bool := r.openedAt < n && r.closedAt.all (n ≤ ·)

theorem isOpenBefore_iff {n : Nat} {r : Record} : r.isOpenBefore n ↔ r.openedAt < n ∧ ∀ m ∈ r.closedAt, n ≤ m := by
  rw [isOpenBefore, Bool.and_eq_true, decide_eq_true_eq, Option.all_eq_true]
  simp

theorem isNone_closedAt_before (n : Nat) (r : Record) : (r.before n).closedAt.isNone = r.closedAt.all (n ≤ ·) := by
  unfold before
  cases h : r.closedAt with
  | none => simp [h]
  | some m =>
    by_cases hm : m < n
    · simp [hm, h]
    · simp [hm, Nat.le_of_not_lt hm]

theorem key_before (n : Nat) (r : Record) : (r.before n).activation.key = r.activation.key := by
  unfold before
  split <;> rfl

end Record

/-- In a list sorted by numbers, the latest first, the members up to the first without `p` are those with `p` above which all have
it. -/
theorem Activation.mem_takeWhile_iff {l : List Activation} (hl : l.Pairwise fun a b => b.seq < a.seq) (p : Activation → Bool)
    (a : Activation) : a ∈ l.takeWhile p ↔ a ∈ l ∧ p a ∧ ∀ x ∈ l, a.seq < x.seq → p x := by
  induction l with
  | nil => simp
  | cons b l ih =>
    rw [List.pairwise_cons] at hl
    obtain ⟨hb, hl⟩ := hl
    by_cases hp : p b
    · rw [List.takeWhile_cons_of_pos hp, List.mem_cons, List.mem_cons, List.forall_mem_cons, ih hl]
      constructor
      · rintro (rfl | ⟨ha, hpa, hall⟩)
        · refine ⟨Or.inl rfl, hp, fun _ => hp, fun x hx hlt => ?_⟩
          exact absurd (hb x hx) (Nat.not_lt_of_lt hlt)
        · exact ⟨Or.inr ha, hpa, fun _ => hp, hall⟩
      · rintro ⟨rfl | ha, hpa, -, hall⟩
        · exact Or.inl rfl
        · exact Or.inr ⟨ha, hpa, hall⟩
    · rw [List.takeWhile_cons_of_neg hp, List.mem_cons, List.forall_mem_cons]
      refine iff_of_false List.not_mem_nil ?_
      rintro ⟨rfl | ha, hpa, habove, -⟩
      · exact hp hpa
      · exact hp (habove (hb a ha))

namespace Scan.Replays

variable {s : Scan} {n : Nat} {r : Record}

/-- What is on the stack before a step, bottom first, is told by the records. -/
theorem map_key_stackBefore (h : s.Replays) (hn : n ≤ s.steps.size) :
    (s.stackBefore n).toList.map (·.key) = (s.history.toList.filter (·.isOpenBefore n)).map (·.activation.key) := by
  have hitems := (h.ledgerBefore n hn).items
  have hbefore : (s.historyBefore n).toList = Record.allBefore n s.history.toList :=
    h.history_eq_allBefore (s := { steps := (s.steps.toList.take n).toArray }) rfl
  have hopen : (fun r : Record => (r.before n).closedAt.isNone && decide (r.openedAt < n)) = Record.isOpenBefore n := by
    funext r
    rw [Record.isNone_closedAt_before, Bool.and_comm]
    rfl
  have hkey : (fun r : Record => (r.before n).activation.key) = fun r => r.activation.key := funext (Record.key_before n)
  have htold : (s.stackBefore n).toList =
      ((Record.allBefore n s.history.toList).filter (·.closedAt.isNone)).map (·.activation) := by
    rw [← hbefore]
    exact hitems
  rw [htold, Record.allBefore, List.filter_map, List.map_map, List.map_map, List.filter_filter]
  simp only [Function.comp_def, hopen, hkey]

/-- The activation of a record that is open before a step is on the stack. -/
theorem exists_mem_stackBefore (h : s.Replays) (hn : n ≤ s.steps.size) (hr : r ∈ s.history) (hopen : r.isOpenBefore n) :
    ∃ a ∈ (s.stackBefore n).items, a.key = r.activation.key := by
  have hmem : r.activation.key ∈ (s.stackBefore n).toList.map (·.key) := by
    rw [h.map_key_stackBefore hn]
    exact List.mem_map.2 ⟨r, List.mem_filter.2 ⟨Array.mem_toList_iff.2 hr, hopen⟩, rfl⟩
  obtain ⟨a, ha, hkey⟩ := List.mem_map.1 hmem
  exact ⟨a, List.mem_reverse.1 ha, hkey⟩

/-- What is on the stack before a step has a record that is open then. -/
theorem exists_record_of_mem_stackBefore (h : s.Replays) (hn : n ≤ s.steps.size) {a : Activation}
    (ha : a ∈ (s.stackBefore n).items) : ∃ r ∈ s.history, r.isOpenBefore n ∧ r.activation.key = a.key := by
  have hmem : a.key ∈ (s.stackBefore n).toList.map (·.key) := List.mem_map_of_mem (List.mem_reverse.2 ha)
  rw [h.map_key_stackBefore hn] at hmem
  obtain ⟨r, hr, hkey⟩ := List.mem_map.1 hmem
  obtain ⟨hr, hopen⟩ := List.mem_filter.1 hr
  exact ⟨r, Array.mem_toList_iff.1 hr, hopen, hkey⟩

/-- What lies above a number is told by the records. -/
theorem forall_mem_above (h : s.Replays) (hn : n ≤ s.steps.size) {seq : Nat} {P : Rule → Prop} :
    (∀ a ∈ s.above n seq, P a.rule) ↔
      ∀ r ∈ s.history, r.isOpenBefore n → seq < r.activation.seq → P r.activation.rule := by
  simp only [above, List.mem_filter, decide_eq_true_eq, and_imp]
  constructor
  · intro hall r hr hopen hseq
    obtain ⟨a, ha, hkey⟩ := h.exists_mem_stackBefore hn hr hopen
    have hrule : a.rule = r.activation.rule := congrArg Prod.fst hkey
    have hnumber : a.seq = r.activation.seq := congrArg Prod.snd hkey
    rw [← hrule]
    exact hall a ha (hnumber ▸ hseq)
  · intro hall a ha hseq
    obtain ⟨r, hr, hopen, hkey⟩ := h.exists_record_of_mem_stackBefore hn ha
    have hrule : r.activation.rule = a.rule := congrArg Prod.fst hkey
    have hnumber : r.activation.seq = a.seq := congrArg Prod.snd hkey
    rw [← hrule]
    exact hall r hr hopen (hnumber ▸ hseq)

/-- The stack is sorted by numbers, the latest on top. -/
theorem pairwise_stackBefore (h : s.Replays) (hn : n ≤ s.steps.size) :
    (s.stackBefore n).items.Pairwise fun a b => b.seq < a.seq := by
  have hl := h.ledgerBefore n hn
  have hsorted : (((s.historyBefore n).toList.filter (·.closedAt.isNone)).map (·.activation)).Pairwise fun a b => a.seq < b.seq :=
    List.pairwise_map.2 (hl.pairwise_seq.sublist List.filter_sublist)
  rw [← hl.items, List.pairwise_reverse] at hsorted
  exact hsorted

/-- A record stands at the number of its activation. -/
theorem getElem?_history_seq (h : s.Replays) (hr : r ∈ s.history) : s.history[r.activation.seq]? = some r := by
  obtain ⟨i, hi⟩ := List.mem_iff_getElem?.1 (Array.mem_toList_iff.2 hr)
  rw [h.ledger.seq_eq hi, ← Array.getElem?_toList, hi]

/-! ## The step that closes an activation -/

/-- A step closes an activation that is open before it exactly if its character is the terminator and it closes all that lies
above. -/
theorem closedAt_eq_some_iff (h : s.Replays) (hr : r ∈ s.history) (hopen : r.isOpenBefore n) {step : Step}
    (hs : s.steps[n]? = some step) :
    r.closedAt = some n ↔ r.activation.rule.terminatorChar = some step.char ∧
      ∀ x ∈ s.above n r.activation.seq, x.closesOn step.char := by
  obtain ⟨hlt, hmade⟩ := getD_steps hs
  obtain ⟨a, ha, hkey⟩ := h.exists_mem_stackBefore (Nat.le_of_lt hlt) hr hopen
  have hrule : a.rule = r.activation.rule := congrArg Prod.fst hkey
  have hseq : a.seq = r.activation.seq := congrArg Prod.snd hkey
  have hsorted := h.pairwise_stackBefore (Nat.le_of_lt hlt)
  have hnumbers : ((s.stackBefore n).items.map (·.seq)).Nodup :=
    List.pairwise_map.2 (hsorted.imp fun hlt => Nat.ne_of_gt hlt)
  have hclosed : step.closed = ((s.stackBefore n).items.takeWhile (·.closesOn step.char)).map (·.closeAt step.point) :=
    (h.chain n step (by rw [Array.getElem?_toList, hs])).closed
  have hget := h.getElem?_history_seq hr
  -- Numbers tell activations apart, so that it is this one that the step closes.
  have htaken : r.closedAt = some n ↔ a ∈ (s.stackBefore n).items.takeWhile (·.closesOn step.char) := by
    constructor
    · intro hn
      have hmem : r.activation ∈ step.closed := by
        rw [← hmade]
        exact (h.ledger.mem_closed_iff hlt _).2 ⟨r, by rw [Array.getElem?_toList, hget], rfl, hn⟩
      rw [hclosed] at hmem
      obtain ⟨x, hx, hxr⟩ := List.mem_map.1 hmem
      have hxa : x.seq = a.seq := by rw [hseq, ← hxr, Activation.closeAt_seq]
      rw [← List.inj_on_of_nodup_map hnumbers ((List.takeWhile_sublist _).subset hx) ha hxa]
      exact hx
    · intro hmem
      have hmem : a.closeAt step.point ∈ step.closed := by
        rw [hclosed]
        exact List.mem_map_of_mem hmem
      obtain ⟨x, hx, hxn, -⟩ := h.record_after hs hmem
      rw [Activation.closeAt_seq, hseq, hget] at hx
      cases hx
      exact hxn
  rw [htaken, Activation.mem_takeWhile_iff hsorted, Activation.closesOn, hrule, beq_iff_eq, hseq]
  simp only [ha, true_and, above, List.mem_filter, decide_eq_true_eq, and_imp]

/-- What a step closes has its character as the terminator. -/
theorem terminatorChar_of_mem_closed (h : s.Replays) {step : Step} (hs : s.steps[n]? = some step) {a : Activation}
    (ha : a ∈ step.closed) : a.rule.terminatorChar = some step.char := by
  rw [(h.chain n step (by rw [Array.getElem?_toList, hs])).closed] at ha
  obtain ⟨x, hx, rfl⟩ := List.mem_map.1 ha
  rw [Activation.closeAt_rule]
  exact beq_iff_eq.1 (List.all_eq_true.1 List.all_takeWhile x hx)

/-- An activation is closed on the first later step on its terminator on which all that lies above it is closed, too, and never if
there is no such step. -/
theorem closedAt_eq_firstAfter (h : s.Replays) (hr : r ∈ s.history) {c : Char}
    (hc : r.activation.rule.terminatorChar = some c) :
    r.closedAt =
      s.firstAfter r.openedAt fun n step => step.char == c && (s.above n r.activation.seq).all (·.closesOn c) := by
  have hmem := Array.mem_toList_iff.2 hr
  have hcloses : ∀ n step, r.isOpenBefore n → s.steps[n]? = some step →
      ((step.char == c && (s.above n r.activation.seq).all (·.closesOn c)) = true ↔ r.closedAt = some n) := by
    intro n step hopen hs
    rw [h.closedAt_eq_some_iff hr hopen hs, hc, Bool.and_eq_true, beq_iff_eq, Option.some.injEq, List.all_eq_true, eq_comm]
    refine and_congr_right ?_
    rintro rfl
    rfl
  cases hclosed : r.closedAt with
  | none =>
    rw [eq_comm, firstAfter_eq_none_iff]
    intro n step hn hs hp
    have hopen : r.isOpenBefore n := Record.isOpenBefore_iff.2 ⟨hn, by simp [hclosed]⟩
    have hsome := (hcloses n step hopen hs).1 hp
    rw [hclosed] at hsome
    cases hsome
  | some n =>
    have hopen : ∀ m, r.openedAt < m → m ≤ n → r.isOpenBefore m := by
      intro m hm hmn
      refine Record.isOpenBefore_iff.2 ⟨hm, fun j hj => ?_⟩
      cases hclosed.symm.trans hj
      exact hmn
    have hlt := (h.ledger.closedAt r hmem n hclosed).1
    have hstep := Array.getElem?_eq_getElem (h.ledger.closedAt_lt hmem hclosed)
    rw [eq_comm, firstAfter_eq_some_iff]
    refine ⟨hlt, ⟨_, hstep, (hcloses n _ (hopen n hlt (Nat.le_refl n)) hstep).2 hclosed⟩, ?_⟩
    intro m step hm hmn hs hp
    have hsome := (hcloses m step (hopen m hm (Nat.le_of_lt hmn)) hs).1 hp
    rw [hclosed] at hsome
    cases hsome
    exact Nat.lt_irrefl _ hmn

/-- The step that closes an activation comes after its opening and is on its terminator. -/
theorem exists_step_of_closedAt (h : s.Replays) (hr : r ∈ s.history) {c : Char}
    (hc : r.activation.rule.terminatorChar = some c) (hn : r.closedAt = some n) :
    r.openedAt < n ∧ ∃ step, s.steps[n]? = some step ∧ step.char = c := by
  rw [h.closedAt_eq_firstAfter hr hc, firstAfter_eq_some_iff] at hn
  obtain ⟨hlt, ⟨step, hs, hcloses⟩, -⟩ := hn
  rw [Bool.and_eq_true, beq_iff_eq] at hcloses
  exact ⟨hlt, step, hs, hcloses.1⟩

end Scan.Replays

/-- The law for registered rules, if `p` tells those that are closed by the same character. -/
theorem Tokenizer.closedAt_eq_firstAfter {t : Tokenizer} {text : Text} {r : Record} (hr : r ∈ (t.tokenize text).last.history)
    {c : Char} (hc : r.activation.rule.terminatorChar = some c) {p : Rule → Bool}
    (hp : ∀ rule ∈ t.registry.rules, (rule.terminatorChar == some c) = p rule) :
    r.closedAt = (t.tokenize text).last.firstAfter r.openedAt fun n step =>
      step.char == c && ((t.tokenize text).last.above n r.activation.seq).all (p ·.rule) := by
  have h : (t.tokenize text).last.Replays := Scan.ofText_replays ..
  rw [h.closedAt_eq_firstAfter hr hc]
  refine Scan.firstAfter_congr fun n step hn hs => ?_
  congr 1
  rw [Bool.eq_iff_iff, List.all_eq_true, List.all_eq_true]
  exact forall₂_congr fun a ha => by rw [Activation.closesOn, hp a.rule (rule_mem_of_mem_above hs ha)]

/-! ## What is never closed -/

/-- Strings that are joined are parts of the whole. -/
theorem exists_intercalate_eq_append {separator m : String} {l : List String} (h : m ∈ l) :
    ∃ front back, separator.intercalate l = front ++ m ++ back := by
  induction l with
  | nil => cases h
  | cons x l ih =>
    cases l with
    | nil =>
      rw [List.mem_singleton] at h
      exact ⟨"", "", by simp [h]⟩
    | cons y l =>
      rw [String.intercalate_cons_cons]
      rcases List.mem_cons.1 h with rfl | h
      · exact ⟨"", separator ++ separator.intercalate (y :: l), by simp [String.append_assoc]⟩
      · obtain ⟨front, back, he⟩ := ih h
        exact ⟨x ++ separator ++ front, back, by rw [he]; simp only [String.append_assoc]⟩

namespace Scan

/-- The scan has failed. Its error reports a rightward activation that is still open, and says of that of the record, with the
name of its rule and the line and column on which it was opened, that it was never closed. -/
def ReportsUnclosed (s : Scan) (r : Record) : Prop :=
  ∃ failure step, s.result = .error failure ∧ s.steps[r.openedAt]? = some step ∧
    failure.error.code.contains (.single .unterminatedRight) ∧
    ∃ front back, failure.error.message = front ++
      s!"rule `{r.activation.rule.name}` opened at {step.point.line}:{step.point.column} was never closed" ++ back

/-- A scan with a fault has failed. -/
theorem exists_failure {s : Scan} {f : Fault} (hf : f ∈ s.faults) :
    ∃ failure, s.result = .error failure ∧ s.error? = some failure.error := by
  rcases hs : s.result with failure | tokens
  · refine ⟨failure, rfl, ?_⟩
    unfold result at hs
    split at hs
    · cases hs
    · next he =>
      cases hs
      exact he
  · rw [result_eq_ok_iff.1 ⟨tokens, hs⟩] at hf
    cases hf

/-- An activation that goes right and is never closed is reported. -/
theorem Replays.reportsUnclosed {s : Scan} (h : s.Replays) {r : Record} (hr : r ∈ s.history) (hnone : r.closedAt = none)
    (hd : r.activation.rule.direction = .right) : s.ReportsUnclosed r := by
  have hmem := Array.mem_toList_iff.2 hr
  have hopen : r.activation ∈ s.openActivations := by
    rw [openActivations, Stack.toList, h.ledger.items]
    exact List.mem_map.2 ⟨r, List.mem_filter.2 ⟨hmem, by rw [hnone]; rfl⟩, rfl⟩
  have hfault : unclosed r.activation ∈ s.faults := List.mem_append_right _ (List.mem_map_of_mem hopen)
  have hstep := Array.getElem?_eq_getElem (h.ledger.openedAt r hmem)
  have horigin := h.ledger.origin_eq hmem hnone
  rw [(getD_steps hstep).2] at horigin
  obtain ⟨failure, hresult, herror⟩ := exists_failure hfault
  have hreports : s.reports .unterminatedRight := by
    refine (s.reports_iff _).2 ⟨_, hfault, ?_⟩
    rw [unclosed, hd]
    rfl
  rw [reports, herror, Option.any_some] at hreports
  refine ⟨failure, _, hresult, hstep, hreports, ?_⟩
  rw [message_of_result hresult, ← horigin, ← Fault.message_unclosed _ r.activation.rule.direction]
  exact exists_intercalate_eq_append (List.mem_map_of_mem hfault)

end Scan

end RuleScanner
