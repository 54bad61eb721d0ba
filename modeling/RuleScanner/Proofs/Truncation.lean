import RuleScanner.Proofs.Ledger
import RuleScanner.Proofs.Rounds

/-!
# A smaller budget only truncates

A scan does not look at its budget until it is used up. So of two scans that differ in their budgets alone the one with the
smaller budget is the beginning of the other, or the whole of it (`Scan.run_truncated`). What the records say before a step can
be read off the records at the end: of those opened by then, the later closings are undone (`Ledger.allBefore_take`).
-/

namespace RuleScanner

/-! ## The steps of a run -/

namespace Scan

variable {registry : Registry} {trivia : Trivia} {text : Text}

/-- A run keeps the steps that have been made. -/
theorem steps_isPrefix_run (budget left : Nat) (s : ScanState) :
    s.steps.toList <+: (run registry trivia text budget left s).steps.toList := by
  obtain ⟨s', hs', hsteps, -⟩ := @run_induction registry trivia text
    (fun x => s.steps.toList <+: x.steps.toList) (fun x => s.steps.toList <+: x.steps.toList)
    (fun x skipped c k hx _ => by
      rw [ScanState.visit, Array.toList_push]
      exact hx.trans (List.prefix_append _ _))
    (fun x hx _ => hx) budget left s (List.prefix_refl _)
  rw [hsteps]
  exact hs'.elim id id

/-- The next step of a run with steps left is on the character to visit. -/
theorem run_next_step {s : ScanState} {skipped : List Skip} {c : Char} {k : Cursor}
    (h : settle trivia text s.cursor = (skipped, some c, k)) (budget left : Nat) {made : Step}
    (hm : (run registry trivia text budget left s).steps[s.steps.size]? = some made) :
    made.index = k.index ∧ made.point = k.point := by
  cases left with
  | zero =>
    rw [run_zero h] at hm
    simp at hm
  | succ left =>
    have hpre : (s.visit registry trivia text skipped c k).steps.toList <+:
        (run registry trivia text budget (left + 1) s).steps.toList := by
      rw [run_succ h]
      split
      · exact List.prefix_refl _
      · exact steps_isPrefix_run budget left ((s.visit registry trivia text skipped c k).move text)
    obtain ⟨rest, hrest⟩ := hpre
    rw [← Array.getElem?_toList, ← hrest] at hm
    have hlast : (s.visit registry trivia text skipped c k).steps.toList[s.steps.size]? =
        some (step registry trivia text skipped c k s.stack).1 := by
      rw [ScanState.visit, Array.toList_push, ← Array.length_toList, List.getElem?_concat_length]
    rw [List.getElem?_append_left (List.getElem?_eq_some_iff.1 hlast).1, hlast] at hm
    cases hm
    exact ⟨rfl, rfl⟩

/-- A run that is not cut off is the same with more steps left. -/
theorem run_eq_of_cutOff_eq_none {budget left : Nat} {s : ScanState}
    (h : (run registry trivia text budget left s).cutOff = none) (budget' : Nat) {left' : Nat} (hle : left ≤ left') :
    run registry trivia text budget' left' s = run registry trivia text budget left s := by
  induction left generalizing left' s with
  | zero =>
    rcases hs : settle trivia text s.cursor with ⟨skipped, _ | c, k⟩
    · rw [run_over hs, run_over hs]
    · rw [run_zero hs] at h
      cases h
  | succ left ih =>
    rcases hs : settle trivia text s.cursor with ⟨skipped, _ | c, k⟩
    · rw [run_over hs, run_over hs]
    · obtain ⟨more, rfl⟩ := Nat.exists_eq_add_one.2 (Nat.lt_of_lt_of_le left.succ_pos hle)
      rw [run_succ hs] at h
      rw [run_succ hs, run_succ hs]
      split
      · rfl
      · next hedge =>
        rw [if_neg hedge] at h
        exact ih h (Nat.le_of_succ_le_succ hle)

/-- A run that is cut off has made all its steps, and is the beginning of a run with more steps left. If that one has made
another step, it was on the character on which this one was cut off. -/
theorem run_truncated (budget left : Nat) (s : ScanState) {f : Fault}
    (h : (run registry trivia text budget left s).cutOff = some f) (budget' : Nat) {left' : Nat} (hle : left ≤ left') :
    (run registry trivia text budget left s).steps.size = s.steps.size + left ∧
      (run registry trivia text budget left s).steps.toList <+: (run registry trivia text budget' left' s).steps.toList ∧
      ∀ made, (run registry trivia text budget' left' s).steps[s.steps.size + left]? = some made →
        f = .stepLimit budget made.index made.point := by
  induction left generalizing left' s with
  | zero =>
    rcases hs : settle trivia text s.cursor with ⟨skipped, _ | c, k⟩
    · rw [run_over hs] at h
      cases h
    · rw [run_zero hs] at h ⊢
      cases h
      refine ⟨rfl, steps_isPrefix_run budget' left' s, fun made hm => ?_⟩
      obtain ⟨hindex, hpoint⟩ := run_next_step hs budget' left' hm
      rw [hindex, hpoint]
  | succ left ih =>
    rcases hs : settle trivia text s.cursor with ⟨skipped, _ | c, k⟩
    · rw [run_over hs] at h
      cases h
    · obtain ⟨more, rfl⟩ := Nat.exists_eq_add_one.2 (Nat.lt_of_lt_of_le left.succ_pos hle)
      rw [run_succ hs] at h
      rw [run_succ hs, run_succ hs]
      split
      · next hedge =>
        rw [if_pos hedge] at h
        cases h
      · next hedge =>
        rw [if_neg hedge] at h
        have hsize : ((s.visit registry trivia text skipped c k).move text).steps.size + left = s.steps.size + (left + 1) := by
          simp only [ScanState.move, ScanState.visit, Array.size_push]
          omega
        have hmore := ih _ h (Nat.le_of_succ_le_succ hle)
        rw [hsize] at hmore
        exact hmore

end Scan

/-! ## The records before a step -/

/-- The activation as it was when it opened. -/
def Activation.reopen (a : Activation) : Activation := .opening a.rule a.origin a.seq

theorem Activation.reopen_closeAt_opening (rule : Rule) (p q : Point) (seq : Nat) :
    ((opening rule p seq).closeAt q).reopen = opening rule p seq := by
  cases h : rule.direction <;> simp [reopen, opening, closeAt, origin, Location.startingAt, Location.endingAt, h]

/-- The record as it was before step `n`: a later closing is undone. -/
def Record.before (n : Nat) (r : Record) : Record :=
  if r.closedAt.all (· < n) then r else { r with activation := r.activation.reopen, closedAt := none }

/-- The records as they were before step `n`: those whose activations were opened by then. -/
def Record.allBefore (n : Nat) (records : List Record) : List Record :=
  (records.filter (·.openedAt < n)).map (Record.before n)

namespace Record

/-- A record whose activation was closed later is as it was before it was closed. -/
theorem before_closed {made : Nat → Step} {n k : Nat} {r : Record} (hopen : r.closedAt = none) (hr : r.Located made)
    (hn : n ≤ k) (p : Point) :
    before n { r with activation := r.activation.closeAt p, closedAt := some k } = before n r := by
  rw [Located, hopen] at hr
  have hreopen : (r.activation.closeAt p).reopen = r.activation := by
    rw [hr, Activation.reopen_closeAt_opening]
  have hk : ¬ k < n := Nat.not_lt_of_le hn
  obtain ⟨a, openedAt, closedAt⟩ := r
  cases hopen
  simp [before, hk, hreopen]

/-- What matters of a record is whether it was opened by then, and how it was. -/
theorem allBefore_replace {n : Nat} {r r' : Record} (ho : r'.openedAt = r.openedAt) (hr : before n r' = before n r)
    (front back : List Record) : allBefore n (front ++ r' :: back) = allBefore n (front ++ r :: back) := by
  rw [allBefore, allBefore, List.filter_append, List.filter_append, List.filter_cons, List.filter_cons, ho]
  split <;> simp [hr]

end Record

namespace History

/-- What is opened later was not there before. -/
theorem allBefore_foldl_opened {n k : Nat} (hn : n ≤ k) (as : List Activation) (h : History) :
    Record.allBefore n (as.foldl (opened k) h).toList = Record.allBefore n h.toList := by
  induction as generalizing h with
  | nil => rfl
  | cons a as ih =>
    have hk : ¬ k < n := Nat.not_lt_of_le hn
    rw [List.foldl_cons, ih, toList_opened, Record.allBefore, Record.allBefore, List.filter_append]
    simp [hk]

end History

namespace Ledger

variable {made : Nat → Step} {k : Nat} {now : List Activation} {stack : Stack} {bases : List Stack}

/-- All records are as they were before a step that is yet to come. -/
theorem allBefore_eq_self {records : List Record} (hl : Ledger made k k [] stack bases records) {n : Nat} (hn : k ≤ n) :
    Record.allBefore n records = records := by
  have hbefore : ∀ r ∈ records, Record.before n r = r := by
    intro r hr
    refine if_pos ?_
    cases hc : r.closedAt with
    | none => rfl
    | some m => simpa using Nat.lt_of_lt_of_le (hl.closedAt_lt hr hc) hn
  have hall : records.filter (·.openedAt < n) = records := by
    rw [List.filter_eq_self]
    intro r hr
    simpa using Nat.lt_of_lt_of_le (hl.openedAt r hr) hn
  rw [Record.allBefore, hall]
  exact (List.map_congr_left hbefore).trans (List.map_id' records)

/-- What is closed later was open before. -/
theorem allBefore_close {h : History} (hl : Ledger made k k now stack bases h.toList) {a : Activation}
    {rest : List Activation} (ht : stack.items = a :: rest) {n : Nat} (hn : n ≤ k) (p : Point) :
    Record.allBefore n (h.closed k (a.closeAt p)).toList = Record.allBefore n h.toList := by
  obtain ⟨front, r, back, hh, rfl, hopen, hseq, -⟩ := hl.top ht
  have hloc := hl.located r (by simp [hh])
  rw [History.toList_closed hh (by simpa using hseq), hh]
  refine Record.allBefore_replace ?_ (Record.before_closed hopen hloc hn p) front back
  rfl

/-- A step does not change how the records were before an earlier step. -/
theorem allBefore_step {h : History} (hl : Ledger made k k [] stack bases h.toList) (hm : (made k).MadeOn stack) {n : Nat}
    (hn : n ≤ k) : Record.allBefore n (h.add k (made k)).toList = Record.allBefore n h.toList := by
  rw [History.add_eq k (made k) fun a ha => hl.seq_lt_of_mem_closed hm ha, History.allBefore_foldl_opened hn, hm.closed]
  exact closeAll_congr (fun hl _ _ ht => hl.allBefore_close ht hn _) hl _

/-- How the records of a chain were before a step can be read off the records after any later one. -/
theorem allBefore_take {steps : List Step} (hc : Step.Chain steps) {n m : Nat} (hn : n ≤ m) (hm : m ≤ steps.length) :
    Record.allBefore n (History.addAll #[] 0 (steps.take m)).toList = (History.addAll #[] 0 (steps.take n)).toList := by
  induction hn with
  | refl => exact (chain hc n hm).allBefore_eq_self (Nat.le_refl n)
  | @step m hn ih =>
    have hlt : m < steps.length := hm
    rw [← ih (Nat.le_of_lt hlt), History.addAll_take_succ hlt]
    exact (chain hc m (Nat.le_of_lt hlt)).allBefore_step (hc.madeOn hlt) hn

end Ledger

/-! ## Two budgets -/

/-- The tokenizer with another budget. -/
def Tokenizer.withBudget (t : Tokenizer) (budget : Nat) : Tokenizer := t.configure { t.config with maxSteps := some budget }

/-- The records of a scan whose steps are the first of those of another one are as they were there. -/
theorem Scan.Replays.history_eq_allBefore {s s' : Scan} (h : s'.Replays) {n : Nat}
    (hs : s.steps.toList = s'.steps.toList.take n) : s.history.toList = Record.allBefore n s'.history.toList := by
  rw [history, hs]
  rcases Nat.le_total n s'.steps.size with hn | hn
  · have hall := Ledger.allBefore_take h.chain hn (Nat.le_refl _)
    rw [List.take_of_length_le (Nat.le_of_eq Array.length_toList)] at hall
    exact hall.symm
  · rw [List.take_of_length_le hn]
    exact (h.ledger.allBefore_eq_self hn).symm

/-- A smaller budget only truncates, whatever the rules, the treatment of blanks and comments, the column memory and the text
are. The steps of the scan with the smaller budget are the first of those of the other, as many as the budget allows; its tokens
are the first of those of the other; and its records are those opened by then, with the later closings undone. If it does not
report the step limit, the two scans are the same. If it does and the other scan has made the step that it was denied, its error stands
at the point of that step. -/
theorem tokenize_truncates (t : Tokenizer) (text : Text) (b₁ b₂ : Nat) (hb : b₁ ≤ b₂) :
    let small := ((t.withBudget b₁).tokenize text).last
    let large := ((t.withBudget b₂).tokenize text).last
    small.steps.toList = large.steps.toList.take (min b₁ large.steps.size) ∧
    small.tokens <+: large.tokens ∧
    small.history.toList = Record.allBefore b₁ large.history.toList ∧
    (¬ small.reports .stepLimit → small = large) ∧
    (small.reports .stepLimit → ∀ step, large.steps[b₁]? = some step →
      small.error?.bind (·.location) = some (.point step.point)) := by
  intro small large
  let start := (Round.first t.config.memory text).state
  have hreports : small.reports .stepLimit ↔ small.cutOff.isSome := Scan.ofText_reports_stepLimit_iff ..
  have hreplays : large.Replays := Scan.ofText_replays ..
  have hsame : small.cutOff = none → small = large := fun h =>
    (Scan.run_eq_of_cutOff_eq_none (s := start) h b₂ hb).symm
  have hcut : ∀ f, small.cutOff = some f → small.steps.size = b₁ ∧ small.steps.toList <+: large.steps.toList ∧
      ∀ made, large.steps[b₁]? = some made → f = .stepLimit b₁ made.index made.point := by
    intro f hf
    have h := Scan.run_truncated b₁ b₁ start hf b₂ hb
    rw [show start.steps.size + b₁ = b₁ from Nat.zero_add b₁] at h
    exact h
  have hsteps : small.steps.toList = large.steps.toList.take b₁ := by
    cases hc : small.cutOff with
    | none =>
      have hsize : small.steps.size ≤ b₁ := (Scan.ofText_bounded ..).1
      rw [← hsame hc, List.take_of_length_le hsize]
    | some f =>
      obtain ⟨hsize, hpre, -⟩ := hcut f hc
      rw [← hsize]
      exact List.prefix_iff_eq_take.1 hpre
  refine ⟨?_, ?_, hreplays.history_eq_allBefore hsteps, ?_, ?_⟩
  · rw [hsteps]
    exact List.take_eq_take_min
  · refine ⟨(large.steps.toList.drop b₁).flatMap Step.tokens, ?_⟩
    rw [Scan.tokens, Scan.tokens, hsteps, ← List.flatMap_append, List.take_append_drop]
  · intro hno
    rw [hreports, Option.not_isSome_iff_eq_none] at hno
    exact hsame hno
  · intro hyes step hstep
    obtain ⟨f, hf⟩ := Option.isSome_iff_exists.1 (hreports.1 hyes)
    obtain ⟨-, -, hlast⟩ := hcut f hf
    rw [hlast step hstep] at hf
    exact Scan.location_of_cutOff hf

/-- A tokenizer with one kind of bracket. -/
def brackets : Tokenizer where
  registry := { rules := [{ name := "round", symbol := "(", terminator := ")" }] }

/-- With three steps the scan of this text closes the bracket on the last of them. With one step it leaves the bracket open, and
its error stands at the second character. -/
theorem tokenize_truncates_brackets :
    1 ≤ 3 ∧
    (((brackets.withBudget 3).tokenize ['(', 'a', ')']).last.history.toList.map fun r => (r.openedAt, r.closedAt)) =
      [(0, some 2)] ∧
    (((brackets.withBudget 1).tokenize ['(', 'a', ')']).last.history.toList.map fun r =>
      (r.openedAt, r.closedAt, r.activation.location)) = [(0, none, .startingAt ⟨1, 1⟩)] ∧
    ((brackets.withBudget 1).tokenize ['(', 'a', ')']).last.error?.bind (·.location) = some (.point ⟨1, 2⟩) := by
  obtain ⟨-, -, hhistory, -, hlocation⟩ := tokenize_truncates brackets ['(', 'a', ')'] 1 3 (by decide)
  refine ⟨by decide, by decide +kernel, ?_, ?_⟩
  · rw [hhistory]
    decide +kernel
  · have hpoint : ((brackets.withBudget 3).tokenize ['(', 'a', ')']).last.steps[1]?.map (·.point) = some ⟨1, 2⟩ := by
      decide +kernel
    obtain ⟨step, hstep, hp⟩ := Option.map_eq_some_iff.1 hpoint
    rw [← hp]
    exact hlocation (by decide +kernel) step hstep

end RuleScanner
