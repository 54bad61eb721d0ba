import RuleScanner.Proofs.Erasure
import RuleScanner.Proofs.Visits

/-!
# The path of a scan

Where there are no comments, a scan goes one character on after each step, in the direction of the activation pushed last,
whether that is still open or not. `Step.heading` reads this direction off the steps, and `Scan.headingAfter` off the records,
and they agree (`Scan.Replays.headingAfter_eq`). `Step.LeadTo` says of steps that they are such a path, and where it leads. A
visit and a move together extend it by a step (`ScanState.Approaches.visit`, `ScanState.Stands.move`), which tells how a scan
goes and where it ends (`Scan.ofText_path`).
-/

namespace RuleScanner

namespace Direction

/-- From the index `i` the direction leads to `j` next. -/
def Leads : Direction → (i j : Nat) → Prop
  | .right, i, j => j = i + 1
  | .left, i, j => j + 1 = i

/-- From the index `i` the direction leads out of a text of `length` characters. -/
def LeadsOut : Direction → (length i : Nat) → Prop
  | .right, length, i => i + 1 = length
  | .left, _, i => i = 0

/-- From a character of a text a direction leads to another one, or to the end of the text. -/
theorem Leads.le_of_lt {d : Direction} {length i j : Nat} (h : d.Leads i j) (hi : i < length) : j ≤ length := by
  cases d <;> simp only [Leads] at h <;> omega

/-- A direction that leads to a character of the text does not lead out of it. -/
theorem Leads.not_leadsOut {d : Direction} {length i j : Nat} (h : d.Leads i j) (hj : j < length) : ¬ d.LeadsOut length i := by
  cases d <;> simp only [Leads, LeadsOut] at h ⊢ <;> omega

/-- A direction that leads from a character of the text to the end of the text leads out of it. -/
theorem Leads.leadsOut {d : Direction} {length i : Nat} (h : d.Leads i length) (hi : i < length) : d.LeadsOut length i := by
  cases d <;> simp only [Leads, LeadsOut] at h ⊢ <;> omega

end Direction

/-! ## The heading -/

/-- The heading after the steps: the direction of the activation that they have opened last, and to the right if they have
opened none. -/
def Step.heading (steps : List Step) : Direction :=
  ((steps.flatMap (·.opened)).getLast?.map (·.rule.direction)).getD .right

/-- A step turns the heading to the last activation that it opens, if it opens any. -/
theorem Step.heading_append (steps : List Step) (step : Step) :
    heading (steps ++ [step]) = (step.opened.getLast?.map (·.rule.direction)).getD (heading steps) := by
  rw [heading, heading, List.flatMap_append, List.flatMap_singleton, List.getLast?_append]
  cases step.opened.getLast? <;> rfl

/-- The heading can be read off the openings. -/
theorem Step.heading_eq (k : Nat) (steps : List Step) :
    heading steps = ((openings k steps).getLast?.map (·.1.1.direction)).getD .right := by
  have hkeys : (openings k steps).map (·.1) = (steps.flatMap (·.opened)).map (·.key) := by
    induction steps generalizing k with
    | nil => rfl
    | cons step steps ih =>
      rw [← List.singleton_append, openings_append, openings_singleton, List.map_append, ih, List.flatMap_append,
        List.map_append]
      simp
  have hlast := congrArg List.getLast? hkeys
  rw [List.getLast?_map, List.getLast?_map] at hlast
  have hdirection := congrArg (Option.map fun key : Rule × Nat => key.1.direction) hlast
  rw [Option.map_map, Option.map_map] at hdirection
  rw [heading]
  exact congrArg (·.getD .right) hdirection.symm

/-- The record of the activation pushed last of those opened up to step `k`. -/
def History.IsLatest (h : History) (k : Nat) (r : Record) : Prop :=
  r ∈ h ∧ r.openedAt ≤ k ∧ ∀ x ∈ h, x.openedAt ≤ k → x.activation.seq ≤ r.activation.seq

/-- The heading after step `k`: the direction of the last record of those opened up to then, and to the right if there is
none. -/
def Scan.headingAfter (s : Scan) (k : Nat) : Direction :=
  ((s.history.toList.filter (·.openedAt ≤ k)).getLast?.map (·.activation.rule.direction)).getD .right

/-- Before anything is opened the heading is to the right. -/
theorem Scan.headingAfter_of_forall_lt {s : Scan} {k : Nat} (h : ∀ r ∈ s.history, k < r.openedAt) :
    s.headingAfter k = .right := by
  have hnil : s.history.toList.filter (·.openedAt ≤ k) = [] := by
    rw [List.filter_eq_nil_iff]
    intro r hr
    rw [decide_eq_true_eq]
    exact Nat.not_le_of_lt (h r (Array.mem_toList_iff.1 hr))
  rw [headingAfter, hnil]
  rfl

namespace Scan.Replays

variable {s : Scan}

/-- The activation pushed last gives the heading. -/
theorem headingAfter_of_isLatest (h : s.Replays) {k : Nat} {r : Record} (hr : s.history.IsLatest k r) :
    s.headingAfter k = r.activation.rule.direction := by
  obtain ⟨hmem, hk, hmax⟩ := hr
  have hr : r ∈ s.history.toList.filter (·.openedAt ≤ k) :=
    List.mem_filter.2 ⟨Array.mem_toList_iff.2 hmem, decide_eq_true hk⟩
  rw [headingAfter]
  cases hlast : (s.history.toList.filter (·.openedAt ≤ k)).getLast? with
  | none =>
    rw [List.getLast?_eq_none_iff.1 hlast] at hr
    cases hr
  | some x =>
    obtain ⟨front, hfront⟩ := List.getLast?_eq_some_iff.1 hlast
    have hx : x ∈ s.history.toList.filter (·.openedAt ≤ k) := List.mem_of_getLast? hlast
    obtain ⟨hxmem, hxk⟩ := List.mem_filter.1 hx
    have hle := hmax x (Array.mem_toList_iff.1 hxmem) (of_decide_eq_true hxk)
    have hfiltered := h.ledger.pairwise_seq.filter (·.openedAt ≤ k)
    rw [hfront, List.pairwise_append] at hfiltered
    rw [hfront, List.mem_append, List.mem_singleton] at hr
    rcases hr with hr | rfl
    · exact absurd (hfiltered.2.2 r hr x (List.mem_singleton_self x)) (Nat.not_lt_of_le hle)
    · rfl

/-- The records tell the heading of the steps. -/
theorem headingAfter_eq (h : s.Replays) (k : Nat) : s.headingAfter k = Step.heading (s.steps.toList.take (k + 1)) := by
  rw [Step.heading_eq 0, ← Step.filter_openings_lt, ← h.map_opening_history, List.filter_map, List.getLast?_map, Option.map_map,
    headingAfter]
  congr 4
  funext r
  exact decide_eq_decide.2 Nat.lt_succ_iff.symm

end Scan.Replays

/-! ## The path -/

/-- The steps lead to the index `i` of the text: they begin on the first character, and from each of them, on a character of the
text, the heading leads to the next one, and from the last one to `i`. -/
inductive Step.LeadTo (text : Text) : List Step → Nat → Prop where
  | start : LeadTo text [] 0
  | visit {steps : List Step} {step : Step} {j : Nat} (h : LeadTo text steps step.index) (hc : text[step.index]? = some step.char)
      (hj : (heading (steps ++ [step])).Leads step.index j) : LeadTo text (steps ++ [step]) j

namespace Step.LeadTo

variable {text : Text} {steps : List Step} {i : Nat}

/-- The last step of a path: the steps before it lead to it, and from it the heading leads on. -/
theorem eq_nil_or_exists_last (h : LeadTo text steps i) :
    steps = [] ∧ i = 0 ∨ ∃ front last, steps = front ++ [last] ∧ LeadTo text front last.index ∧
      text[last.index]? = some last.char ∧ (heading (front ++ [last])).Leads last.index i := by
  cases h with
  | start => exact Or.inl ⟨rfl, rfl⟩
  | visit h hc hj => exact Or.inr ⟨_, _, rfl, h, hc, hj⟩

theorem le_length (h : LeadTo text steps i) : i ≤ text.length := by
  rcases h.eq_nil_or_exists_last with ⟨-, rfl⟩ | ⟨front, last, -, -, hc, hi⟩
  · exact Nat.zero_le _
  · exact hi.le_of_lt (List.getElem?_eq_some_iff.1 hc).1

/-- A step at the end of a path: the first of all steps is on the first character. -/
theorem index_first (h : LeadTo text steps i) {last step : Step} (hi : last.index = i) (hs : (steps ++ [last])[0]? = some step) :
    step.index = 0 := by
  induction h generalizing last with
  | start =>
    cases hs
    exact hi
  | @visit steps made j h hc hj ih =>
    rw [List.getElem?_append_left (by simp)] at hs
    exact ih rfl hs

/-- A step at the end of a path: from each step the heading after it leads to the next one. -/
theorem leads_next (h : LeadTo text steps i) {last step next : Step} (hi : last.index = i) {k : Nat}
    (hs : (steps ++ [last])[k]? = some step) (hn : (steps ++ [last])[k + 1]? = some next) :
    (heading ((steps ++ [last]).take (k + 1))).Leads step.index next.index := by
  induction h generalizing last with
  | start => cases hn
  | @visit steps made j h hc hj ih =>
    have hk : k + 1 < (steps ++ [made] ++ [last]).length := (List.getElem?_eq_some_iff.1 hn).1
    rw [List.length_append, List.length_singleton] at hk
    rw [List.take_append_of_le_length (Nat.le_of_lt_succ hk)]
    rw [List.getElem?_append_left (Nat.lt_of_succ_lt_succ hk)] at hs
    rcases Nat.lt_or_eq_of_le (Nat.le_of_lt_succ hk) with hlt | heq
    · rw [List.getElem?_append_left hlt] at hn
      exact ih rfl hs hn
    · obtain rfl : k = steps.length := by simpa using heq
      rw [List.getElem?_concat_length] at hs
      rw [heq, List.getElem?_concat_length] at hn
      cases hs
      cases hn
      rw [heq, List.take_length, hi]
      exact hj

end Step.LeadTo

namespace ScanState

/-- The state before a visit: the steps lead to the index of the cursor, which faces as they head. -/
structure Approaches (text : Text) (s : ScanState) : Prop where
  leadTo : Step.LeadTo text s.steps.toList s.cursor.index
  direction : s.cursor.direction = Step.heading s.steps.toList

/-- The state after a visit: the cursor is still on the character of the last step, and faces as the steps head now. -/
structure Stands (text : Text) (s : ScanState) (steps : List Step) (step : Step) : Prop where
  steps_eq : s.steps.toList = steps ++ [step]
  leadTo : Step.LeadTo text steps step.index
  char : text[step.index]? = some step.char
  index : s.cursor.index = step.index
  direction : s.cursor.direction = Step.heading (steps ++ [step])

/-- A visit notes a step and turns the cursor. -/
theorem Approaches.visit {text : Text} {s : ScanState} (h : s.Approaches text) (registry : Registry) {c : Char}
    (hc : text[s.cursor.index]? = some c) :
    (s.visit registry .none text [] c s.cursor).Stands text s.steps.toList
      (Scan.step registry .none text [] c s.cursor s.stack).1 where
  steps_eq := Array.toList_push
  leadTo := h.leadTo
  char := hc
  index := rfl
  direction := by
    rw [Step.heading_append, ← h.direction]
    rfl

/-- A move goes where the cursor faces. -/
theorem Stands.move {text : Text} {s : ScanState} {steps : List Step} {step : Step} (h : s.Stands text steps step)
    (hedge : s.cursor.atLeftEdge = false) : (s.move text).Approaches text := by
  obtain ⟨hlt, -⟩ := List.getElem?_eq_some_iff.1 h.char
  have hleads : (Step.heading (steps ++ [step])).Leads step.index (s.move text).cursor.index := by
    rw [← h.direction, ← h.index, ScanState.move]
    cases hd : s.cursor.direction with
    | right => exact Cursor.advance_index_right hd text
    | left =>
      have hpos : s.cursor.index ≠ 0 := by simpa [Cursor.atLeftEdge, hd] using hedge
      rw [Cursor.advance_index_left hd (by rw [h.index]; exact hlt)]
      exact Nat.sub_add_cancel (Nat.pos_of_ne_zero hpos)
  have hsteps : (s.move text).steps.toList = steps ++ [step] := h.steps_eq
  constructor
  · rw [hsteps]
    exact h.leadTo.visit h.char hleads
  · rw [hsteps, ← h.direction]
    exact Cursor.advance_direction ..

end ScanState

namespace Scan

/-- Without comments the cursor stays, and the character to visit is the one under it. -/
theorem eq_of_settle_none {text : Text} {k k' : Cursor} {skipped : List Skip} {visit : Option Char}
    (h : settle .none text k = (skipped, visit, k')) : skipped = [] ∧ text[k.index]? = visit ∧ k' = k := by
  rw [settle_none, Prod.mk.injEq, Prod.mk.injEq] at h
  exact ⟨h.1.symm, h.2.1, h.2.2.symm⟩

/-- How a scan without comments goes. It makes no step if the text is empty, or if it may make none and is cut off. Otherwise
the steps before the last one lead to it. From there the heading leads out of the text, or the budget is spent and the scan is
cut off. -/
theorem ofText_path (registry : Registry) (config : Config) (text : Text) :
    let s := ofText registry .none config text
    (s.steps.toList = [] ∧
      (text = [] ∧ s.cutOff = none ∨ text ≠ [] ∧ s.steps.size = config.budget text.length ∧ s.cutOff.isSome)) ∨
    ∃ steps step, s.steps.toList = steps ++ [step] ∧ Step.LeadTo text steps step.index ∧ text[step.index]? = some step.char ∧
      ((Step.heading (steps ++ [step])).LeadsOut text.length step.index ∧ s.cutOff = none ∨
        ¬ (Step.heading (steps ++ [step])).LeadsOut text.length step.index ∧ s.steps.size = config.budget text.length ∧
          s.cutOff.isSome) := by
  intro s
  have hstart : ScanState.Approaches text { cursor := ((Cursor.initial config.memory).enter text).2 } :=
    ⟨by simpa using Step.LeadTo.start, by simp [Step.heading]⟩
  have hvisit : ∀ (s : ScanState) (skipped : List Skip) (c : Char) (k : Cursor), s.Approaches text →
      settle .none text s.cursor = (skipped, some c, k) →
      ∃ steps step, (s.visit registry .none text skipped c k).Stands text steps step := by
    intro s skipped c k hs hsettle
    obtain ⟨rfl, hc, rfl⟩ := eq_of_settle_none hsettle
    exact ⟨_, _, hs.visit registry hc⟩
  have hmove : ∀ s : ScanState, (∃ steps step, s.Stands text steps step) → s.cursor.atLeftEdge = false →
      (s.move text).Approaches text := by
    rintro s ⟨steps, step, hs⟩ hedge
    exact hs.move hedge
  rcases run_ends hvisit hmove (config.budget text.length) (config.budget text.length) _ hstart with
    ⟨s', skipped, k, hs, hsettle, he⟩ | ⟨s', skipped, c, k, hs, hsettle, hsize, he⟩ | ⟨s', ⟨steps, step, hs⟩, hedge, he⟩
  -- Nothing is left to visit: the path leads to the end of the text, which it cannot reach from the right.
  · obtain ⟨-, hnone, -⟩ := eq_of_settle_none hsettle
    have hend : s'.cursor.index = text.length := Nat.le_antisymm hs.leadTo.le_length (List.getElem?_eq_none_iff.1 hnone)
    have hs := hs.leadTo
    rw [hend] at hs
    rw [show s = _ from he]
    rcases hs.eq_nil_or_exists_last with ⟨hnil, hzero⟩ | ⟨steps, step, hsteps, hlead, hc, hi⟩
    · exact Or.inl ⟨hnil, Or.inl ⟨List.length_eq_zero_iff.1 hzero, rfl⟩⟩
    · exact Or.inr ⟨steps, step, hsteps, hlead, hc, Or.inl ⟨hi.leadsOut (List.getElem?_eq_some_iff.1 hc).1, rfl⟩⟩
  -- No step is left: the path leads to one more character.
  · obtain ⟨-, hsome, -⟩ := eq_of_settle_none hsettle
    have hinside := (List.getElem?_eq_some_iff.1 hsome).1
    have hbudget : s'.steps.size = config.budget text.length := by simpa using hsize
    rw [show s = _ from he]
    rcases hs.leadTo.eq_nil_or_exists_last with ⟨hnil, -⟩ | ⟨steps, step, hsteps, hlead, hc, hi⟩
    · exact Or.inl ⟨hnil, Or.inr ⟨List.ne_nil_of_length_pos (Nat.zero_lt_of_lt hinside), hbudget, rfl⟩⟩
    · exact Or.inr ⟨steps, step, hsteps, hlead, hc, Or.inr ⟨hi.not_leadsOut hinside, hbudget, rfl⟩⟩
  · rw [show s = _ from he]
    refine Or.inr ⟨steps, step, hs.steps_eq, hs.leadTo, hs.char, Or.inl ⟨?_, rfl⟩⟩
    rw [Cursor.atLeftEdge, Bool.and_eq_true, beq_iff_eq, beq_iff_eq, hs.direction, hs.index] at hedge
    rw [hedge.1]
    exact hedge.2

end Scan

/-- The path of a scan is decided by the last push, whatever the rules, the configuration and the text are, where there are no
comments. The scan begins on the first character. After each step it goes on by one character in the direction of the activation
pushed last up to then, whether that has been closed since or not, and to the right if none has been pushed. After the last step
the budget is spent, or the way leads out of the text, and the step limit is reported exactly if the budget is spent and the way
does not. There is no step exactly if the budget is zero or the text is empty, and then the step limit is reported unless the
text is empty. -/
theorem tokenize_path (registry : Registry) (config : Config) (text : Text) :
    let t : Tokenizer := { registry, config }
    let s := (t.tokenize text).last
    let budget := config.budget text.length
    (∀ k r, s.history.IsLatest k r → s.headingAfter k = r.activation.rule.direction) ∧
    (∀ k, (∀ r ∈ s.history, k < r.openedAt) → s.headingAfter k = .right) ∧
    (∀ step, s.steps[0]? = some step → step.index = 0) ∧
    (∀ k step next, s.steps[k]? = some step → s.steps[k + 1]? = some next →
      (s.headingAfter k).Leads step.index next.index) ∧
    (∀ k step, s.steps[k]? = some step → k + 1 = s.steps.size →
      let out := (s.headingAfter k).LeadsOut text.length step.index
      (s.steps.size = budget ∨ out) ∧ (s.reports .stepLimit ↔ s.steps.size = budget ∧ ¬ out)) ∧
    (s.steps.size = 0 ↔ budget = 0 ∨ text = []) ∧ (s.steps.size = 0 → (s.reports .stepLimit ↔ text ≠ [])) := by
  intro t s budget
  have h : s.Replays := Scan.ofText_replays ..
  have hreports : s.reports .stepLimit ↔ s.cutOff.isSome := Scan.ofText_reports_stepLimit_iff ..
  have huncut : s.cutOff = none → ¬ s.reports .stepLimit := by
    intro hcut
    rw [hreports, hcut]
    exact Bool.false_ne_true
  have hsize : s.steps.size ≤ budget := (Scan.ofText_bounded registry .none config text).1
  refine ⟨fun k r hr => h.headingAfter_of_isLatest hr, fun k hk => Scan.headingAfter_of_forall_lt hk, ?_⟩
  rcases Scan.ofText_path registry config text with ⟨hsteps, hend⟩ | ⟨steps, last, hsteps, hlead, hc, hend⟩
  · change s.steps.toList = [] at hsteps
    have hnone : ∀ k : Nat, s.steps[k]? = none := by
      intro k
      rw [← Array.getElem?_toList, hsteps]
      rfl
    have hzero : s.steps.size = 0 := by
      rw [← Array.length_toList, hsteps]
      rfl
    refine ⟨fun step hs => ?_, fun k step next hs => ?_, fun k step hs => ?_, ?_, fun _ => ?_⟩
    · exact nomatch (hnone 0).symm.trans hs
    · exact nomatch (hnone k).symm.trans hs
    · exact nomatch (hnone k).symm.trans hs
    · rcases hend with ⟨htext, -⟩ | ⟨-, hbudget, -⟩
      · exact iff_of_true hzero (Or.inr htext)
      · exact iff_of_true hzero (Or.inl (hbudget.symm.trans hzero))
    · rcases hend with ⟨htext, hcut⟩ | ⟨htext, -, hcut⟩
      · exact iff_of_false (huncut hcut) (not_not_intro htext)
      · exact iff_of_true (hreports.2 hcut) htext
  · change s.steps.toList = steps ++ [last] at hsteps
    have hget : ∀ k : Nat, s.steps[k]? = (steps ++ [last])[k]? := by
      intro k
      rw [← Array.getElem?_toList, hsteps]
    have hlen : s.steps.size = steps.length + 1 := by
      rw [← Array.length_toList, hsteps, List.length_append, List.length_singleton]
    refine ⟨fun step hs => ?_, fun k step next hs hn => ?_, fun k step hs hk => ?_, ?_, fun hzero => ?_⟩
    · rw [hget] at hs
      exact hlead.index_first rfl hs
    · rw [hget] at hs hn
      rw [h.headingAfter_eq, hsteps]
      exact hlead.leads_next rfl hs hn
    · -- The step is the last one, so the heading after it is that of all steps.
      obtain rfl : k = steps.length := by omega
      rw [hget, List.getElem?_concat_length] at hs
      cases hs
      rw [h.headingAfter_eq, hsteps, List.take_of_length_le (by simp)]
      rcases hend with ⟨hout, hcut⟩ | ⟨hin, hbudget, hcut⟩
      · exact ⟨Or.inr hout, iff_of_false (huncut hcut) (fun hspent => hspent.2 hout)⟩
      · exact ⟨Or.inl hbudget, iff_of_true (hreports.2 hcut) ⟨hbudget, hin⟩⟩
    · refine iff_of_false (by omega) ?_
      rintro (hbudget | rfl)
      · omega
      · cases hc
    · omega

/-- A tokenizer with two rules that open on one character and go opposite ways. -/
def turning : Tokenizer where
  registry := { rules := [{ name := "forth", symbol := "a", terminator := "x" },
    { name := "back", symbol := "a", terminator := "b", direction := .left }] }

/-- The last character of this text opens both rules, and the scan turns left with the second one. It still goes left after the
step on which that one is closed, and ends on the first character without reporting the step limit. -/
theorem tokenize_path_turned :
    let s := (turning.tokenize ['c', 'b', 'a']).last
    (∃ r, s.history.IsLatest 3 r ∧ r.closedAt = some 3 ∧ s.headingAfter 3 = .left) ∧
    (∃ step next, s.steps[3]? = some step ∧ s.steps[4]? = some next ∧ next.index + 1 = step.index) ∧
    ¬ s.reports .stepLimit := by
  intro s
  obtain ⟨hlatest, -, -, hnext, hend, -⟩ := tokenize_path turning.registry turning.config ['c', 'b', 'a']
  have hrecords : s.history.toList.map (fun r => (r.activation.seq, r.openedAt, r.closedAt, r.activation.rule.direction)) =
      [(0, 2, none, .right), (1, 2, some 3, .left)] := by decide +kernel
  obtain ⟨forth, rest, hhistory, hforth, hrest⟩ := List.map_eq_cons_iff.1 hrecords
  obtain ⟨back, rfl, hback⟩ := List.map_eq_singleton_iff.1 hrest
  rw [Prod.mk.injEq, Prod.mk.injEq, Prod.mk.injEq] at hforth hback
  have hback' : s.history.IsLatest 3 back := by
    simp only [History.IsLatest, ← Array.mem_toList_iff, hhistory]
    simp [hforth, hback]
  have hleft : s.headingAfter 3 = .left := (hlatest 3 back hback').trans hback.2.2.2
  have hsteps : s.steps.size = 5 := by decide +kernel
  obtain ⟨step, hstep⟩ : ∃ step, s.steps[3]? = some step := ⟨_, Array.getElem?_eq_getElem (by omega)⟩
  obtain ⟨last, hlast⟩ : ∃ last, s.steps[4]? = some last := ⟨_, Array.getElem?_eq_getElem (by omega)⟩
  refine ⟨⟨back, hback', hback.2.2.1, hleft⟩, ⟨step, last, hstep, hlast, ?_⟩, ?_⟩
  · have hleads : (s.headingAfter 3).Leads step.index last.index := hnext 3 step last hstep hlast
    rw [hleft] at hleads
    exact hleads
  · intro hreports
    obtain ⟨hspent, -⟩ := (hend 4 last hlast hsteps.symm).2.1 hreports
    exact absurd (hsteps.symm.trans hspent) (by decide)

end RuleScanner
