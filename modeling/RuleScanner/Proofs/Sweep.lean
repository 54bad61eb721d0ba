import RuleScanner.Proofs.Erasure
import RuleScanner.Proofs.Outcome
import RuleScanner.Proofs.Truncation
import RuleScanner.Rule.Matcher

/-!
# Scans that sweep over a text

Without comments and with rules that all go right a scan visits the characters of a text one by one, from the first to the last: it is
a fold over them (`Scan.sweep`), and with the usual budget it gets to the end (`Scan.ofText_sweep`).

What a sweep has found after some characters depends on the rest of the text in two ways only: a matcher may look ahead, and the
cursor moves on to the next character if there is one. So if the matchers do not care, the scan of a text begins with the scan of
any of its beginnings (`Scan.sweep_append`). What is open at the end of the shorter text can be read off the records of the
longer scan (`Scan.Replays.openActivations_eq`).
-/

namespace RuleScanner

/-! ## A scan as a fold -/

/-- The state after a visit of the character `c` under the cursor, where there are no comments, and the move that follows. -/
def ScanState.pass (registry : Registry) (text : Text) (s : ScanState) (c : Char) : ScanState :=
  (s.visit registry .none text [] c s.cursor).move text

namespace Scan

/-- A run that stands on a character, where there are no comments, visits it. It ends there at the left edge, and moves on
otherwise. -/
theorem run_pass {registry : Registry} {text : Text} {s : ScanState} {c : Char} (hc : text[s.cursor.index]? = some c)
    (budget left : Nat) :
    run registry .none text budget (left + 1) s =
      if (s.visit registry .none text [] c s.cursor).cursor.atLeftEdge then
        { steps := (s.visit registry .none text [] c s.cursor).steps, stack := (s.visit registry .none text [] c s.cursor).stack }
      else run registry .none text budget left (s.pass registry text c) :=
  run_succ (by rw [settle_none, hc]) budget left

/-- A run behind the text, where there are no comments, is over. -/
theorem run_behind {registry : Registry} {text : Text} {s : ScanState} (hc : text[s.cursor.index]? = none) (budget left : Nat) :
    run registry .none text budget left s = { steps := s.steps, stack := s.stack } :=
  run_over (by rw [settle_none, hc]) budget left

/-- The state in which a scan begins. -/
def start (memory : ColumnMemory) (text : Text) : ScanState := { cursor := ((Cursor.initial memory).enter text).2 }

/-- The state of a scan that has swept over the first `n` characters of a text. -/
def sweep (registry : Registry) (memory : ColumnMemory) (text : Text) (n : Nat) : ScanState :=
  (text.take n).foldl (ScanState.pass registry text) (start memory text)

variable {registry : Registry} {memory : ColumnMemory} {text : Text} {n : Nat}

theorem sweep_succ {c : Char} (hc : text[n]? = some c) :
    sweep registry memory text (n + 1) = (sweep registry memory text n).pass registry text c := by
  rw [sweep, Text.take_succ_of_getElem? hc, List.foldl_append]
  rfl

/-- The steps after one more character are those before and the one on it. -/
theorem toList_steps_sweep_succ {c : Char} (hc : text[n]? = some c) :
    (sweep registry memory text (n + 1)).steps.toList =
      (sweep registry memory text n).steps.toList ++
        [(step registry .none text [] c (sweep registry memory text n).cursor (sweep registry memory text n).stack).1] := by
  rw [sweep_succ hc]
  exact ScanState.toList_steps_visit ..

/-- A sweep makes one step on each character. -/
theorem length_steps_sweep (hn : n ≤ text.length) : (sweep registry memory text n).steps.toList.length = n := by
  induction n with
  | zero => rfl
  | succ n ih =>
    rw [toList_steps_sweep_succ (List.getElem?_eq_getElem hn), List.length_append, ih (Nat.le_of_lt hn)]
    rfl

theorem steps_sweep_isPrefix {m : Nat} (hmn : m ≤ n) (hn : n ≤ text.length) :
    (sweep registry memory text m).steps.toList <+: (sweep registry memory text n).steps.toList := by
  induction hmn with
  | refl => exact List.prefix_refl _
  | @step n hmn ih =>
    rw [toList_steps_sweep_succ (List.getElem?_eq_getElem hn)]
    exact (ih (Nat.le_of_lt hn)).trans (List.prefix_append _ _)

/-- A sweep that has not turned stands on the next character. -/
theorem index_sweep (hn : n ≤ text.length) (hright : ∀ i ≤ n, (sweep registry memory text i).cursor.direction = .right) :
    (sweep registry memory text n).cursor.index = n := by
  induction n with
  | zero => exact Cursor.enter_initial_index ..
  | succ n ih =>
    have hd := hright (n + 1) (Nat.le_refl _)
    rw [sweep_succ (List.getElem?_eq_getElem hn), ScanState.pass, ScanState.move] at hd ⊢
    rw [Cursor.advance_direction] at hd
    rw [Cursor.advance_index_right hd]
    exact congrArg (· + 1) (ih (Nat.le_of_lt hn) fun i hi => hright i (Nat.le_succ_of_le hi))

/-- As long as a scan without comments does not turn, it sweeps over the text. -/
theorem run_sweep (hn : n ≤ text.length) (hright : ∀ i ≤ n, (sweep registry memory text i).cursor.direction = .right)
    (budget left : Nat) :
    run registry .none text budget (left + n) (start memory text) =
      run registry .none text budget left (sweep registry memory text n) := by
  induction n generalizing left with
  | zero => rfl
  | succ n ih =>
    have hc := List.getElem?_eq_getElem hn
    have hbefore : ∀ i ≤ n, (sweep registry memory text i).cursor.direction = .right := fun i hi =>
      hright i (Nat.le_succ_of_le hi)
    have hindex := index_sweep (Nat.le_of_lt hn) hbefore
    have hd := hright (n + 1) (Nat.le_refl _)
    rw [sweep_succ hc, ScanState.pass, ScanState.move, Cursor.advance_direction] at hd
    rw [Nat.add_comm n 1, ← Nat.add_assoc, ih (Nat.le_of_lt hn) hbefore, run_pass (by rw [hindex]; exact hc),
      if_neg (by simp [Cursor.atLeftEdge, hd]), Nat.add_comm 1 n, sweep_succ hc]

/-- With the usual budget, the scan of a text without comments starts with a sweep up to any character before which it does not
turn. -/
theorem ofText_run_sweep (hn : n ≤ text.length) (hright : ∀ i ≤ n, (sweep registry memory text i).cursor.direction = .right) :
    ofText registry .none { memory } text =
      run registry .none text (64 * text.length + 64) (64 * text.length + 64 - n) (sweep registry memory text n) := by
  have h := run_sweep hn hright (64 * text.length + 64) (64 * text.length + 64 - n)
  rwa [Nat.sub_add_cancel (by omega)] at h

/-- If the scan of a text without comments never turns, it is a sweep over all of it, with the usual budget. -/
theorem ofText_sweep (hright : ∀ i ≤ text.length, (sweep registry memory text i).cursor.direction = .right) :
    ofText registry .none { memory } text =
      { steps := (sweep registry memory text text.length).steps, stack := (sweep registry memory text text.length).stack } := by
  have hbehind : text[(sweep registry memory text text.length).cursor.index]? = none := by
    rw [index_sweep (Nat.le_refl _) hright]
    exact List.getElem?_eq_none (Nat.le_refl _)
  exact (ofText_run_sweep (Nat.le_refl _) hright).trans (run_behind hbehind ..)

/-- Rules that go right do not turn a sweep. -/
theorem direction_sweep (hrules : ∀ rule ∈ registry.rules, rule.direction = .right) (hn : n ≤ text.length) :
    (sweep registry memory text n).cursor.direction = .right := by
  induction n with
  | zero => exact Cursor.enter_initial_direction ..
  | succ n ih =>
    rw [sweep_succ (List.getElem?_eq_getElem hn), ScanState.pass, ScanState.move, Cursor.advance_direction]
    exact visit_direction hrules .none text [] text[n] (ih (Nat.le_of_lt hn)) _

/-! ## The beginning of a text -/

/-- A step on the same character is the same in another text, if the matchers of the rules answer the same there. -/
theorem step_text_congr {text' : Text} {c : Char} {k : Cursor}
    (hmatch : ∀ rule ∈ registry.rules, ∀ m ∈ rule.matcher, m c k.index text = m c k.index text') (trivia : Trivia)
    (skipped : List Skip) (stack : Stack) :
    step registry trivia text skipped c k stack = step registry trivia text' skipped c k stack := by
  have haccepts : ∀ rule ∈ registry.rules, rule.accepts c k.index text = rule.accepts c k.index text' := by
    intro rule hrule
    cases hm : rule.matcher with
    | none => simp [Rule.accepts, hm]
    | some m => simp [Rule.accepts, hm, hmatch rule hrule m hm]
  simp only [step, opening, Registry.candidates, List.filter_congr haccepts]

/-- As long as a sweep has a character of the beginning of a text in front of it, it does not depend on the rest. What it has found
by then does not depend on it at the end of the beginning either. -/
theorem sweep_append {rest : Text} (hrules : ∀ rule ∈ registry.rules, rule.direction = .right)
    (hmatch : ∀ rule ∈ registry.rules, ∀ m ∈ rule.matcher, ∀ i c, text[i]? = some c → m c i (text ++ rest) = m c i text)
    (hn : n ≤ text.length) :
    (sweep registry memory (text ++ rest) n).steps = (sweep registry memory text n).steps ∧
      (sweep registry memory (text ++ rest) n).stack = (sweep registry memory text n).stack ∧
      (n < text.length → (sweep registry memory (text ++ rest) n).cursor = (sweep registry memory text n).cursor) := by
  induction n with
  | zero =>
    refine ⟨rfl, rfl, fun hlt => ?_⟩
    show ((Cursor.initial memory).enter (text ++ rest)).2 = ((Cursor.initial memory).enter text).2
    rw [Cursor.enter, Cursor.enter, List.getElem?_append_left hlt]
  | succ n ih =>
    obtain ⟨hsteps, hstack, hcursor⟩ := ih (Nat.le_of_lt hn)
    have hright : ∀ i ≤ n, (sweep registry memory text i).cursor.direction = .right := fun i hi =>
      direction_sweep hrules (Nat.le_trans hi (Nat.le_of_lt hn))
    have hi := index_sweep (Nat.le_of_lt hn) hright
    have hc := List.getElem?_eq_getElem hn
    have hc' : (text ++ rest)[n]? = some text[n] := by rw [List.getElem?_append_left hn, hc]
    -- Both sweeps stand on the same character, and make the same step on it.
    have hsame : sweep registry memory (text ++ rest) n = sweep registry memory text n := by
      rcases hs : sweep registry memory (text ++ rest) n with ⟨k, stack, steps⟩
      rw [hs] at hsteps hstack hcursor
      cases hsteps
      cases hstack
      cases hcursor hn
      rfl
    have hvisit : ∀ s : ScanState, s.cursor.index = n →
        s.visit registry .none (text ++ rest) [] text[n] s.cursor = s.visit registry .none text [] text[n] s.cursor := by
      intro s hs
      have hm : ∀ rule ∈ registry.rules, ∀ m ∈ rule.matcher,
          m text[n] s.cursor.index (text ++ rest) = m text[n] s.cursor.index text := by
        intro rule hrule m hm
        rw [hs]
        exact hmatch rule hrule m hm n text[n] hc
      rw [ScanState.visit, step_text_congr hm]
      rfl
    rw [sweep_succ hc', sweep_succ hc, hsame, ScanState.pass, ScanState.pass, hvisit _ hi]
    refine ⟨rfl, rfl, fun hlt => ?_⟩
    -- There is a next character of the beginning to move on to.
    have hd := visit_direction hrules .none text [] text[n] (hright n (Nat.le_refl n)) (sweep registry memory text n)
    have hindex : ((sweep registry memory text n).visit registry .none text [] text[n]
        (sweep registry memory text n).cursor).cursor.index = n := hi
    simp only [ScanState.move, Cursor.advance, hd, Cursor.moveRight, hindex, List.getElem?_append_left hlt]

end Scan

/-! ## What is open after some steps -/

theorem Activation.reopen_opening (rule : Rule) (p : Point) (seq : Nat) : (opening rule p seq).reopen = opening rule p seq := by
  rw [reopen, origin_opening]
  rfl

/-- What is open at the end of a scan whose steps are the first `n` of those of another one are the activations which that one has
opened and not closed by then, as they were when they opened. -/
theorem Scan.Replays.openActivations_eq {s s' : Scan} (h : s.Replays) (h' : s'.Replays) {n : Nat}
    (hs : s.steps.toList = s'.steps.toList.take n) :
    s.openActivations =
      (s'.history.toList.filter fun r => r.openedAt < n && !r.closedAt.any (· < n)).map (·.activation.reopen) := by
  have hitems : s.openActivations = (s.history.toList.filter (·.closedAt.isNone)).map (·.activation) := h.ledger.items
  have hopen : ∀ r : Record, (r.before n).closedAt.isNone = !r.closedAt.any (· < n) := by
    intro r
    unfold Record.before
    rcases hc : r.closedAt with _ | m
    · simp [hc]
    · by_cases hm : m < n <;> simp [hm, hc]
  have hfilter : (Record.allBefore n s'.history.toList).filter (·.closedAt.isNone) =
      (s'.history.toList.filter fun r => r.openedAt < n && !r.closedAt.any (· < n)).map (Record.before n) := by
    rw [Record.allBefore, List.filter_map, List.filter_filter]
    congr 1
    refine List.filter_congr fun r _ => ?_
    rw [Function.comp_apply, hopen, Bool.and_comm]
  rw [hitems, h'.history_eq_allBefore hs, hfilter, List.map_map]
  refine List.map_congr_left fun r hr => ?_
  obtain ⟨hmem, hlast⟩ := List.mem_filter.1 hr
  have hlocated := h'.ledger.located r hmem
  simp only [Bool.and_eq_true, Bool.not_eq_eq_eq_not, Bool.not_true] at hlast
  rw [Function.comp_apply, Record.before]
  rcases hc : r.closedAt with _ | m
  · -- The activation is open in the longer scan too, and is as it was when it opened.
    rw [Record.Located, hc] at hlocated
    have hsame : r.activation.reopen = r.activation := by
      rw [hlocated, Activation.reopen_opening]
    rw [hsame]
    rfl
  · have hm : ¬ m < n := by simpa [hc] using hlast.2
    rw [if_neg (by simpa using hm)]

/-- Scanning to the right is incremental. For rules that all go right, without comments and with the usual budget, take two texts
such that every matcher answers the same on the characters of the first whether or not the second follows. Then the tokens and
the steps of the scan of the first text are the first of those of the scan of both, and what is open at its end are the activations
that the longer scan has opened and not closed on the characters of the first text, as they were when they opened. -/
theorem tokenize_incremental (registry : Registry) (memory : ColumnMemory) (t u : Text)
    (hrules : ∀ rule ∈ registry.rules, rule.direction = .right)
    (hmatch : ∀ rule ∈ registry.rules, ∀ m ∈ rule.matcher, ∀ i c, t[i]? = some c → m c i (t ++ u) = m c i t) :
    let tokenizer : Tokenizer := { registry, trivia := .none, config := { memory, maxSteps := none } }
    let short := (tokenizer.tokenize t).last
    let long := (tokenizer.tokenize (t ++ u)).last
    short.tokens <+: long.tokens ∧
    short.steps.toList <+: long.steps.toList ∧
    short.openActivations =
      (long.history.toList.filter fun r => r.openedAt < t.length && !r.closedAt.any (· < t.length)).map
        (·.activation.reopen) := by
  intro tokenizer short long
  have hshort : short = _ := Scan.ofText_sweep fun _ hi => Scan.direction_sweep hrules hi
  have hlong : long = _ := Scan.ofText_sweep fun _ hi => Scan.direction_sweep hrules hi
  have hsame : (Scan.sweep registry memory (t ++ u) t.length).steps = (Scan.sweep registry memory t t.length).steps :=
    (Scan.sweep_append hrules hmatch (Nat.le_refl _)).1
  have hlength : t.length ≤ (t ++ u).length := by simp
  have hsteps : short.steps.toList <+: long.steps.toList := by
    rw [hshort, hlong, ← hsame]
    exact Scan.steps_sweep_isPrefix hlength (Nat.le_refl _)
  have hcount : short.steps.toList.length = t.length := by
    rw [hshort]
    exact Scan.length_steps_sweep (Nat.le_refl _)
  refine ⟨?_, hsteps, ?_⟩
  · obtain ⟨rest, hrest⟩ := hsteps
    rw [Scan.tokens, Scan.tokens, ← hrest, List.flatMap_append]
    exact List.prefix_append _ _
  · refine Scan.Replays.openActivations_eq (Scan.ofText_replays ..) (Scan.ofText_replays ..) ?_
    rw [← hcount]
    exact List.prefix_iff_eq_take.1 hsteps

/-- Brackets that open where a word starts. The first two characters of this text close one, and the fourth opens another one,
which the last closes. Without the last character it is left open. -/
theorem tokenize_incremental_brackets :
    let registry : Registry :=
      { rules := [{ name := "round", symbol := "(", terminator := ")", matcher := some Matcher.wordStart }] }
    let tokenizer : Tokenizer := { registry, trivia := .none, config := { memory := .everyLine, maxSteps := none } }
    let short := (tokenizer.tokenize ['(', ')', ' ', '(']).last
    let long := (tokenizer.tokenize (['(', ')', ' ', '('] ++ [')'])).last
    short.tokens <+: long.tokens ∧ long.tokens.map (·.location) = [⟨⟨1, 1⟩, ⟨1, 2⟩⟩, ⟨⟨1, 4⟩, ⟨1, 5⟩⟩] ∧
      short.openActivations.map (fun a => (a.seq, a.location)) = [(1, .startingAt ⟨1, 4⟩)] := by
  intro registry tokenizer short long
  obtain ⟨htokens, -, hopen⟩ := tokenize_incremental registry .everyLine ['(', ')', ' ', '('] [')']
    (by
      intro rule hrule
      rw [List.mem_singleton.1 hrule])
    (by
      intro rule hrule m hm i c hc
      rw [List.mem_singleton.1 hrule] at hm
      cases hm
      rcases i with _ | _ | _ | _ | i
      · rfl
      · rfl
      · rfl
      · rfl
      · cases hc)
  refine ⟨htokens, by decide +kernel, ?_⟩
  rw [hopen]
  decide +kernel

end RuleScanner
