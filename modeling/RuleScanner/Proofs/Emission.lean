import RuleScanner.Proofs.Ledger

/-!
# Emission

What a scan yields is told by its records: after the token of a blank a step yields the tokens of the activations whose records
are closed on it, the latest first, and each of them spans the characters on which it was opened and closed.
-/

namespace RuleScanner

/-- The token of the blank on which the step stands, if it stands on one that yields a token. -/
def Trivia.blankOf (trivia : Trivia) (step : Step) : Option Token :=
  if Unicode.isWhiteSpace step.char then trivia.blankToken step.char (.point step.point) else Option.none

/-- The records closed on step `k`, the latest first. -/
def History.closedOn (h : History) (k : Nat) : List Record := (h.toList.filter (·.closedAt == some k)).reverse

/-- The span between the points at which an activation of the rule was opened and closed. -/
def Rule.span (rule : Rule) (opened closed : Point) : Location :=
  match rule.direction with
  | .right => ⟨opened, closed⟩
  | .left => ⟨closed, opened⟩

/-- An activation that is opened and then closed spans both points. -/
theorem Activation.location_closeAt_opening (rule : Rule) (p q : Point) (seq : Nat) :
    ((opening rule p seq).closeAt q).location = rule.span p q := by
  cases h : rule.direction <;> simp [opening, closeAt, Rule.span, Location.startingAt, Location.endingAt, h]

namespace Ledger

variable {made : Nat → Step} {k bound : Nat} {now : List Activation} {stack : Stack} {bases : List Stack}

/-- What a step has closed are the activations of the records closed on it. -/
theorem closed_eq {h : History} (hl : Ledger made k bound now stack bases h.toList) {n : Nat} (hn : n < k) :
    (made n).closed = (h.closedOn n).map (·.activation) := by
  rw [History.closedOn, List.map_reverse, hl.emitted n hn, List.reverse_reverse]

/-- The records closed on a step stand in decreasing order. -/
theorem closedOn_pairwise {h : History} (hl : Ledger made k bound now stack bases h.toList) (n : Nat) :
    (h.closedOn n).Pairwise fun a b => b.activation.seq < a.activation.seq := by
  rw [History.closedOn, List.pairwise_reverse]
  exact hl.pairwise_seq.sublist List.filter_sublist

/-- A closed activation spans the characters on which it was opened and closed. -/
theorem location_eq {records : List Record} (hl : Ledger made k bound now stack bases records) {r : Record} (hr : r ∈ records)
    {n : Nat} (hn : n ∈ r.closedAt) :
    r.activation.location = r.activation.rule.span (made r.openedAt).point (made n).point := by
  have hloc := hl.located r hr
  rw [Record.Located, hn] at hloc
  rw [hloc, Activation.location_closeAt_opening]
  simp [Activation.opening]

/-- The activations that the steps have closed and those still open are all that were pushed. -/
theorem length_closed_add_length_items {records : List Record} (hl : Ledger made k k [] stack bases records) :
    ((List.range k).flatMap fun n => (made n).closed).length + stack.items.length = stack.pushed := by
  have hopen := congrArg List.length hl.items
  have hclosed := (hl.closed_perm k (Nat.le_refl k)).length_eq
  rw [List.length_reverse, List.length_map] at hopen
  rw [List.length_map] at hclosed
  have hsome : records.filter (·.closedAt.any (· < k)) = records.filter (fun r => !r.closedAt.isNone) := by
    refine List.filter_congr fun r hr => ?_
    cases hc : r.closedAt with
    | none => rfl
    | some n => simpa using hl.closedAt_lt hr hc
  have hall := (List.filter_append_perm (·.closedAt.isNone) records).length_eq
  rw [List.length_append, hl.length_records] at hall
  rw [hclosed, hopen, hsome]
  omega

end Ledger

/-- A step yields one token for each activation closed, besides that of a blank. -/
theorem Step.length_flatMap_tokens {trivia : Trivia} (steps : List Step) (hb : ∀ step ∈ steps, step.blank = trivia.blankOf step) :
    (steps.flatMap tokens).length = (steps.filterMap trivia.blankOf).length + (steps.flatMap (·.closed)).length := by
  induction steps with
  | nil => rfl
  | cons step steps ih =>
    rw [List.forall_mem_cons] at hb
    rw [List.flatMap_cons, List.flatMap_cons, List.length_append, List.length_append, ih hb.2, tokens, hb.1]
    cases h : trivia.blankOf step <;> simp [h] <;> omega

/-- The steps push the activations that they open. -/
theorem Stack.pushed_foldl_after (steps : List Step) (stack : Stack) :
    (steps.foldl after stack).pushed = stack.pushed + (steps.flatMap (·.opened)).length := by
  induction steps generalizing stack with
  | nil => rfl
  | cons step steps ih =>
    rw [List.foldl_cons, ih, after, Scan.openAll_snd, List.length_map, List.flatMap_cons, List.length_append, close,
      Nat.add_assoc]

namespace Scan

/-- The blanks of a scan yield what the treatment of blanks makes of them. -/
theorem ofText_blank (registry : Registry) (trivia : Trivia) (config : Config) (text : Text) :
    ∀ step ∈ (ofText registry trivia config text).steps, step.blank = trivia.blankOf step := by
  obtain ⟨s, hs, hsteps, -⟩ := ofText_induction (P := fun s => ∀ step ∈ s.steps, step.blank = trivia.blankOf step)
    registry trivia config text (by simp)
    (by
      intro s skipped c k hs _ step hstep
      rcases Array.mem_push.1 hstep with hstep | rfl
      · exact hs step hstep
      · rfl)
    (fun _ hs => hs)
  rw [hsteps]
  exact hs

/-- The tokens that a scan returns or, if it fails, carries with its error are those that it has found. -/
theorem result_tokens (s : Scan) :
    (match s.result with | .ok tokens => tokens | .error failure => failure.tokens) = s.tokens := by
  rw [result]
  cases s.error? <;> rfl

/-- A closed activation of a scan spans the characters of the steps on which it was opened and closed. -/
theorem Replays.location_eq {s : Scan} (h : s.Replays) {r : Record} (hr : r ∈ s.history) {n : Nat} (hn : n ∈ r.closedAt) :
    ∃ opened closed : Step, s.steps[r.openedAt]? = some opened ∧ s.steps[n]? = some closed ∧
      r.activation.location = r.activation.rule.span opened.point closed.point := by
  have hmem := Array.mem_toList_iff.2 hr
  have hopened := Array.getElem?_eq_getElem (h.ledger.openedAt r hmem)
  have hclosed := Array.getElem?_eq_getElem (h.ledger.closedAt_lt hmem hn)
  have hloc := h.ledger.location_eq hmem hn
  rw [(getD_steps hopened).2, (getD_steps hclosed).2] at hloc
  exact ⟨_, _, hopened, hclosed, hloc⟩

/-- The tokens of a scan are told by its records. -/
theorem Replays.tokens_eq {s : Scan} (h : s.Replays) {trivia : Trivia}
    (hb : ∀ step ∈ s.steps.toList, step.blank = trivia.blankOf step) :
    s.tokens = s.steps.toList.zipIdx.flatMap fun (step, k) =>
      (trivia.blankOf step).toList ++ (s.history.closedOn k).map (·.activation.token) := by
  have hsplit : s.tokens = s.steps.toList.zipIdx.flatMap fun (step, _) => step.tokens := by
    rw [tokens, ← List.zipIdx_map_fst 0 s.steps.toList, List.flatMap_map, List.zipIdx_map_fst]
  rw [hsplit, List.flatMap_def, List.flatMap_def]
  congr 1
  refine List.map_congr_left ?_
  rintro ⟨step, k⟩ hmem
  have hget := List.mem_zipIdx_iff_getElem?.1 hmem
  obtain ⟨hk, hmade⟩ := getD_steps (s := s) (by simpa using hget)
  have hclosed := h.ledger.closed_eq hk
  rw [hmade] at hclosed
  show step.blank.toList ++ step.closed.map Activation.token = _
  rw [hb step (List.mem_of_getElem? hget), hclosed, List.map_map]
  rfl

end Scan

/-- Nothing is lost, made twice or put in another place on the way to the output, whatever the rules, the treatment of blanks
and comments, the configuration and the text are. A scan, whether it fails or not, yields for each step in order the token of
the blank, if there is one, and then the tokens of the activations closed on the step, in decreasing order of their numbers. A
closed activation spans the characters on which it was opened and closed. The tokens that are not those of blanks and the
activations still open are together as many as have been pushed. -/
theorem tokenize_emission (t : Tokenizer) (text : Text) :
    let s := (t.tokenize text).last
    (match s.result with | .ok tokens => tokens | .error failure => failure.tokens) = s.tokens ∧
    (s.tokens = s.steps.toList.zipIdx.flatMap fun (step, k) =>
      (t.trivia.blankOf step).toList ++ (s.history.closedOn k).map fun r =>
        r.activation.rule.labels.token r.activation.rule.name r.activation.location) ∧
    (∀ k, (s.history.closedOn k).Pairwise fun a b => b.activation.seq < a.activation.seq) ∧
    (∀ r ∈ s.history, ∀ k ∈ r.closedAt, ∃ opened closed : Step,
      s.steps[r.openedAt]? = some opened ∧ s.steps[k]? = some closed ∧
      r.activation.location = r.activation.rule.span opened.point closed.point) ∧
    s.tokens.length + s.openActivations.length =
      (s.steps.toList.filterMap t.trivia.blankOf).length + s.stack.pushed ∧
    s.stack.pushed = (s.steps.toList.flatMap (·.opened)).length := by
  intro s
  have h : s.Replays := Scan.ofText_replays ..
  have hblank : ∀ step ∈ s.steps.toList, step.blank = t.trivia.blankOf step := by
    intro step hstep
    exact Scan.ofText_blank t.registry t.trivia t.config text step (Array.mem_toList_iff.1 hstep)
  refine ⟨s.result_tokens, h.tokens_eq hblank, h.ledger.closedOn_pairwise, fun r hr k hk => h.location_eq hr hk, ?_, ?_⟩
  · have hcount : (s.steps.toList.flatMap (·.closed)).length + s.stack.items.length = s.stack.pushed := by
      rw [← Scan.flatMap_getD_steps]
      exact h.ledger.length_closed_add_length_items
    rw [Scan.tokens, Step.length_flatMap_tokens s.steps.toList hblank, Scan.openActivations, Stack.toList, List.length_reverse]
    omega
  · rw [h.stack, Stack.pushed_foldl_after]
    exact Nat.zero_add _

end RuleScanner
