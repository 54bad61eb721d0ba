import RuleScanner.Proofs.DemoScan

/-!
# The output of the demonstration language

A scan that is not cut off fails if something is left open, and its error stands where the earliest of what is left open was opened
(`Scan.Replays.exists_earliest`). Rules that all go right visit each character at most once, so that they never use up the usual
number of steps (`Tokenizer.cutOff_eq_none_of_right`).

The rules of the language go right, and each of them names a category, by a label or by its own name
(`Demo.hasCategory_token`). So every token is valid, whether the scan fails or not.
-/

namespace RuleScanner

/-! ## Failures of a scan that is not cut off -/

namespace Scan

variable {s : Scan} {failure : ScanFailure} (hcut : s.cutOff = none) (hf : s.result = .error failure)

include hcut

theorem faults_of_cutOff_eq_none : s.faults = s.openActivations.map unclosed := by
  rw [faults, hcut]
  rfl

include hf

/-- If all that is left open goes right, that is all that has gone wrong. -/
theorem code_of_right (hright : ∀ a ∈ s.openActivations, a.rule.direction = .right) :
    failure.error.code = .single .unterminatedRight := by
  have hsome : ∃ a ∈ s.openActivations, a.rule.direction = .right := by
    obtain ⟨f, rest, hfaults, -⟩ := error_of_result hf
    rw [faults_of_cutOff_eq_none hcut] at hfaults
    obtain ⟨a, as, hopen, -⟩ := List.map_eq_cons_iff.1 hfaults
    have ha : a ∈ s.openActivations := hopen ▸ List.mem_cons_self
    exact ⟨a, ha, hright a ha⟩
  have hleft : ¬ ∃ a ∈ s.openActivations, a.rule.direction = .left := by
    rintro ⟨a, ha, hd⟩
    rw [hright a ha] at hd
    cases hd
  rw [code_of_result (by rw [hcut]; nofun) hf, hcut, if_pos hsome, if_neg hleft]
  rfl

/-- The error stands where the earliest of what is left open was opened. -/
theorem Replays.exists_earliest (h : s.Replays) :
    ∃ r ∈ s.history, r.closedAt = none ∧ (∀ r' ∈ s.history, r'.closedAt = none → r.openedAt ≤ r'.openedAt) ∧
      ∃ step, s.steps[r.openedAt]? = some step ∧ failure.error.location = some (.point step.point) := by
  have hfaults := faults_of_cutOff_eq_none hcut
  have hopen : s.openActivations = (s.history.toList.filter (·.closedAt.isNone)).map (·.activation) := h.ledger.items
  have hpoints : s.faults.map Fault.point? = (s.openActivations.map (·.origin)).map some := by
    rw [hfaults, List.map_map, List.map_map]
    rfl
  have hlocation := location_of_result hf hpoints
  have hsorted := h.pairwise_openedAt.filter (·.closedAt.isNone)
  have hmem : ∀ r, r ∈ s.history.toList.filter (·.closedAt.isNone) ↔ r ∈ s.history ∧ r.closedAt = none := by
    intro r
    rw [List.mem_filter, Array.mem_toList_iff, Option.isNone_iff_eq_none]
  cases hunclosed : s.history.toList.filter (·.closedAt.isNone) with
  | nil =>
    obtain ⟨f, rest, hcons, -⟩ := error_of_result hf
    rw [hfaults, hopen, hunclosed] at hcons
    cases hcons
  | cons r rest =>
    rw [hunclosed] at hsorted hmem
    obtain ⟨hr, hnone⟩ := (hmem r).1 List.mem_cons_self
    refine ⟨r, hr, hnone, fun r' hr' hnone' => ?_, ?_⟩
    · rcases List.mem_cons.1 ((hmem r').2 ⟨hr', hnone'⟩) with rfl | hlater
      · exact Nat.le_refl _
      · exact (List.pairwise_cons.1 hsorted).1 r' hlater
    · have hstep := Array.getElem?_eq_getElem (h.ledger.openedAt r (Array.mem_toList_iff.2 hr))
      have horigin := h.ledger.origin_eq (Array.mem_toList_iff.2 hr) hnone
      rw [(getD_steps hstep).2] at horigin
      rw [hopen, hunclosed, List.map_cons, List.map_cons, List.head?_cons, horigin] at hlocation
      exact ⟨_, hstep, hlocation⟩

end Scan

/-! ## Rules to the right -/

namespace Tokenizer

variable {t : Tokenizer} {text : Text}

/-- Where blanks yield nothing, every token is that of a closed activation. -/
theorem exists_record_of_mem_tokens (hblank : ∀ c l, t.trivia.blankToken c l = none) {token : Token}
    (htoken : token ∈ (t.tokenize text).last.tokens) :
    ∃ r ∈ (t.tokenize text).last.history, ∃ n, r.closedAt = some n ∧ token = r.activation.token := by
  have h : (t.tokenize text).last.Replays := Scan.ofText_replays ..
  have hsteps : ∀ step ∈ (t.tokenize text).last.steps.toList, step.blank = t.trivia.blankOf step := fun step hstep =>
    Scan.ofText_blank t.registry t.trivia t.config text step (Array.mem_toList_iff.1 hstep)
  rw [h.tokens_eq_map_emitted hblank hsteps] at htoken
  obtain ⟨r, hr, rfl⟩ := List.mem_map.1 htoken
  obtain ⟨n, -, hn⟩ := List.mem_flatMap.1 hr
  obtain ⟨hmem, hclosed⟩ := Scan.mem_closedOn hn
  exact ⟨r, hmem, n, hclosed, rfl⟩

variable (hrules : ∀ rule ∈ t.registry.rules, rule.direction = .right)

include hrules

theorem direction_of_mem_openActivations : ∀ a ∈ (t.tokenize text).last.openActivations, a.rule.direction = .right := by
  have h : (t.tokenize text).last.Replays := Scan.ofText_replays ..
  intro a ha
  rw [Scan.openActivations, Stack.toList, h.ledger.items] at ha
  obtain ⟨r, hr, rfl⟩ := List.mem_map.1 ha
  exact hrules _ (rule_mem_of_mem_history (Array.mem_toList_iff.1 (List.mem_filter.1 hr).1))

/-- Rules that all go right never use up the usual number of steps. -/
theorem cutOff_eq_none_of_right (hsteps : t.config.maxSteps = none) : (t.tokenize text).last.cutOff = none := by
  obtain ⟨n, -, hs⟩ := Round.iterate_ofText t.registry t.trivia t.config text
  have hrise := pairwise_index_of_right hrules text
  have hlt : ∀ i ∈ (t.tokenize text).last.steps.toList.map (·.index), i < text.length :=
    List.forall_mem_map.2 (t.index_lt_length text)
  have hend : ((t.tokenize text).last.steps.toList.map (·.index)).drop (t.tokenize text).last.steps.size = [] :=
    List.drop_of_length_le (by rw [List.length_map, Array.length_toList])
  have hsize := length_le_of_rise_fall hlt (hrise.sublist (List.take_sublist ..)) (by rw [hend]; exact List.Pairwise.nil)
  rw [List.length_map, Array.length_toList] at hsize
  cases hcut : (t.tokenize text).last.cutOff with
  | none => rfl
  | some f =>
    have hbudget := ((Round.cutOff_isSome_iff (Round.first_bounded ..) hs).1 (Option.isSome_iff_exists.2 ⟨f, hcut⟩)).1
    rw [Config.budget, hsteps, Option.getD_none] at hbudget
    have hused : (t.tokenize text).last.steps.size = 64 * text.length + 64 := hbudget
    omega

end Tokenizer

/-- Every rule of the language names a category. -/
theorem Demo.hasCategory_token : ∀ rule ∈ scanner.registry.rules, ∀ l, (rule.labels.token rule.name l).hasCategory := by
  intro rule hrule l
  rcases mem_rules_iff.1 hrule with rfl | ⟨kind, rfl⟩
  · rfl
  · cases kind <;> rfl

/-- The tokens of the language are valid, and a scan can fail in one way only, whatever the text is. Each token that comes out,
whether the scan fails or not, has a category and a location that does not start after it ends. The only error is that something
is left open, and it stands where the earliest of what is left open was opened. -/
theorem tokenize_demo_output (text : Text) (hlen : text.length < UInt32.size - 1) :
    ∃ t, Demo.tokenizer = .ok t ∧
      let s := (t.tokenize text).last
      let output := match s.result with | .ok tokens => tokens | .error failure => failure.tokens
      (∀ token ∈ output, token.IsValid) ∧
      ∀ failure, s.result = .error failure →
        failure.error.code = .single .unterminatedRight ∧
        ∃ r ∈ s.history, r.closedAt = none ∧ (∀ r' ∈ s.history, r'.closedAt = none → r.openedAt ≤ r'.openedAt) ∧
          ∃ step, s.steps[r.openedAt]? = some step ∧ failure.error.location = some (.point step.point) := by
  refine ⟨Demo.scanner, Demo.tokenizer_eq, ?_⟩
  intro s output
  have hcut : s.cutOff = none := Tokenizer.cutOff_eq_none_of_right Demo.direction_eq rfl
  refine ⟨fun token htoken => ?_, fun failure hf => ⟨?_, ?_⟩⟩
  · have houtput : output = s.tokens := Scan.result_tokens _
    rw [houtput] at htoken
    obtain ⟨r, hr, n, hn, rfl⟩ := Tokenizer.exists_record_of_mem_tokens (fun _ _ => rfl) htoken
    have hrule := Tokenizer.rule_mem_of_mem_history hr
    have hexact := fun step hstep => (Tokenizer.exact_of_right Demo.direction_eq hlen step hstep).2
    refine ⟨Demo.hasCategory_token _ hrule _, Point.le_of_lt ?_⟩
    exact Tokenizer.location_start_lt_stop Demo.direction_eq hlen hexact hr hn
  · exact Scan.code_of_right hcut hf (Tokenizer.direction_of_mem_openActivations Demo.direction_eq)
  · exact Scan.Replays.exists_earliest hcut hf (Scan.ofText_replays ..)

/-- The scan of this text yields two tokens, and fails where the third word was opened. -/
theorem tokenize_demo_output_unfinished :
    ∃ t, Demo.tokenizer = .ok t ∧
      ∃ failure, (t.tokenize ['x', ' ', '=', ' ', '1']).last.result = .error failure ∧ failure.tokens.length = 2 ∧
        (∀ token ∈ failure.tokens, token.IsValid) ∧ failure.error.code = .single .unterminatedRight ∧
        failure.error.location = some (.point ⟨1, 5⟩) := by
  obtain ⟨t, ht, htokens, hfails⟩ := tokenize_demo_output ['x', ' ', '=', ' ', '1'] (by decide)
  refine ⟨t, ht, ?_⟩
  cases ht.symm.trans Demo.tokenizer_eq
  have htold : (match (Demo.scanner.tokenize ['x', ' ', '=', ' ', '1']).last.result with
      | .ok _ => none
      | .error failure => some (failure.tokens.length, failure.error.location)) = some (2, some (.point ⟨1, 5⟩)) := by
    decide +kernel
  rcases hr : (Demo.scanner.tokenize ['x', ' ', '=', ' ', '1']).last.result with failure | tokens
  · rw [hr] at htokens htold
    obtain ⟨hlength, hlocation⟩ := Prod.mk.inj (Option.some.inj htold)
    exact ⟨failure, rfl, hlength, htokens, (hfails failure hr).1, hlocation⟩
  · rw [hr] at htold
    cases htold

end RuleScanner
