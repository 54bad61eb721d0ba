import RuleScanner.Proofs.Ledger
import RuleScanner.Proofs.Rounds

/-!
# The outcome of a scan

A scan fails exactly if it was cut off or has left an activation open, and its error tells all of it: the faults of a scan are
the cut and then the open activations, bottom first. Combining their errors adds no condition (`Scan.code_of_result`) and loses no
message (`ScanError.message_foldl`). What an open activation says about its opening is true: its origin is the point of the step
that has opened it (`Ledger.origin_eq`).
-/

namespace RuleScanner

/-! ## Codes and messages of combined errors -/

namespace FlagSet

variable {α : Type}

theorem ext_testBit {s t : FlagSet α} (h : ∀ i, s.bits.toNat.testBit i = t.bits.toNat.testBit i) : s = t :=
  ext (UInt32.toNat_inj.1 (Nat.eq_of_testBit_eq h))

theorem testBit_union (s t : FlagSet α) (i : Nat) :
    (s ∪ t).bits.toNat.testBit i = (s.bits.toNat.testBit i || t.bits.toNat.testBit i) := by
  have hunion : (s ∪ t).bits.toNat = s.bits.toNat ||| t.bits.toNat := UInt32.toNat_or ..
  rw [hunion, Nat.testBit_or]

/-- A union of many sets has the bits of each of them. -/
theorem testBit_foldl_union (s : FlagSet α) (rest : List (FlagSet α)) (i : Nat) :
    (rest.foldl (· ∪ ·) s).bits.toNat.testBit i = (s :: rest).any (·.bits.toNat.testBit i) := by
  induction rest generalizing s with
  | nil => simp
  | cons t rest ih => simp [ih, testBit_union, Bool.or_assoc]

/-- A set that is there on a condition has its bits on that condition. -/
theorem testBit_ite_empty (p : Prop) [Decidable p] (s : FlagSet α) (i : Nat) :
    (if p then s else ∅).bits.toNat.testBit i = (decide p && s.bits.toNat.testBit i) := by
  by_cases h : p
  · simp [h]
  · simp only [h, if_false, decide_false, Bool.false_and]
    exact Nat.zero_testBit i

end FlagSet

namespace ScanError

/-- Errors that are combined have the union of their codes. -/
theorem code_foldl (e : ScanError) (rest : List ScanError) :
    (rest.foldl (· ++ ·) e).code = (rest.map code).foldl (· ∪ ·) e.code := by
  have happend : ∀ a b : ScanError, a.code ∪ b.code = (a ++ b).code := fun _ _ => rfl
  rw [List.foldl_map, List.foldl_hom code happend]

theorem joinMessages_of_ne {a b : String} (ha : a ≠ "") (hb : b ≠ "") : joinMessages a b = a ++ "; " ++ b := by
  simp [joinMessages, ha, hb, toString]

/-- Two messages joined are listed as both, and empty ones are not listed. -/
theorem intercalate_joinMessages (a b : String) (rest : List String) :
    "; ".intercalate ((joinMessages a b :: rest).filter (· ≠ "")) = "; ".intercalate ((a :: b :: rest).filter (· ≠ "")) := by
  by_cases ha : a = ""
  · simp [joinMessages, ha]
  · by_cases hb : b = ""
    · simp [joinMessages, ha, hb]
    · rw [joinMessages_of_ne ha hb]
      simp [ha, hb, String.append_assoc]

/-- Errors that are combined have all their messages, in order, but for empty ones. -/
theorem message_foldl (e : ScanError) (rest : List ScanError) :
    (rest.foldl (· ++ ·) e).message = "; ".intercalate (((e :: rest).map (·.message)).filter (· ≠ "")) := by
  induction rest generalizing e with
  | nil => by_cases he : e.message = "" <;> simp [he]
  | cons x rest ih =>
    rw [List.foldl_cons, ih]
    exact intercalate_joinMessages ..

end ScanError

/-- Every fault has something to say. -/
theorem Fault.message_ne_empty (f : Fault) : f.message ≠ "" := by
  unfold message
  split <;> simp [toString]

/-- The message of an open activation has the line and the column on which it was opened. -/
theorem Fault.message_unclosed (rule : String) (direction : Direction) (p : Point) :
    (unclosed rule direction p).message = s!"rule `{rule}` opened at {p.line}:{p.column} was never closed" := by
  unfold message Point.render
  simp [toString, String.append_assoc]

/-! ## The error of a scan -/

namespace Scan

variable {s : Scan} {failure : ScanFailure}

/-- A scan succeeds exactly if it has no fault. -/
theorem result_eq_ok_iff : (∃ tokens, s.result = .ok tokens) ↔ s.faults = [] := by
  unfold result error?
  cases s.faults <;> simp [ScanError.combine]

/-- The error of a failed scan is the combination of the errors of its faults. -/
theorem error_of_result (h : s.result = .error failure) :
    ∃ f rest, s.faults = f :: rest ∧ failure.error = (rest.map Fault.toError).foldl (· ++ ·) f.toError := by
  unfold result error? at h
  cases hf : s.faults with
  | nil => simp [hf, ScanError.combine] at h
  | cons f rest =>
    simp only [hf, List.map_cons, ScanError.combine, Except.error.injEq] at h
    exact ⟨f, rest, rfl, by rw [← h]⟩

/-- The message of a failed scan lists the messages of its faults. -/
theorem message_of_result (h : s.result = .error failure) :
    failure.error.message = "; ".intercalate (s.faults.map Fault.message) := by
  obtain ⟨f, rest, hf, he⟩ := error_of_result h
  have hall : (s.faults.map Fault.message).filter (· ≠ "") = s.faults.map Fault.message := by
    rw [List.filter_eq_self]
    intro m hm
    obtain ⟨g, -, rfl⟩ := List.mem_map.1 hm
    simpa using g.message_ne_empty
  have hmap : (f.toError :: rest.map Fault.toError).map (·.message) = s.faults.map Fault.message := by
    rw [hf, List.map_cons, List.map_map]
    rfl
  rw [he, ScanError.message_foldl, hmap, hall]

/-- The location of a failed scan is the point of its first fault, if all faults have points. -/
theorem location_of_result (h : s.result = .error failure) {points : List Point}
    (hp : s.faults.map Fault.point? = points.map some) : failure.error.location = points.head?.map Location.point := by
  obtain ⟨f, rest, hf, he⟩ := error_of_result h
  rw [hf, List.map_cons, eq_comm, List.map_eq_cons_iff] at hp
  obtain ⟨p, points', rfl, hpoint, -⟩ := hp
  rw [he]
  exact ScanError.location_foldl (congrArg (Option.map Location.point) hpoint.symm) _

/-- The bits of the code of a failed scan are those of the conditions of its faults. -/
theorem testBit_code (h : s.result = .error failure) (i : Nat) :
    failure.error.code.bits.toNat.testBit i = s.faults.any fun f => (FlagSet.single f.condition).bits.toNat.testBit i := by
  obtain ⟨f, rest, hf, he⟩ := error_of_result h
  rw [he, ScanError.code_foldl, FlagSet.testBit_foldl_union, hf]
  simp [Fault.toError, Function.comp_def]

/-- An open activation falls under the condition of its direction. -/
theorem any_unclosed (p : Condition → Bool) (as : List Activation) :
    ((as.map unclosed).any fun f => p f.condition) =
      (decide (∃ a ∈ as, a.rule.direction = .right) && p .unterminatedRight ||
        decide (∃ a ∈ as, a.rule.direction = .left) && p .unterminatedLeft) := by
  induction as with
  | nil => simp
  | cons a as ih =>
    rw [List.map_cons, List.any_cons, ih, unclosed]
    cases hd : a.rule.direction <;> cases hr : p .unterminatedRight <;> cases hl : p .unterminatedLeft <;>
      simp [Fault.condition, hd, hr, hl]

/-- The code of a failed scan has a condition for the cut and one for each direction of an open activation, and nothing else. -/
theorem code_of_result (hc : ∀ f ∈ s.cutOff, f.condition = .stepLimit) (h : s.result = .error failure) :
    failure.error.code =
      (if s.cutOff.isSome then .single .stepLimit else ∅) ∪
      ((if ∃ a ∈ s.openActivations, a.rule.direction = .right then .single .unterminatedRight else ∅) ∪
      (if ∃ a ∈ s.openActivations, a.rule.direction = .left then .single .unterminatedLeft else ∅)) := by
  refine FlagSet.ext_testBit fun i => ?_
  rw [testBit_code h, FlagSet.testBit_union, FlagSet.testBit_union, FlagSet.testBit_ite_empty, FlagSet.testBit_ite_empty,
    FlagSet.testBit_ite_empty, faults, List.any_append,
    any_unclosed fun c => (FlagSet.single c).bits.toNat.testBit i]
  congr 1
  cases hcut : s.cutOff with
  | none => simp
  | some f => simp [hc f hcut]

end Scan

/-! ## What is left at the end of a scan -/

/-- An activation that opens remembers where. -/
theorem Activation.origin_opening (rule : Rule) (p : Point) (seq : Nat) : (opening rule p seq).origin = p := by
  cases h : rule.direction <;> simp [opening, origin, Location.startingAt, Location.endingAt, h]

/-- The origin of an activation that is still open is the point of the step on which it was opened. -/
theorem Ledger.origin_eq {made : Nat → Step} {k bound : Nat} {now : List Activation} {stack : Stack} {bases : List Stack}
    {records : List Record} (hl : Ledger made k bound now stack bases records) {r : Record} (hr : r ∈ records)
    (hopen : r.closedAt = none) : r.activation.origin = (made r.openedAt).point := by
  have hloc := hl.located r hr
  rw [Record.Located, hopen] at hloc
  rw [hloc, Activation.origin_opening]

/-- The scan of the text has made all its steps and stands, at index `i` and point `p`, before one more. -/
def Tokenizer.RunsOutAt (t : Tokenizer) (text : Text) (i : Nat) (p : Point) : Prop :=
  ∃ c r, t.StandsBefore text (t.config.budget text.length) c r ∧ r.state.cursor.index = i ∧ r.state.cursor.point = p

/-- A scan is cut off exactly if it runs out of steps, and where it does. -/
theorem Tokenizer.cutOff_eq_some_iff (t : Tokenizer) (text : Text) (f : Fault) :
    (t.tokenize text).last.cutOff = some f ↔
      ∃ i p, t.RunsOutAt text i p ∧ f = .stepLimit (t.config.budget text.length) i p := by
  obtain ⟨n, -, hn⟩ := Round.iterate_ofText t.registry t.trivia t.config text
  refine (Round.cutOff_eq_some_iff (Round.first_bounded t.config.memory text _) hn f).trans ?_
  constructor
  · rintro ⟨m, r, c, hm, hb, hc, hskips, hf⟩
    exact ⟨_, _, ⟨c, r, ⟨⟨m, hm⟩, hb, hc, hskips⟩, rfl, rfl⟩, hf⟩
  · rintro ⟨-, -, ⟨c, r, ⟨⟨m, hm⟩, hb, hc, hskips⟩, rfl, rfl⟩, hf⟩
    exact ⟨m, r, c, hm, hb, hc, hskips, hf⟩

/-- The index and the point at which a scan has run out of steps, if it has. -/
theorem Tokenizer.exists_cut (t : Tokenizer) (text : Text) :
    ∃ cut : Option (Nat × Point), (∀ i p, cut = some (i, p) ↔ t.RunsOutAt text i p) ∧
      (t.tokenize text).last.cutOff = cut.map fun (i, p) => .stepLimit (t.config.budget text.length) i p := by
  cases hc : (t.tokenize text).last.cutOff with
  | none =>
    refine ⟨none, fun i p => ?_, rfl⟩
    constructor
    · intro h
      cases h
    · intro h
      have hsome := (t.cutOff_eq_some_iff text _).2 ⟨i, p, h, rfl⟩
      rw [hc] at hsome
      cases hsome
  | some f =>
    obtain ⟨i, p, hout, rfl⟩ := (t.cutOff_eq_some_iff text f).1 hc
    refine ⟨some (i, p), fun i' p' => ?_, rfl⟩
    constructor
    · rintro ⟨⟩
      exact hout
    · intro h
      have hsome := (t.cutOff_eq_some_iff text _).2 ⟨i', p', h, rfl⟩
      rw [hc] at hsome
      cases hsome
      rfl

/-- The point of the character on which the activation of the record was opened. -/
def Scan.originOf (s : Scan) (r : Record) : Point := (s.steps.toList.getD r.openedAt default).point

/-- The outcome of a scan is decided by what is left open and by the budget, whatever the rules, the treatment of blanks and
comments, the configuration and the text are. The scan succeeds exactly if no activation is open and it has not run out of steps.
Otherwise the code has a condition for the step limit and one for each direction of an open activation, and nothing else; the
message is that of the step limit, followed by one for each open activation, bottom first, with its rule and the line and column
on which it was opened; and the error stands where the steps ran out, or else where the bottommost activation was opened. -/
theorem tokenize_outcome (t : Tokenizer) (text : Text) :
    let budget := t.config.maxSteps.getD (64 * text.length + 64)
    let s := (t.tokenize text).last
    let unclosed := s.history.toList.filter (·.closedAt.isNone)
    s.openActivations = unclosed.map (·.activation) ∧
    (∀ r ∈ unclosed, ∃ step, s.steps[r.openedAt]? = some step ∧ s.originOf r = step.point) ∧
    ∃ cut : Option (Nat × Point), (∀ i p, cut = some (i, p) ↔ t.RunsOutAt text i p) ∧
      ((∃ tokens, s.result = .ok tokens) ↔ s.openActivations = [] ∧ cut = none) ∧
      ∀ failure, s.result = .error failure →
        failure.error.code =
          (if cut.isSome then .single .stepLimit else ∅) ∪
          ((if ∃ a ∈ s.openActivations, a.rule.direction = .right then .single .unterminatedRight else ∅) ∪
          (if ∃ a ∈ s.openActivations, a.rule.direction = .left then .single .unterminatedLeft else ∅)) ∧
        failure.error.message = "; ".intercalate
          ((cut.toList.map fun (i, _) => s!"scan stopped after {budget} steps at index {i}") ++
          unclosed.map fun r =>
            let p := s.originOf r
            s!"rule `{r.activation.rule.name}` opened at {p.line}:{p.column} was never closed") ∧
        failure.error.location = ((cut.map (·.2)).or (unclosed.head?.map s.originOf)).map Location.point := by
  intro budget s unclosed
  have h : s.Replays := Scan.ofText_replays ..
  have hopen : s.openActivations = unclosed.map (·.activation) := h.ledger.items
  have horigin : ∀ r ∈ unclosed, r.activation.origin = s.originOf r := by
    intro r hr
    obtain ⟨hmem, hnone⟩ := List.mem_filter.1 hr
    exact h.ledger.origin_eq hmem (Option.isNone_iff_eq_none.1 hnone)
  obtain ⟨cut, hcut, hcutOff⟩ := t.exists_cut text
  have hcond : ∀ f ∈ s.cutOff, f.condition = .stepLimit := by
    intro f hf
    obtain ⟨i, p, -, rfl⟩ := (t.cutOff_eq_some_iff text f).1 hf
    rfl
  have hfaults : s.faults = (cut.toList.map fun (i, p) => .stepLimit budget i p) ++
      unclosed.map fun r => .unclosed r.activation.rule.name r.activation.rule.direction (s.originOf r) := by
    rw [Scan.faults, hcutOff, hopen, List.map_map]
    congr 1
    · cases cut <;> rfl
    · refine List.map_congr_left fun r hr => ?_
      rw [← horigin r hr]
      rfl
  refine ⟨hopen, ?_, cut, hcut, ?_, ?_⟩
  · intro r hr
    have hlt := h.ledger.openedAt r (List.mem_filter.1 hr).1
    have hstep := Array.getElem?_eq_getElem hlt
    exact ⟨_, hstep, congrArg Step.point (Scan.getD_steps hstep).2⟩
  · rw [Scan.result_eq_ok_iff, Scan.faults, hcutOff]
    cases cut <;> simp
  · intro failure hf
    refine ⟨?_, ?_, ?_⟩
    · rw [Scan.code_of_result hcond hf, hcutOff, Option.isSome_map]
    · rw [Scan.message_of_result hf, hfaults, List.map_append, List.map_map, List.map_map]
      congr 2
      exact List.map_congr_left fun r _ => Fault.message_unclosed ..
    · have hpoints : s.faults.map Fault.point? = ((cut.map (·.2)).toList ++ unclosed.map s.originOf).map some := by
        rw [hfaults]
        cases cut <;> simp [Function.comp_def, Fault.point?]
      rw [Scan.location_of_result hf hpoints, List.head?_append, List.head?_map]
      cases cut <;> rfl

/-- A tokenizer with a rule for each direction. It may make two steps. -/
def twoWays : Tokenizer where
  registry := { rules := [{ name := "forth", symbol := "(", terminator := ")" },
    { name := "back", symbol := "<", terminator := ">", direction := .left }] }
  config := { maxSteps := some 2 }

/-- The scan of this text opens one rule on each character, the second of which sends it back to the first. There it has no step
left, and both activations are open. -/
theorem tokenize_outcome_turned :
    ∃ failure, (twoWays.tokenize ['(', '<']).last.result = .error failure ∧
      failure.error.code = .single .stepLimit ∪ (.single .unterminatedRight ∪ .single .unterminatedLeft) ∧
      failure.error.message = "scan stopped after 2 steps at index 0; rule `forth` opened at 1:1 was never closed; " ++
        "rule `back` opened at 1:2 was never closed" ∧
      failure.error.location = some (.point ⟨1, 1⟩) := by
  obtain ⟨-, -, cut, hcut, hok, hfailure⟩ := tokenize_outcome twoWays ['(', '<']
  have hout : cut = some (0, ⟨1, 1⟩) := (hcut 0 ⟨1, 1⟩).2
    ⟨'(', _, ⟨⟨2, rfl⟩, rfl, rfl, by rintro ⟨start, hstart, -⟩; cases hstart⟩, rfl, rfl⟩
  subst hout
  rcases hr : (twoWays.tokenize ['(', '<']).last.result with failure | tokens
  · obtain ⟨hcode, hmessage, hlocation⟩ := hfailure failure hr
    refine ⟨failure, rfl, hcode.trans ?_, hmessage.trans ?_, hlocation⟩
    · decide +kernel
    · decide +kernel
  · cases (hok.1 ⟨tokens, hr⟩).2

end RuleScanner
