import RuleScanner.Proofs.Coordinates
import RuleScanner.Proofs.Emission

/-!
# Valid locations

An activation takes its location from where the scan is when it opens and when it closes, and which of the two is the start is
up to its rule. So its location is valid exactly if the scan has closed it on the side to which its rule goes. This is not
always so: the scan goes where the rule opened last has sent it, and on the way it closes also what was opened by rules that go
the other way (`tokenize_location_not_valid`).
-/

namespace RuleScanner

/-- The span between two points is valid exactly if they come in the order of the rule's direction. -/
theorem Rule.span_isValid_iff (rule : Rule) (opened closed : Point) :
    (rule.span opened closed).IsValid ↔
      match rule.direction with
      | .right => opened ≤ closed
      | .left => closed ≤ opened := by
  unfold span Location.IsValid
  cases rule.direction <;> rfl

/-- The location of a closed activation is valid exactly if the scan was not before the point of the opening, as the rule goes,
when it closed the activation. With a column for every line, in a text that is short enough, this is a matter of the two
indices alone. -/
theorem tokenize_location_isValid_iff (t : Tokenizer) (text : Text) (r : Record) (hr : r ∈ (t.tokenize text).last.history)
    (n : Nat) (hn : r.closedAt = some n) :
    ∃ opened closed : Step,
      (t.tokenize text).last.steps[r.openedAt]? = some opened ∧ (t.tokenize text).last.steps[n]? = some closed ∧
      (r.activation.location.IsValid ↔
        match r.activation.rule.direction with
        | .right => opened.point ≤ closed.point
        | .left => closed.point ≤ opened.point) ∧
      (t.config.memory = .everyLine → text.length < UInt32.size - 1 →
        (r.activation.location.IsValid ↔
          match r.activation.rule.direction with
          | .right => opened.index ≤ closed.index
          | .left => closed.index ≤ opened.index)) := by
  have h : (t.tokenize text).last.Replays := Scan.ofText_replays ..
  obtain ⟨opened, closed, hopened, hclosed, hloc⟩ := h.location_eq hr hn
  have hiff := r.activation.rule.span_isValid_iff opened.point closed.point
  rw [← hloc] at hiff
  refine ⟨opened, closed, hopened, hclosed, hiff, ?_⟩
  intro hm hlen
  have hexact := Scan.ofText_exact t.registry t.trivia t.config text hm hlen
  obtain ⟨hoc, hop⟩ := hexact opened (Array.mem_of_getElem? hopened)
  obtain ⟨hcc, hcp⟩ := hexact closed (Array.mem_of_getElem? hclosed)
  have ho : opened.index + 1 ≤ text.length := (List.getElem?_eq_some_iff.1 hoc).1
  have hc : closed.index + 1 ≤ text.length := (List.getElem?_eq_some_iff.1 hcc).1
  rw [hiff, hop, hcp, Text.pointAfter_le_iff hlen ho hc, Text.pointAfter_le_iff hlen hc ho, Nat.add_le_add_iff_right,
    Nat.add_le_add_iff_right]

/-- Two rules that go opposite ways between the same characters. -/
def oppositeRules : List Rule :=
  [{ name := "forth", symbol := "a", terminator := "x" },
   { name := "back", symbol := "a", terminator := "x", direction := .left }]

/-- A tokenizer with two rules that go opposite ways. -/
def opposite : Tokenizer where
  registry := { rules := oppositeRules }

/-- The scan of this text opens both rules on its last character and closes both on its first. The rule that goes left, opened
last, has a valid location. -/
theorem tokenize_location_isValid_back :
    ∃ r ∈ (opposite.tokenize ['x', 'a']).last.history, r.activation.rule.name = "back" ∧ r.closedAt = some 2 ∧
      r.activation.location.IsValid := by
  have hback : (opposite.tokenize ['x', 'a']).last.history[1]?.map
      (fun r => (r.activation.rule.name, r.activation.rule.direction, r.openedAt, r.closedAt)) =
        some ("back", .left, 1, some 2) := by decide +kernel
  obtain ⟨r, hr, he⟩ := Option.map_eq_some_iff.1 hback
  simp only [Prod.mk.injEq] at he
  obtain ⟨hname, hdirection, hopenedAt, hclosedAt⟩ := he
  have hmem := Array.mem_of_getElem? hr
  obtain ⟨opened, closed, hopened, hclosed, -, hiff⟩ :=
    tokenize_location_isValid_iff opposite ['x', 'a'] r hmem 2 hclosedAt
  have ho : (opposite.tokenize ['x', 'a']).last.steps[1]?.map (·.index) = some 1 := by decide +kernel
  have hc : (opposite.tokenize ['x', 'a']).last.steps[2]?.map (·.index) = some 0 := by decide +kernel
  rw [hopenedAt] at hopened
  simp only [hopened, hclosed, Option.map_some, Option.some.injEq] at ho hc
  refine ⟨r, hmem, hname, hclosedAt, (hiff rfl (by decide)).2 ?_⟩
  rw [hdirection, ho, hc]
  exact Nat.zero_le 1

/-- Not every closed activation has a valid location: the rule that goes right, which the registry has accepted, was opened on
the last character of this text and closed on the first. -/
theorem tokenize_location_not_valid :
    Tokenizer.registerAll {} oppositeRules = .ok opposite ∧
    ∃ r ∈ (opposite.tokenize ['x', 'a']).last.history, r.activation.rule.name = "forth" ∧ r.closedAt = some 2 ∧
      ¬ r.activation.location.IsValid := by
  refine ⟨rfl, ?_⟩
  have hforth : (opposite.tokenize ['x', 'a']).last.history[0]?.map
      (fun r => (r.activation.rule.name, r.closedAt, decide r.activation.location.IsValid)) =
        some ("forth", some 2, false) := by decide +kernel
  obtain ⟨r, hr, he⟩ := Option.map_eq_some_iff.1 hforth
  simp only [Prod.mk.injEq, decide_eq_false_iff_not] at he
  exact ⟨r, Array.mem_of_getElem? hr, he⟩

end RuleScanner
