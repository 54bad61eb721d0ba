import Mathlib.Data.List.TakeWhile
import RuleScanner.Proofs.Emission
import RuleScanner.Proofs.Moves
import RuleScanner.Proofs.Sweep

/-!
# A single rule

What a scan with one rule finds can be said without a stack. Let the rule open on the character `a` and close on `b`, with no
matcher. If it goes right and `a` is `b`, the places of the character are taken in pairs; if `a` is not `b`, each `b` closes all that
was opened since the `b` before it, the latest first. If it goes left, the first `a` sends the scan back to the last `b` before it.

The proof has two layers. One step does to the places of what is open and to the tokens what `ScanState.Holds.visit` says, and no
more of a state is looked at. So a scan to the right keeps two lists, of the places that are open and of the spans that were closed
(`Text.pending`, `Text.closedSpans`). What these two come to is then a matter of lists of numbers (`Text.closedSpans_of_eq`,
`Text.closedSpans_of_ne`).
-/

namespace RuleScanner

/-! ## The outcome of a scan that is not cut off -/

/-- A closed activation spans the point at which it was opened and the one at which it is closed. -/
theorem Activation.location_closeAt (x : Activation) (p : Point) : (x.closeAt p).location = x.rule.span x.origin p := by
  cases h : x.rule.direction <;> simp [closeAt, origin, Rule.span, h]

namespace Scan

variable {s : Scan} {tokens : List Token}

/-- The scan has failed under the condition `c` alone, at the point `p`, with the tokens that it had found. -/
def FailsWith (s : Scan) (c : Condition) (p : Point) (tokens : List Token) : Prop :=
  ∃ failure, s.result = .error failure ∧ failure.tokens = tokens ∧ failure.error.code = .single c ∧
    failure.error.location = some (.point p)

theorem result_of_items_eq_nil (hcut : s.cutOff = none) (hitems : s.stack.items = []) : s.result = .ok s.tokens := by
  simp [result, error?, faults, openActivations, Stack.toList, hcut, hitems, ScanError.combine]

/-- A scan that has left activations of one rule open fails at the place of the bottommost. -/
theorem failsWith_of_open {rule : Rule} {p : Point} (hcut : s.cutOff = none) (hrules : ∀ x ∈ s.stack.items, x.rule = rule)
    (hlast : (s.stack.items.map (·.origin)).getLast? = some p) :
    s.FailsWith (Fault.unclosed rule.name rule.direction p).condition p s.tokens := by
  have hopen : ∀ x ∈ s.openActivations, x.rule = rule := by
    intro x hx
    exact hrules x (List.mem_reverse.1 hx)
  have hfirst : (s.openActivations.map (·.origin)).head? = some p := by
    rw [openActivations, Stack.toList, List.map_reverse, List.head?_reverse, hlast]
  have hfaults : s.faults = s.openActivations.map unclosed := by simp [faults, hcut]
  obtain ⟨x, hx⟩ : ∃ x, x ∈ s.openActivations := by
    cases h : s.openActivations with
    | nil => simp [h] at hfirst
    | cons x rest => exact ⟨x, List.mem_cons_self⟩
  rcases hr : s.result with failure | found
  · have hpoints : s.faults.map Fault.point? = (s.openActivations.map (·.origin)).map some := by
      rw [hfaults, List.map_map, List.map_map]
      rfl
    have hlocation := location_of_result hr hpoints
    rw [hfirst] at hlocation
    have htokens : failure.tokens = s.tokens := by
      have h := s.result_tokens
      rwa [hr] at h
    refine ⟨failure, hr, htokens, ?_, hlocation⟩
    rw [code_of_result (by simp [hcut]) hr, hcut]
    have hsome : ∀ d, (∃ x ∈ s.openActivations, x.rule.direction = d) ↔ rule.direction = d := by
      intro d
      constructor
      · rintro ⟨y, hy, rfl⟩
        rw [hopen y hy]
      · rintro rfl
        exact ⟨x, hx, by rw [hopen x hx]⟩
    cases hd : rule.direction with
    | left =>
      have hright : ¬ ∃ x ∈ s.openActivations, x.rule.direction = .right := by
        rw [hsome, hd]
        simp
      rw [if_pos ((hsome .left).2 hd), if_neg hright]
      show _ = FlagSet.single Condition.unterminatedLeft
      rfl
    | right =>
      have hleft : ¬ ∃ x ∈ s.openActivations, x.rule.direction = .left := by
        rw [hsome, hd]
        simp
      rw [if_pos ((hsome .right).2 hd), if_neg hleft]
      show _ = FlagSet.single Condition.unterminatedRight
      rfl
  · have hnone := result_eq_ok_iff.1 ⟨found, hr⟩
    rw [hfaults, List.map_eq_nil_iff] at hnone
    rw [hnone] at hx
    cases hx

end Scan

/-! ## One step with one rule -/

/-- All that is open are activations of the rule, which were opened at the points `marks`, the latest first, and the steps have
found the tokens. -/
structure ScanState.Holds (rule : Rule) (marks : List Point) (tokens : List Token) (s : ScanState) : Prop where
  rules : ∀ x ∈ s.stack.items, x.rule = rule
  marks : s.stack.items.map (·.origin) = marks
  tokens : s.steps.toList.flatMap Step.tokens = tokens

namespace Scan

variable {tokens : List Token}

/-- The outcome of a scan that ends in a state in which activations of the rule are open: it fails at the bottommost, if there are
any. -/
theorem outcome_of_holds {rule : Rule} {marks : List Point} {s : ScanState} (h : s.Holds rule marks tokens) :
    let scan : Scan := { steps := s.steps, stack := s.stack }
    scan.tokens = tokens ∧ (marks = [] → scan.result = .ok tokens) ∧
      ∀ p, marks.getLast? = some p → scan.FailsWith (Fault.unclosed rule.name rule.direction p).condition p tokens := by
  intro scan
  obtain ⟨hrules, rfl, rfl⟩ := h
  refine ⟨rfl, ?_, ?_⟩
  · intro hnil
    exact result_of_items_eq_nil rfl (List.map_eq_nil_iff.1 hnil)
  · intro p hlast
    exact failsWith_of_open rfl hrules hlast

end Scan

section

variable {rule : Rule} {a b : Char} (hm : rule.matcher = none) (ha : rule.trigger = some a) (hb : rule.terminatorChar = some b)

/-- The rule alone. -/
def Registry.only (rule : Rule) : Registry := { rules := [rule] }

include hb in
/-- The character `b` closes all activations of the rule, and no other character closes any. -/
theorem Stack.closing_of_rule {stack : Stack} (hrules : ∀ x ∈ stack.items, x.rule = rule) (c : Char) (p : Point) :
    stack.closing c p = (if c = b then stack.items.map (·.closeAt p) else []) ∧
      (stack.close c).items = if c = b then [] else stack.items := by
  have hcloses : ∀ x ∈ stack.items, x.closesOn c = decide (c = b) := by
    intro x hx
    rw [Activation.closesOn, hrules x hx, hb, Bool.eq_iff_iff, beq_iff_eq, decide_eq_true_eq, Option.some.injEq]
    exact eq_comm
  unfold Stack.closing Stack.close
  by_cases hc : c = b
  · have hall : ∀ x ∈ stack.items, x.closesOn c = true := by
      intro x hx
      rw [hcloses x hx, decide_eq_true hc]
    rw [if_pos hc, if_pos hc]
    exact ⟨by rw [List.takeWhile_eq_self_iff.2 hall], List.dropWhile_eq_nil_iff.2 hall⟩
  · cases hitems : stack.items with
    | nil => simp
    | cons x rest =>
      have hx : x.closesOn c = false := by simp [hcloses x (by simp [hitems]), hc]
      simp [hx, hc]

include hm ha in
/-- The rule opens on the character `a`, unless an activation of it has just closed. -/
theorem Scan.opening_of_rule {closed : List Activation} (hrules : ∀ x ∈ closed, x.rule = rule) (c : Char) (i : Nat) (text : Text) :
    opening (.only rule) closed c i text = if c = a ∧ closed = [] then [rule] else [] := by
  have haccepts : rule.accepts c i text = decide (c = a) := by
    rw [Rule.accepts, hm, ha, Option.all_none, Option.all_some, Bool.and_true, Bool.eq_iff_iff, beq_iff_eq, decide_eq_true_eq]
    exact eq_comm
  have hclosed : closed.any (·.rule.name == rule.name) = !closed.isEmpty := by
    cases closed with
    | nil => rfl
    | cons x rest => simp [hrules x List.mem_cons_self]
  unfold opening Registry.candidates Registry.only
  rw [List.filter_cons, haccepts]
  by_cases hc : c = a
  · by_cases hnil : closed = [] <;> simp [hc, hnil, hclosed]
  · simp [hc]

include hb in
/-- A step on the character `b` yields the tokens of all that is open, and no other step yields any. -/
theorem Scan.tokens_step_of_rule {stack : Stack} (hrules : ∀ x ∈ stack.items, x.rule = rule) (registry : Registry) (text : Text)
    (c : Char) (k : Cursor) :
    (step registry .none text [] c k stack).1.tokens =
      if c = b then (stack.items.map (·.origin)).map fun p => rule.labels.token rule.name (rule.span p k.point) else [] := by
  have hblank : (step registry .none text [] c k stack).1.blank = none := by simp [step, Trivia.none]
  show (step registry .none text [] c k stack).1.blank.toList ++ (stack.closing c k.point).map Activation.token = _
  rw [hblank, (Stack.closing_of_rule hb hrules c k.point).1]
  by_cases hc : c = b
  · simp only [hc, if_true, List.map_map, Option.toList_none, List.nil_append]
    refine List.map_congr_left fun x hx => ?_
    simp only [Function.comp_apply, Activation.token, Activation.closeAt_rule, Activation.location_closeAt, hrules x hx]
  · simp [hc]

include hm ha hb in
/-- A step on the character `a` that closes nothing opens an activation, and turns to the direction of the rule. -/
theorem Scan.stack_step_of_rule {stack : Stack} (hrules : ∀ x ∈ stack.items, x.rule = rule) (text : Text) (c : Char) (k : Cursor) :
    (step (.only rule) .none text [] c k stack).2.1.items =
        (if c = a ∧ (c = b → stack.items = []) then [(stack.close c).next rule k.point] else []) ++ (stack.close c).items ∧
      (step (.only rule) .none text [] c k stack).2.2 =
        if c = a ∧ (c = b → stack.items = []) then rule.direction else k.direction := by
  have hclosing := (Stack.closing_of_rule hb hrules c k.point).1
  have hclosed : ∀ x ∈ stack.closing c k.point, x.rule = rule := by
    intro x hx
    rw [hclosing] at hx
    split at hx
    · obtain ⟨y, hy, rfl⟩ := List.mem_map.1 hx
      rw [Activation.closeAt_rule, hrules y hy]
    · cases hx
  have hnone : stack.closing c k.point = [] ↔ (c = b → stack.items = []) := by
    rw [hclosing]
    by_cases hc : c = b <;> simp [hc]
  have hopening := (opening_of_rule hm ha hclosed c k.index text).trans (if_congr (and_congr_right fun _ => hnone) rfl rfl)
  have hstack : (step (.only rule) .none text [] c k stack).2.1 =
      (openAll k.point (opening (.only rule) (stack.closing c k.point) c k.index text) (stack.close c)).2 := rfl
  have hturn : (step (.only rule) .none text [] c k stack).2.2 =
      (((openAll k.point (opening (.only rule) (stack.closing c k.point) c k.index text)
        (stack.close c)).1.getLast?.map (·.rule.direction)).getD k.direction) := rfl
  rw [hstack, hturn, hopening]
  by_cases hopens : c = a ∧ (c = b → stack.items = [])
  · simp only [if_pos hopens]
    exact ⟨rfl, rfl⟩
  · simp only [if_neg hopens]
    exact ⟨rfl, rfl⟩

include hm ha hb in
/-- What one step does, where all that is open are activations of the rule. On the character `b` it closes all of them, the latest
first. On the character `a` it opens another one, and turns to the direction of the rule, unless it has closed any. -/
theorem ScanState.Holds.visit {marks : List Point} {tokens : List Token} {s : ScanState} (h : s.Holds rule marks tokens)
    (text : Text) (c : Char) (k : Cursor) :
    (s.visit (.only rule) .none text [] c k).Holds rule
        ((if c = a ∧ (c = b → marks = []) then [k.point] else []) ++ if c = b then [] else marks)
        (tokens ++ if c = b then marks.map fun p => rule.labels.token rule.name (rule.span p k.point) else []) ∧
      (s.visit (.only rule) .none text [] c k).cursor.direction =
        if c = a ∧ (c = b → marks = []) then rule.direction else k.direction := by
  obtain ⟨hrules, rfl, htokens⟩ := h
  obtain ⟨hitems, hturn⟩ := Scan.stack_step_of_rule hm ha hb hrules text c k
  have hclose := (Stack.closing_of_rule hb hrules c k.point).2
  simp only [List.map_eq_nil_iff]
  refine ⟨⟨?_, ?_, ?_⟩, hturn⟩
  · intro x hx
    have hx : x ∈ (Scan.step (.only rule) .none text [] c k s.stack).2.1.items := hx
    rw [hitems, hclose] at hx
    rcases List.mem_append.1 hx with hx | hx
    · split at hx
      · rw [List.mem_singleton.1 hx]
        rfl
      · cases hx
    · split at hx
      · cases hx
      · exact hrules x hx
  · show (Scan.step (.only rule) .none text [] c k s.stack).2.1.items.map (·.origin) = _
    rw [hitems, hclose, List.map_append]
    congr 1
    · split
      · exact congrArg ([·]) (Activation.origin_opening ..)
      · rfl
    · split <;> rfl
  · rw [ScanState.toList_steps_visit, List.flatMap_append, htokens, List.flatMap_singleton,
      Scan.tokens_step_of_rule hb hrules]

end

/-! ## A scan to the right -/

namespace Text

/-- The span from one character of the text to another. -/
def between (text : Text) (i j : Nat) : Location := ⟨text.pointAfter (i + 1), text.pointAfter (j + 1)⟩

/-- The places of what is open after the first `n` characters, the latest first: `a` opens one more, unless it has just closed some,
and `b` closes all. -/
def pending (text : Text) (a b : Char) : Nat → List Nat
  | 0 => []
  | n + 1 =>
    (if text[n]? = some a ∧ (text[n]? = some b → text.pending a b n = []) then [n] else []) ++
      if text[n]? = some b then [] else text.pending a b n

/-- Where what was closed on the first `n` characters was opened and closed, in the order of the closings. -/
def closedSpans (text : Text) (a b : Char) : Nat → List (Nat × Nat)
  | 0 => []
  | n + 1 => text.closedSpans a b n ++ if text[n]? = some b then (text.pending a b n).map (·, n) else []

end Text

namespace Scan

variable {rule : Rule} {a b : Char} (hm : rule.matcher = none) (ha : rule.trigger = some a) (hb : rule.terminatorChar = some b)
  {text : Text} {n : Nat}

/-- A sweep has an exact cursor. -/
theorem exact_sweep {registry : Registry} (hn : n ≤ text.length)
    (hright : ∀ i ≤ n, (sweep registry .everyLine text i).cursor.direction = .right) :
    (sweep registry .everyLine text n).cursor.Exact text := by
  induction n with
  | zero => exact Cursor.exact_enter text
  | succ n ih =>
    have hexact := ih (Nat.le_of_lt hn) fun i hi => hright i (Nat.le_succ_of_le hi)
    have hd := hright (n + 1) (Nat.le_refl _)
    rw [sweep_succ (List.getElem?_eq_getElem hn), ScanState.pass, ScanState.move] at hd ⊢
    rw [Cursor.advance_direction] at hd
    show Cursor.Exact text (Cursor.advance _ text).2
    rw [Cursor.advance, hd]
    exact Cursor.Exact.moveRight ⟨hexact.point, hexact.columns⟩

include hm ha hb in
/-- A sweep with a rule that goes right keeps the places of what is open, and has found the tokens of the spans that were closed. -/
theorem holds_sweep (hd : rule.direction = .right) (hn : n ≤ text.length) :
    (sweep (.only rule) .everyLine text n).Holds rule ((text.pending a b n).map fun i => text.pointAfter (i + 1))
      ((text.closedSpans a b n).map fun (i, j) => rule.labels.token rule.name (text.between i j)) := by
  induction n with
  | zero => exact ⟨by simp [sweep, start], rfl, rfl⟩
  | succ n ih =>
    have hc := List.getElem?_eq_getElem hn
    have hright : ∀ i ≤ n, (sweep (.only rule) .everyLine text i).cursor.direction = .right := fun i hi =>
      direction_sweep (by simp [Registry.only, hd]) (Nat.le_trans hi (Nat.le_of_lt hn))
    have hpoint := (exact_sweep (Nat.le_of_lt hn) hright).point
    rw [index_sweep (Nat.le_of_lt hn) hright] at hpoint
    obtain ⟨hrules, hmarks, htokens⟩ :=
      ((ih (Nat.le_of_lt hn)).visit hm ha hb text text[n] (sweep (.only rule) .everyLine text n).cursor).1
    rw [sweep_succ hc]
    refine ⟨hrules, hmarks.trans ?_, htokens.trans ?_⟩
    · simp only [Text.pending, hc, Option.some.injEq, List.map_append, List.map_eq_nil_iff, hpoint]
      congr 1
      · split <;> simp
      · split <;> simp
    · simp only [Text.closedSpans, hc, Option.some.injEq, List.map_append, hpoint]
      congr 1
      split
      · simp [Rule.span, hd, Text.between, Function.comp_def]
      · rfl

include hm ha hb in
/-- A rule that goes right fails at the bottommost of the places that are open at the end of the text, if there are any. -/
theorem outcome_of_right (hd : rule.direction = .right) (text : Text) :
    (ofText (.only rule) .none {} text).tokens =
        (text.closedSpans a b text.length).map (fun (i, j) => rule.labels.token rule.name (text.between i j)) ∧
      match (text.pending a b text.length).getLast? with
      | none => (ofText (.only rule) .none {} text).result = .ok (ofText (.only rule) .none {} text).tokens
      | some q => (ofText (.only rule) .none {} text).FailsWith .unterminatedRight (text.pointAfter (q + 1))
          (ofText (.only rule) .none {} text).tokens := by
  have hscan : ofText (.only rule) .none {} text = _ := ofText_sweep fun n hn => direction_sweep (by simp [Registry.only, hd]) hn
  obtain ⟨htokens, hok, hfails⟩ := outcome_of_holds (holds_sweep hm ha hb hd (Nat.le_refl text.length))
  rw [hscan, htokens]
  refine ⟨rfl, ?_⟩
  cases hlast : (text.pending a b text.length).getLast? with
  | none => exact hok (by rw [List.getLast?_eq_none_iff.1 hlast]; rfl)
  | some q =>
    rw [hd] at hfails
    exact hfails _ (by rw [List.getLast?_map, hlast]; rfl)

end Scan

/-! ## Places in pairs -/

/-- The numbers of a list, two by two. -/
def inPairs : List Nat → List (Nat × Nat)
  | i :: j :: rest => (i, j) :: inPairs rest
  | _ => []

/-- The number that is left over if the numbers of a list are taken two by two. -/
def leftOver : List Nat → List Nat
  | _ :: _ :: rest => leftOver rest
  | rest => rest

theorem inPairs_concat (l : List Nat) (n : Nat) : inPairs (l ++ [n]) = inPairs l ++ (leftOver l).map (·, n) := by
  fun_induction inPairs l with
  | case1 i j rest ih => simp [inPairs, leftOver, ih]
  | case2 l hl =>
    rcases l with _ | ⟨i, _ | ⟨j, rest⟩⟩
    · rfl
    · rfl
    · exact absurd rfl (hl i j rest)

theorem leftOver_concat (l : List Nat) (n : Nat) : leftOver (l ++ [n]) = if leftOver l = [] then [n] else [] := by
  fun_induction leftOver l with
  | case1 i j rest ih => simp [leftOver, ih]
  | case2 l hl =>
    rcases l with _ | ⟨i, _ | ⟨j, rest⟩⟩
    · rfl
    · rfl
    · exact absurd rfl (hl i j rest)

/-- Nothing is left over of an even number of numbers, and of an odd number the last is. -/
theorem leftOver_eq (l : List Nat) : leftOver l = if l.length % 2 = 0 then [] else l.getLast?.toList := by
  fun_induction leftOver l with
  | case1 i j rest ih =>
    rw [ih]
    have hlength : (i :: j :: rest).length % 2 = rest.length % 2 := by
      simp only [List.length_cons]
      omega
    rw [hlength]
    rcases rest with _ | ⟨k, rest⟩
    · rfl
    · simp
  | case2 l hl =>
    rcases l with _ | ⟨i, _ | ⟨j, rest⟩⟩
    · rfl
    · rfl
    · exact absurd rfl (hl i j rest)

namespace Text

/-- If one character opens and closes, its places are taken in pairs. -/
theorem closedSpans_of_eq (text : Text) (a : Char) (n : Nat) :
    text.pending a a n = leftOver (text.indicesOf a n) ∧ text.closedSpans a a n = inPairs (text.indicesOf a n) := by
  induction n with
  | zero => exact ⟨rfl, rfl⟩
  | succ n ih =>
    obtain ⟨hpending, hspans⟩ := ih
    rw [pending, closedSpans, indicesOf_succ, hpending, hspans]
    by_cases hc : text[n]? = some a
    · simp only [hc, forall_const, true_and, if_true, List.append_nil]
      exact ⟨(leftOver_concat ..).symm, (inPairs_concat ..).symm⟩
    · simp [hc]

theorem mem_indicesOf {text : Text} {c : Char} {n i : Nat} : i ∈ text.indicesOf c n ↔ i < n ∧ text[i]? = some c := by
  simp [indicesOf]

/-- The first of the indices. -/
theorem head?_indicesOf {text : Text} {c : Char} {n k : Nat} (h : (text.indicesOf c n).head? = some k) :
    text[k]? = some c ∧ ∀ i < k, text[i]? ≠ some c := by
  rw [indicesOf, List.head?_filter, List.find?_range_eq_some] at h
  obtain ⟨hk, -, hbefore⟩ := h
  exact ⟨of_decide_eq_true hk, fun i hi => by simpa using hbefore i hi⟩

/-- If two characters open and close, each of the latter closes what was opened since the one before it, the latest first, and what
was opened since the last one is open. -/
theorem closedSpans_of_ne (text : Text) {a b : Char} (hab : a ≠ b) (n : Nat) :
    text.pending a b n = ((text.indicesOf a n).filter fun q => ∀ p ∈ text.indicesOf b n, p < q).reverse ∧
      text.closedSpans a b n = (text.indicesOf b n).flatMap fun p =>
        ((text.indicesOf a n).filter fun q => q < p ∧ ∀ r ∈ text.indicesOf b n, r < p → r < q).reverse.map (·, p) := by
  induction n with
  | zero => exact ⟨rfl, rfl⟩
  | succ n ih =>
    obtain ⟨hpending, hspans⟩ := ih
    have hbelow : ∀ {c i}, i ∈ text.indicesOf c n → i < n := fun h => (mem_indicesOf.1 h).1
    rw [pending, closedSpans, indicesOf_succ, indicesOf_succ, hpending, hspans]
    by_cases hb : text[n]? = some b
    · -- All that is open is closed. No place of `a` is behind this one, and the earlier spans do not see it.
      have ha : text[n]? ≠ some a := by
        rw [hb]
        exact fun h => hab (Option.some.inj h).symm
      simp only [hb, Option.some.injEq, hab.symm, false_and, if_false, if_true, List.append_nil, List.flatMap_append,
        List.flatMap_singleton]
      refine ⟨?_, ?_⟩
      · rw [eq_comm, List.reverse_eq_nil_iff, List.filter_eq_nil_iff]
        intro q hq
        have := hbelow hq
        simp only [List.mem_append, List.mem_singleton, decide_eq_true_eq]
        intro hall
        have := hall n (Or.inr rfl)
        omega
      · congr 1
        · rw [List.flatMap_def, List.flatMap_def]
          congr 1
          refine List.map_congr_left fun p hp => ?_
          have hpn := hbelow hp
          congr 2
          refine List.filter_congr fun q hq => ?_
          rw [decide_eq_decide]
          constructor
          · rintro ⟨hqp, hall⟩
            refine ⟨hqp, fun r hr hrp => ?_⟩
            rcases List.mem_append.1 hr with hr | hr
            · exact hall r hr hrp
            · have := List.mem_singleton.1 hr
              omega
          · rintro ⟨hqp, hall⟩
            exact ⟨hqp, fun r hr hrp => hall r (List.mem_append_left _ hr) hrp⟩
        · congr 2
          refine List.filter_congr fun q hq => ?_
          have hqn := hbelow hq
          rw [decide_eq_decide]
          constructor
          · intro hall
            refine ⟨hqn, fun r hr hrn => ?_⟩
            rcases List.mem_append.1 hr with hr | hr
            · exact hall r hr
            · have := List.mem_singleton.1 hr
              omega
          · rintro ⟨-, hall⟩ p hp
            exact hall p (List.mem_append_left _ hp) (hbelow hp)
    · by_cases ha : text[n]? = some a
      · -- One more is open. It is behind all places of `b`, so that no span sees it.
        simp only [ha, Option.some.injEq, hab, if_false, if_true, List.append_nil, List.filter_append, List.reverse_append,
          false_implies, and_self]
        refine ⟨?_, ?_⟩
        · congr 1
          have hlast : ∀ p ∈ text.indicesOf b n, p < n := fun p hp => hbelow hp
          rw [List.filter_cons, if_pos (decide_eq_true hlast)]
          rfl
        · rw [List.flatMap_def, List.flatMap_def]
          congr 1
          refine List.map_congr_left fun p hp => ?_
          have hpn : ¬ n < p := Nat.not_lt_of_lt (hbelow hp)
          simp [hpn]
      · simp [ha, hb]

end Text

/-! ## A scan that turns back -/

namespace Scan

variable {rule : Rule} {a b : Char} (hm : rule.matcher = none) (ha : rule.trigger = some a) (hb : rule.terminatorChar = some b)
  {text : Text} {n : Nat}

include hm ha hb in
/-- A sweep opens nothing, and does not turn, before it meets the first `a`. -/
theorem holds_sweep_before (hn : n ≤ text.length) (hbefore : ∀ i < n, text[i]? ≠ some a) :
    (sweep (.only rule) .everyLine text n).Holds rule [] [] ∧
      (sweep (.only rule) .everyLine text n).cursor.direction = .right := by
  induction n with
  | zero => exact ⟨⟨by simp [sweep, start], rfl, rfl⟩, Cursor.enter_initial_direction ..⟩
  | succ n ih =>
    have hc := List.getElem?_eq_getElem hn
    have hne : text[n] ≠ a := fun h => hbefore n (Nat.lt_succ_self n) (hc.trans (congrArg some h))
    obtain ⟨hholds, hright⟩ := ih (Nat.le_of_lt hn) fun i hi => hbefore i (Nat.lt_succ_of_lt hi)
    obtain ⟨⟨hrules, hmarks, htokens⟩, hd⟩ :=
      hholds.visit hm ha hb text text[n] (sweep (.only rule) .everyLine text n).cursor
    simp only [hne, false_and, if_false, List.nil_append, List.map_nil, ite_self] at hmarks htokens hd
    rw [sweep_succ hc]
    refine ⟨⟨hrules, hmarks, htokens⟩, ?_⟩
    rw [ScanState.pass, ScanState.move, Cursor.advance_direction, hd, hright]

/-- A sweep has made its steps on the characters behind it. -/
theorem index_lt_of_mem_steps_sweep {registry : Registry} {memory : ColumnMemory} (hn : n ≤ text.length)
    (hright : ∀ i ≤ n, (sweep registry memory text i).cursor.direction = .right) :
    ∀ step ∈ (sweep registry memory text n).steps.toList, step.index < n := by
  induction n with
  | zero =>
    intro step hstep
    cases hstep
  | succ n ih =>
    intro step hstep
    have hbefore : ∀ i ≤ n, (sweep registry memory text i).cursor.direction = .right := fun i hi =>
      hright i (Nat.le_succ_of_le hi)
    rw [toList_steps_sweep_succ (List.getElem?_eq_getElem hn), List.mem_append, List.mem_singleton] at hstep
    rcases hstep with hstep | rfl
    · exact Nat.lt_succ_of_lt (ih (Nat.le_of_lt hn) hbefore step hstep)
    · show (sweep registry memory text n).cursor.index < n + 1
      rw [index_sweep (Nat.le_of_lt hn) hbefore]
      exact Nat.lt_succ_self n

include hm ha hb in
/-- A scan that has turned to the left goes on to the first character, if there is no `a` on its way. The nearest `b` closes all that
is open, and if there is none it stays open. -/
theorem run_back (hlen : text.length < UInt32.size - 1) {marks : List Point} {tokens : List Token} {v : ScanState} {left : Nat}
    (hexact : v.cursor.Exact text) (hleft : v.cursor.direction = .left) (hindex : v.cursor.index = n) (hn : n < text.length)
    (hbefore : ∀ i < n, text[i]? ≠ some a) (hbudget : n ≤ left) (hholds : v.Holds rule marks tokens) (budget : Nat) :
    ∃ s : ScanState,
      (if v.cursor.atLeftEdge then { steps := v.steps, stack := v.stack }
        else run (.only rule) .none text budget left (v.move text)) = { steps := s.steps, stack := s.stack } ∧
      s.Holds rule (if text.indicesOf b n = [] then marks else [])
        (tokens ++ (text.indicesOf b n).getLast?.toList.flatMap fun p =>
          marks.map fun q => rule.labels.token rule.name (rule.span q (text.pointAfter (p + 1)))) ∧
      ∀ step ∈ s.steps.toList, step ∈ v.steps.toList ∨ step.index < n := by
  induction n generalizing v left marks tokens with
  | zero =>
    have hedge : v.cursor.atLeftEdge = true := by simp [Cursor.atLeftEdge, hleft, hindex]
    refine ⟨v, if_pos hedge, ?_, fun step hstep => Or.inl hstep⟩
    simpa [Text.indicesOf] using hholds
  | succ n ih =>
    have hedge : ¬ v.cursor.atLeftEdge = true := by simp [Cursor.atLeftEdge, hindex]
    have hc := List.getElem?_eq_getElem (Nat.lt_of_succ_lt hn)
    have hne : text[n] ≠ a := fun h => hbefore n (Nat.lt_succ_self n) (hc.trans (congrArg some h))
    have hadvance : (v.move text).cursor = (v.cursor.moveLeft text).2 := by rw [ScanState.move, Cursor.advance, hleft]
    have hindex' : (v.move text).cursor.index = n := by
      rw [hadvance, Cursor.moveLeft_index (by rw [hindex]; exact hn), hindex]
      rfl
    have hexact' : (v.move text).cursor.Exact text := by
      rw [hadvance]
      exact hexact.moveLeft hlen
    have hleft' : (v.move text).cursor.direction = .left := by rw [hadvance, Cursor.moveLeft_direction, hleft]
    have hmoved : (v.move text).Holds rule marks tokens := ⟨hholds.rules, hholds.marks, hholds.tokens⟩
    obtain ⟨left, rfl⟩ : ∃ m, left = m + 1 := Nat.exists_eq_add_one.2 (Nat.lt_of_lt_of_le (Nat.succ_pos n) hbudget)
    -- The next character opens nothing. It closes all that is open if it is `b`.
    obtain ⟨hheld, hd⟩ := hmoved.visit hm ha hb text text[n] (v.move text).cursor
    simp only [hne, false_and, if_false, List.nil_append] at hheld hd
    have hturned : ((v.move text).visit (.only rule) .none text [] text[n] (v.move text).cursor).cursor.Exact text :=
      ⟨hexact'.point, hexact'.columns⟩
    obtain ⟨s, hrun, hs, hsteps⟩ := ih hturned (hd.trans hleft') hindex' (Nat.lt_of_succ_lt hn)
      (fun i hi => hbefore i (Nat.lt_succ_of_lt hi)) (Nat.le_of_succ_le_succ hbudget) hheld
    refine ⟨s, ?_, ?_, ?_⟩
    · rw [if_neg hedge, run_pass (by rw [hindex']; exact hc)]
      exact hrun
    · rw [Text.indicesOf_succ, hc]
      rw [hexact'.point, hindex'] at hs
      by_cases hbn : text[n] = b
      · have hnil : ((text.indicesOf b n).getLast?.toList.flatMap fun _ : Nat => ([] : List Token)) = [] :=
          List.flatMap_eq_nil_iff.2 fun _ _ => rfl
        simpa [hbn, hnil] using hs
      · simpa [hbn] using hs
    · intro step hstep
      rcases hsteps step hstep with hstep | hlt
      · rw [ScanState.toList_steps_visit, List.mem_append, List.mem_singleton] at hstep
        rcases hstep with hstep | rfl
        · exact Or.inl hstep
        · refine Or.inr ?_
          show (v.move text).cursor.index < n + 1
          rw [hindex']
          exact Nat.lt_succ_self n
      · exact Or.inr (Nat.lt_succ_of_lt hlt)

include hm ha hb in
/-- A rule that goes left and whose `a` is not in the text opens nothing. -/
theorem result_of_left_none (hnone : ∀ i < text.length, text[i]? ≠ some a) :
    (ofText (.only rule) .none {} text).result = .ok [] := by
  have hbefore : ∀ n ≤ text.length, _ := fun n hn =>
    holds_sweep_before hm ha hb hn fun i hi => hnone i (Nat.lt_of_lt_of_le hi hn)
  rw [show ofText (.only rule) .none {} text = _ from ofText_sweep fun n hn => (hbefore n hn).2]
  exact (outcome_of_holds (hbefore text.length (Nat.le_refl _)).1).2.1 rfl

include hm ha hb in
/-- A rule that goes left opens on the first `a` only. The last `b` before it closes it, and if there is none it stays open. The scan
does not get behind that `a`. -/
theorem outcome_of_left (hd : rule.direction = .left) (hlen : text.length < UInt32.size - 1) (hn : text[n]? = some a)
    (hbefore : ∀ i < n, text[i]? ≠ some a) :
    (∀ step ∈ (ofText (.only rule) .none {} text).steps.toList, step.index ≤ n) ∧
      match (text.indicesOf b n).getLast? with
      | some p => (ofText (.only rule) .none {} text).result = .ok [rule.labels.token rule.name (text.between p n)]
      | none => (ofText (.only rule) .none {} text).FailsWith .unterminatedLeft (text.pointAfter (n + 1)) [] := by
  have hlt : n < text.length := (List.getElem?_eq_some_iff.1 hn).1
  have hheld : ∀ m ≤ n, _ := fun m hmn => holds_sweep_before hm ha hb (Nat.le_trans hmn (Nat.le_of_lt hlt)) fun i hi =>
    hbefore i (Nat.lt_of_lt_of_le hi hmn)
  have hright : ∀ m ≤ n, (sweep (.only rule) .everyLine text m).cursor.direction = .right := fun m hmn => (hheld m hmn).2
  have hindex := index_sweep (Nat.le_of_lt hlt) hright
  have hexact := exact_sweep (Nat.le_of_lt hlt) hright
  -- The scan sweeps to the first `a`, turns there, and goes back.
  obtain ⟨hopened, hturned⟩ :=
    (hheld n (Nat.le_refl n)).1.visit hm ha hb text a (sweep (.only rule) .everyLine text n).cursor
  simp only [implies_true, and_self, if_true, List.map_nil, ite_self, List.append_nil] at hopened hturned
  have hface : ((sweep (.only rule) .everyLine text n).visit (.only rule) .none text [] a
      (sweep (.only rule) .everyLine text n).cursor).cursor.Exact text := ⟨hexact.point, hexact.columns⟩
  obtain ⟨left, hleft⟩ : ∃ m, 64 * text.length + 64 - n = m + 1 := ⟨64 * text.length + 63 - n, by omega⟩
  obtain ⟨s, hrun, hs, hsteps⟩ := run_back hm ha hb hlen hface (hturned.trans hd) hindex hlt hbefore
    (show n ≤ left by omega) hopened (64 * text.length + 64)
  have hscan : ofText (.only rule) .none {} text = { steps := s.steps, stack := s.stack } := by
    rw [show ofText (.only rule) .none {} text = _ from ofText_run_sweep (Nat.le_of_lt hlt) hright, hleft,
      run_pass (by rw [hindex]; exact hn)]
    exact hrun
  obtain ⟨-, hok, hfails⟩ := outcome_of_holds hs
  rw [hscan]
  refine ⟨?_, ?_⟩
  · intro step hstep
    rcases hsteps step hstep with hstep | hstep
    · rw [ScanState.toList_steps_visit, List.mem_append, List.mem_singleton] at hstep
      rcases hstep with hstep | rfl
      · exact Nat.le_of_lt (index_lt_of_mem_steps_sweep (Nat.le_of_lt hlt) hright step hstep)
      · exact Nat.le_of_eq hindex
    · exact Nat.le_of_lt hstep
  · rw [hexact.point, hindex] at hok hfails
    cases hlast : (text.indicesOf b n).getLast? with
    | none =>
      rw [List.getLast?_eq_none_iff] at hlast
      simp only [hlast, if_true, hd] at hfails
      exact hfails _ rfl
    | some p =>
      have hne : text.indicesOf b n ≠ [] := by
        intro hnil
        simp [hnil] at hlast
      simp only [hne, if_false, hlast] at hok
      simpa [Rule.span, hd, Text.between] using hok

end Scan

/-- The result of a scan with a single rule, in closed form. The rule has no matcher, opens on `a` and closes on `b`, and all else is
as usual. The coordinates are those of the characters, without wrapping around.

If the rule goes right and `a` is `b`, the places of the character are the ends of the tokens, two by two. If their number is odd,
the scan fails at the last.

If the rule goes right and `a` is not `b`, each `b` ends a token from every `a` since the `b` before it, the nearest first. If there
are places of `a` after all `b`, the scan fails at the first of them.

If the rule goes left, the first `a` ends the only token, which the last `b` before it starts. If there is no such `b`, there is no
token, and the scan fails at that `a`. It makes no step behind it. Without an `a` there are no tokens, and the scan succeeds. -/
theorem tokenize_single_rule (rule : Rule) (a b : Char) (text : Text) (hm : rule.matcher = none) (ha : rule.trigger = some a)
    (hb : rule.terminatorChar = some b) (hlen : text.length < UInt32.size - 1) :
    let t : Tokenizer := { registry := .only rule }
    let s := (t.tokenize text).last
    let token := fun i j => rule.labels.token rule.name (text.between i j)
    let opening := text.indicesOf a text.length
    let closing := text.indicesOf b text.length
    (Tokenizer.withTrivia .none).register rule = .ok t ∧
    (∀ n, (text.pointAfter n).line.toNat = text.lineAfter n ∧ (text.pointAfter n).column.toNat = text.columnAfter n) ∧
    (rule.direction = .right → a = b →
      s.tokens = (inPairs opening).map (fun (i, j) => token i j) ∧
      (opening.length % 2 = 0 → s.result = .ok s.tokens) ∧
      (opening.length % 2 = 1 →
        ∃ i, opening.getLast? = some i ∧ s.FailsWith .unterminatedRight (text.pointAfter (i + 1)) s.tokens)) ∧
    (rule.direction = .right → a ≠ b →
      (s.tokens = closing.flatMap fun p =>
        (opening.filter fun q => q < p ∧ ∀ r ∈ closing, r < p → r < q).reverse.map fun q => token q p) ∧
      match (opening.filter fun q => ∀ p ∈ closing, p < q).head? with
      | none => s.result = .ok s.tokens
      | some q => s.FailsWith .unterminatedRight (text.pointAfter (q + 1)) s.tokens) ∧
    (rule.direction = .left →
      match opening.head? with
      | none => s.result = .ok []
      | some k => (∀ step ∈ s.steps.toList, step.index ≤ k) ∧
        match (text.indicesOf b k).getLast? with
        | some p => s.result = .ok [token p k]
        | none => s.FailsWith .unterminatedLeft (text.pointAfter (k + 1)) []) := by
  intro t s token opening closing
  refine ⟨?_, text.toNat_pointAfter hlen, ?_, ?_, ?_⟩
  · have hterminator : rule.terminator.isEmpty = false := by
      rw [Bool.eq_false_iff, ne_eq, String.isEmpty_iff]
      intro hempty
      simp [Rule.terminatorChar, hempty] at hb
    rw [Tokenizer.register, Registry.register, hterminator]
    rfl
  · intro hd hab
    subst hab
    obtain ⟨hpending, hspans⟩ := text.closedSpans_of_eq a text.length
    obtain ⟨htokens, houtcome⟩ := Scan.outcome_of_right hm ha hb hd text
    rw [hpending, leftOver_eq] at houtcome
    rw [hspans] at htokens
    refine ⟨htokens, ?_, ?_⟩
    · intro heven
      rw [if_pos heven] at houtcome
      exact houtcome
    · intro hodd
      have hne : opening ≠ [] := by
        intro hnil
        simp [hnil] at hodd
      have hlast := List.getLast?_eq_some_getLast hne
      refine ⟨opening.getLast hne, hlast, ?_⟩
      have hnot : ¬ (text.indicesOf a text.length).length % 2 = 0 := by
        show ¬ opening.length % 2 = 0
        omega
      rw [if_neg hnot, show (text.indicesOf a text.length).getLast? = _ from hlast] at houtcome
      exact houtcome
  · intro hd hab
    obtain ⟨hpending, hspans⟩ := text.closedSpans_of_ne hab text.length
    obtain ⟨htokens, houtcome⟩ := Scan.outcome_of_right hm ha hb hd text
    rw [hpending, List.getLast?_reverse] at houtcome
    rw [hspans, List.map_flatMap] at htokens
    simp only [List.map_map, Function.comp_def] at htokens
    exact ⟨htokens, houtcome⟩
  · intro hd
    cases hfirst : opening.head? with
    | none =>
      refine Scan.result_of_left_none hm ha hb fun i hi hc => ?_
      have hmem : i ∈ opening := Text.mem_indicesOf.2 ⟨hi, hc⟩
      rw [List.head?_eq_none_iff.1 hfirst] at hmem
      cases hmem
    | some k =>
      obtain ⟨hk, hbefore⟩ := Text.head?_indicesOf hfirst
      exact Scan.outcome_of_left hm ha hb hd hlen hk hbefore

/-- One bracket closes two that were opened on different lines, and the last one stays open. -/
theorem tokenize_single_rule_brackets :
    let rule : Rule := { name := "round", symbol := "(", terminator := ")" }
    let text : Text := ['(', '\n', '(', ')', '(']
    let s := (({ registry := .only rule } : Tokenizer).tokenize text).last
    s.tokens.map (·.location) = [⟨⟨2, 1⟩, ⟨2, 2⟩⟩, ⟨⟨1, 1⟩, ⟨2, 2⟩⟩] ∧
      s.FailsWith .unterminatedRight ⟨2, 3⟩ s.tokens := by
  intro rule text s
  obtain ⟨-, -, -, hright, -⟩ := tokenize_single_rule rule '(' ')' text rfl (by decide) (by decide) (by decide)
  obtain ⟨htokens, hfails⟩ := hright rfl (by decide)
  refine ⟨?_, hfails⟩
  rw [htokens]
  decide

end RuleScanner
