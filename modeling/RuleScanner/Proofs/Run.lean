import RuleScanner.Tokenizer

/-!
# Runs of a scan

What holds of a whole scan is proved in two steps: what the cursor keeps while it jumps over comments
(`Scan.settle_advances`), and what a state keeps when a character is visited and when the cursor moves on
(`Scan.run_induction`). The stack after a visit is the stack before it, less the activations closed, with the activations
opened on top (`Scan.openAll_snd`).

`Stack.after` says what a step did to the stack, from what the step has noted alone. So the stack at any moment of a scan can
be read off its steps: each was made on the stack that those before it leave of the empty one (`Scan.Replays`).
-/

namespace RuleScanner

/-! ## The moves of the cursor -/

namespace Cursor

variable {P : Cursor → Prop} {text : Text}

/-- What a move to the right keeps, a skip to the right keeps. -/
theorem forward_induction (hr : ∀ k, P k → P (k.moveRight text).2) (n : Nat) (k : Cursor) (h : P k) :
    P (forward text n k).2 := by
  induction n generalizing k with
  | zero => exact h
  | succ n ih =>
    have hk := hr k h
    rw [forward]
    split
    · next k' e => rw [e] at hk; exact ih k' hk
    · next k' e => rw [e] at hk; exact hk

/-- What a move to the left keeps, a skip to the left keeps. -/
theorem backward_induction (hl : ∀ k, P k → P (k.moveLeft text).2) (n : Nat) (k : Cursor) (h : P k) :
    P (backward text n k) := by
  induction n generalizing k with
  | zero => exact h
  | succ n ih =>
    have hk := hl k h
    rw [backward]
    split
    · next k' e => rw [e] at hk; exact ih k' hk
    · next k' e => rw [e] at hk; exact hk

/-- What a move either way keeps, a move in the direction of the cursor keeps. -/
theorem advance_induction (hr : ∀ k, P k → P (k.moveRight text).2) (hl : ∀ k, P k → P (k.moveLeft text).2) (k : Cursor)
    (h : P k) : P (k.advance text).2 := by
  unfold advance
  split
  · exact hr k h
  · exact hl k h

end Cursor

namespace Scan

variable {trivia : Trivia} {text : Text}

/-- What a move in the direction of the cursor keeps, a jump over a comment keeps. -/
theorem jump?_advances {P : Cursor → Prop} (ha : ∀ k, P k → P (k.advance text).2) {c : Char} {k k' : Cursor} {skip : Skip}
    {inside : Bool} (hj : jump? trivia text c k = some (skip, inside, k')) (h : P k) : P k' := by
  unfold jump? at hj
  split at hj
  · next hd =>
    simp only [Option.ite_none_right_eq_some, Option.some.injEq, Prod.mk.injEq] at hj
    obtain ⟨-, -, hskip⟩ := hj
    have hr : ∀ x : Cursor, P x ∧ x.direction = .right → P (x.moveRight text).2 ∧ (x.moveRight text).2.direction = .right := by
      rintro x ⟨hx, hxd⟩
      have hmoved := ha x hx
      rw [Cursor.advance, hxd] at hmoved
      exact ⟨hmoved, (x.moveRight_direction text).trans hxd⟩
    have hk := Cursor.forward_induction hr (trivia.commentEnd k.index text - k.index) k ⟨h, hd⟩
    rw [Cursor.skipTo] at hskip
    rw [hskip] at hk
    exact hk.1
  · next hd =>
    split at hj
    · simp only [Option.some.injEq, Prod.mk.injEq] at hj
      obtain ⟨-, -, rfl⟩ := hj
      exact h
    · next i _ =>
      simp only [Option.ite_none_right_eq_some, Option.some.injEq, Prod.mk.injEq] at hj
      obtain ⟨-, -, hskip⟩ := hj
      simp only [Cursor.skipBackTo, Prod.mk.injEq] at hskip
      obtain ⟨-, rfl⟩ := hskip
      have hl : ∀ x : Cursor, P x ∧ x.direction = .left → P (x.moveLeft text).2 ∧ (x.moveLeft text).2.direction = .left := by
        rintro x ⟨hx, hxd⟩
        have hmoved := ha x hx
        rw [Cursor.advance, hxd] at hmoved
        exact ⟨hmoved, (x.moveLeft_direction text).trans hxd⟩
      exact (Cursor.backward_induction hl (k.index - i) k ⟨h, hd⟩).1
    · cases hj

/-- What a move in the direction of the cursor keeps, the jumps over all comments under the cursor keep. -/
theorem settle_advances {P : Cursor → Prop} (ha : ∀ k, P k → P (k.advance text).2) (k : Cursor) (h : P k) :
    P (settle trivia text k).2.2 := by
  fun_induction settle trivia text k with
  | case1 => exact h
  | case2 => exact h
  | case3 k c hc skip k' hj => exact jump?_advances ha hj h
  | case4 k c hc skip k' hj skips visit k'' e ih =>
    rw [e] at ih
    exact ih (jump?_advances ha hj h)

/-- What a move either way keeps, a jump over a comment keeps. -/
theorem jump?_induction {P : Cursor → Prop} (hr : ∀ k, P k → P (k.moveRight text).2)
    (hl : ∀ k, P k → P (k.moveLeft text).2) {c : Char} {k k' : Cursor} {skip : Skip} {inside : Bool}
    (hj : jump? trivia text c k = some (skip, inside, k')) (h : P k) : P k' :=
  jump?_advances (Cursor.advance_induction hr hl) hj h

/-- What a move either way keeps, the jumps over all comments under the cursor keep. -/
theorem settle_induction {P : Cursor → Prop} (hr : ∀ k, P k → P (k.moveRight text).2)
    (hl : ∀ k, P k → P (k.moveLeft text).2) (k : Cursor) (h : P k) : P (settle trivia text k).2.2 :=
  settle_advances (Cursor.advance_induction hr hl) k h

/-- The character to visit is the one under the cursor. -/
theorem settle_char {k k' : Cursor} {skipped : List Skip} {c : Char}
    (h : settle trivia text k = (skipped, some c, k')) : text[k'.index]? = some c := by
  fun_induction settle trivia text k generalizing skipped with
  | case1 => simp at h
  | case2 k c' hc hj =>
    simp only [Prod.mk.injEq, Option.some.injEq] at h
    obtain ⟨-, rfl, rfl⟩ := h
    exact hc
  | case3 => simp at h
  | case4 k c' hc skip k₁ hj skips visit k₂ e ih =>
    simp only [Prod.mk.injEq] at h
    obtain ⟨-, rfl, rfl⟩ := h
    exact ih e

end Scan

/-! ## The states of a run -/

namespace ScanState

/-- The state after the step on the character `c` under `k`, before the cursor moves on. -/
def visit (registry : Registry) (trivia : Trivia) (text : Text) (skipped : List Skip) (c : Char) (k : Cursor) (s : ScanState) :
    ScanState :=
  let (made, stack, direction) := Scan.step registry trivia text skipped c k s.stack
  { cursor := k.face direction, stack, steps := s.steps.push made }

theorem toList_steps_visit (registry : Registry) (trivia : Trivia) (text : Text) (skipped : List Skip) (c : Char) (k : Cursor)
    (s : ScanState) : (s.visit registry trivia text skipped c k).steps.toList =
      s.steps.toList ++ [(Scan.step registry trivia text skipped c k s.stack).1] := Array.toList_push

/-- The state after the cursor has moved on. -/
def move (text : Text) (s : ScanState) : ScanState := { s with cursor := (s.cursor.advance text).2 }

end ScanState

namespace Scan

variable {registry : Registry} {trivia : Trivia} {text : Text}

/-- A run that has no character to visit is over. -/
theorem run_over {s : ScanState} {skipped : List Skip} {k : Cursor}
    (h : settle trivia text s.cursor = (skipped, none, k)) (budget left : Nat) :
    run registry trivia text budget left s = { steps := s.steps, skipped, stack := s.stack } :=
  run.eq_1 registry trivia text budget s left skipped k h

/-- A run with no step left that has a character to visit is cut off. -/
theorem run_zero {s : ScanState} {skipped : List Skip} {c : Char} {k : Cursor}
    (h : settle trivia text s.cursor = (skipped, some c, k)) (budget : Nat) :
    run registry trivia text budget 0 s =
      { steps := s.steps, skipped, stack := s.stack, cutOff := some (.stepLimit budget k.index k.point) } :=
  run.eq_2 registry trivia text budget s skipped k c h

/-- A run with steps left that has a character to visit visits it. It ends there at the left edge, and moves on otherwise. -/
theorem run_succ {s : ScanState} {skipped : List Skip} {c : Char} {k : Cursor}
    (h : settle trivia text s.cursor = (skipped, some c, k)) (budget left : Nat) :
    run registry trivia text budget (left + 1) s =
      if (s.visit registry trivia text skipped c k).cursor.atLeftEdge then
        { steps := (s.visit registry trivia text skipped c k).steps, stack := (s.visit registry trivia text skipped c k).stack }
      else run registry trivia text budget left ((s.visit registry trivia text skipped c k).move text) :=
  run.eq_3 registry trivia text budget s left skipped c k h

/-- How a run ends. If visiting a character leads from `P` to `Q` and moving on leads back, then a run that begins with `P` ends in
a state with `P`, with no character to visit or with one but no step left to visit it, or in a state with `Q` at the left edge. -/
theorem run_ends {P Q : ScanState → Prop}
    (hvisit : ∀ s skipped c k, P s → settle trivia text s.cursor = (skipped, some c, k) →
      Q (s.visit registry trivia text skipped c k))
    (hmove : ∀ s, Q s → s.cursor.atLeftEdge = false → P (s.move text)) (budget left : Nat) (s : ScanState) (h : P s) :
    (∃ s' skipped k, P s' ∧ settle trivia text s'.cursor = (skipped, none, k) ∧
      run registry trivia text budget left s = { steps := s'.steps, skipped, stack := s'.stack }) ∨
    (∃ s' skipped c k, P s' ∧ settle trivia text s'.cursor = (skipped, some c, k) ∧
      s'.steps.size = s.steps.size + left ∧
      run registry trivia text budget left s =
        { steps := s'.steps, skipped, stack := s'.stack, cutOff := some (.stepLimit budget k.index k.point) }) ∨
    ∃ s', Q s' ∧ s'.cursor.atLeftEdge ∧
      run registry trivia text budget left s = { steps := s'.steps, stack := s'.stack } := by
  induction left generalizing s with
  | zero =>
    rcases hs : settle trivia text s.cursor with ⟨skipped, _ | c, k⟩
    · exact Or.inl ⟨s, skipped, k, h, hs, run_over hs ..⟩
    · exact Or.inr (Or.inl ⟨s, skipped, c, k, h, hs, rfl, run_zero hs budget⟩)
  | succ left ih =>
    rcases hs : settle trivia text s.cursor with ⟨skipped, _ | c, k⟩
    · exact Or.inl ⟨s, skipped, k, h, hs, run_over hs ..⟩
    · have hq := hvisit s skipped c k h hs
      rw [run_succ hs]
      split
      · next hedge => exact Or.inr (Or.inr ⟨_, hq, hedge, rfl⟩)
      · next hedge =>
        have hsize : ((s.visit registry trivia text skipped c k).move text).steps.size + left = s.steps.size + (left + 1) := by
          simp only [ScanState.move, ScanState.visit, Array.size_push]
          omega
        rw [← hsize]
        exact ih _ (hmove _ hq (by simpa using hedge))

/-- Induction over a run. If visiting a character leads from `P` to `Q` and moving on leads back, then a run that begins with
`P` ends in a state with `P` or `Q`, and its steps and its stack are those of that state. -/
theorem run_induction {P Q : ScanState → Prop}
    (hvisit : ∀ s skipped c k, P s → settle trivia text s.cursor = (skipped, some c, k) →
      Q (s.visit registry trivia text skipped c k))
    (hmove : ∀ s, Q s → s.cursor.atLeftEdge = false → P (s.move text)) (budget left : Nat) (s : ScanState) (h : P s) :
    ∃ s', (P s' ∨ Q s') ∧ (run registry trivia text budget left s).steps = s'.steps ∧
      (run registry trivia text budget left s).stack = s'.stack := by
  rcases run_ends hvisit hmove budget left s h with
    ⟨s', skipped, k, hp, -, he⟩ | ⟨s', skipped, c, k, hp, -, -, he⟩ | ⟨s', hq, -, he⟩
  · exact ⟨s', Or.inl hp, by rw [he], by rw [he]⟩
  · exact ⟨s', Or.inl hp, by rw [he], by rw [he]⟩
  · exact ⟨s', Or.inr hq, by rw [he], by rw [he]⟩

/-- What every visit and every move keeps holds at the end of a scan, if it holds of the state in which the scan begins. -/
theorem ofText_induction {P : ScanState → Prop} (registry : Registry) (trivia : Trivia) (config : Config) (text : Text)
    (hstart : P { cursor := ((Cursor.initial config.memory).enter text).2 })
    (hvisit : ∀ s skipped c k, P s → settle trivia text s.cursor = (skipped, some c, k) →
      P (s.visit registry trivia text skipped c k))
    (hmove : ∀ s, P s → P (s.move text)) :
    ∃ s, P s ∧ (ofText registry trivia config text).steps = s.steps ∧ (ofText registry trivia config text).stack = s.stack := by
  obtain ⟨s, hs, he⟩ := run_induction hvisit (fun s h _ => hmove s h) (config.budget text.length) (config.budget text.length) _
    hstart
  exact ⟨s, hs.elim id id, he⟩

/-! ## What a visit does to the stack -/

/-- The activations opened are those of the rules, in order. -/
theorem map_rule_openAll (p : Point) (rules : List Rule) (stack : Stack) :
    (openAll p rules stack).1.map (·.rule) = rules := by
  induction rules generalizing stack with
  | nil => rfl
  | cons rule rules ih =>
    rw [openAll, List.map_cons, ih]
    rfl

/-- The activations opened stand on top of the others, the latest on top. -/
theorem openAll_snd (p : Point) (rules : List Rule) (stack : Stack) :
    (openAll p rules stack).2 =
      { items := (openAll p rules stack).1.reverse ++ stack.items, pushed := stack.pushed + rules.length } := by
  induction rules generalizing stack with
  | nil => rfl
  | cons rule rules ih =>
    simp only [openAll, ih, Stack.push, List.reverse_cons, List.append_assoc, List.singleton_append, List.length_cons,
      Stack.mk.injEq, true_and]
    omega

end Scan

/-- The stack after a step that has found `stack`: without what the step's character closes, and with what the step has
opened on top. -/
def Stack.after (stack : Stack) (step : Step) : Stack :=
  (Scan.openAll step.point (step.opened.map (·.rule)) (stack.close step.char)).2

/-- The direction in which a scan goes on after the step: that of the activation opened last, and else the one in which it has
met the character. -/
def Step.departure (step : Step) : Direction := (step.opened.getLast?.map (·.rule.direction)).getD step.direction

/-- The step, on the stack `stack`, has closed what its character closes and opened the activations of its rules. -/
structure Step.MadeOn (stack : Stack) (step : Step) : Prop where
  closed : step.closed = stack.closing step.char step.point
  opened : step.opened = (Scan.openAll step.point (step.opened.map (·.rule)) (stack.close step.char)).1

/-- Each of the steps is made on the stack that those before it leave of the empty one. -/
def Step.Chain (steps : List Step) : Prop :=
  ∀ (n : Nat) (step : Step), steps[n]? = some step → step.MadeOn ((steps.take n).foldl Stack.after .empty)

/-- The member at a place of a list with one more at its end. -/
theorem getElem?_concat_cases {α : Type} {l : List α} {x y : α} {n : Nat} (h : (l ++ [x])[n]? = some y) :
    (n < l.length ∧ l[n]? = some y) ∨ (n = l.length ∧ y = x) := by
  rcases Nat.lt_or_ge n l.length with hlt | hge
  · rw [List.getElem?_append_left hlt] at h
    exact Or.inl ⟨hlt, h⟩
  · rw [List.getElem?_append_right hge, List.getElem?_singleton] at h
    split at h
    · next he => exact Or.inr ⟨Nat.le_antisymm (Nat.le_of_sub_eq_zero he) hge, (Option.some.inj h).symm⟩
    · cases h

theorem Step.Chain.append {steps : List Step} {step : Step} (h : Chain steps)
    (hs : step.MadeOn (steps.foldl Stack.after .empty)) : Chain (steps ++ [step]) := by
  intro n made hn
  rcases getElem?_concat_cases hn with ⟨hlt, hn⟩ | ⟨rfl, rfl⟩
  · rw [List.take_append_of_le_length (Nat.le_of_lt hlt)]
    exact h n made hn
  · rw [List.take_left]
    exact hs

namespace Scan

section

variable (registry : Registry) (trivia : Trivia) (text : Text) (skipped : List Skip) (c : Char) (k : Cursor) (stack : Stack)

theorem map_rule_step :
    (step registry trivia text skipped c k stack).1.opened.map (·.rule) =
      opening registry (stack.closing c k.point) c k.index text := map_rule_openAll ..

theorem step_madeOn : (step registry trivia text skipped c k stack).1.MadeOn stack := by
  refine ⟨rfl, ?_⟩
  rw [map_rule_step]
  rfl

/-- The stack that a step leaves is the one that its notes tell. -/
theorem step_stack :
    (step registry trivia text skipped c k stack).2.1 = stack.after (step registry trivia text skipped c k stack).1 := by
  rw [Stack.after, map_rule_step]
  rfl

end

/-- A step opens registered rules only. -/
theorem rule_mem_of_mem_opened {registry : Registry} {trivia : Trivia} {text : Text} {skipped : List Skip} {c : Char}
    {k : Cursor} {stack : Stack} {a : Activation} (ha : a ∈ (step registry trivia text skipped c k stack).1.opened) :
    a.rule ∈ registry.rules := by
  have hmem := List.mem_map_of_mem (f := fun x : Activation => x.rule) ha
  rw [map_rule_step] at hmem
  exact (List.mem_filter.1 (List.mem_filter.1 hmem).1).1

/-- Rules that all go one way never turn a scan that goes this way. -/
theorem visit_direction {registry : Registry} {d : Direction} (hrules : ∀ rule ∈ registry.rules, rule.direction = d)
    (trivia : Trivia) (text : Text) (skipped : List Skip) (c : Char) {k : Cursor} (hd : k.direction = d) (s : ScanState) :
    (s.visit registry trivia text skipped c k).cursor.direction = d := by
  show (step registry trivia text skipped c k s.stack).1.departure = d
  unfold Step.departure
  cases hlast : (step registry trivia text skipped c k s.stack).1.opened.getLast? with
  | none => exact hd
  | some a => exact hrules a.rule (rule_mem_of_mem_opened (List.mem_of_getLast? hlast))

/-- The steps of the scan are a chain, and the scan has the stack that they leave. -/
structure Replays (s : Scan) : Prop where
  chain : Step.Chain s.steps.toList
  stack : s.stack = s.steps.toList.foldl Stack.after .empty

theorem ofText_replays (registry : Registry) (trivia : Trivia) (config : Config) (text : Text) :
    (ofText registry trivia config text).Replays := by
  obtain ⟨s, ⟨hchain, hs⟩, hsteps, hstack⟩ := ofText_induction (P := fun s =>
      Step.Chain s.steps.toList ∧ s.stack = s.steps.toList.foldl Stack.after .empty)
    registry trivia config text ⟨by simp [Step.Chain], rfl⟩
    (by
      rintro s skipped c k ⟨hchain, hs⟩ -
      simp only [ScanState.visit, Array.toList_push]
      refine ⟨hchain.append ?_, ?_⟩
      · rw [← hs]
        exact step_madeOn ..
      · rw [List.foldl_append, ← hs]
        exact step_stack ..)
    (fun _ hs => hs)
  exact ⟨by rw [hsteps]; exact hchain, by rw [hsteps, hstack]; exact hs⟩

end Scan

end RuleScanner
