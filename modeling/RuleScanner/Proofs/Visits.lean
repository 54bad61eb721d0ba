import Mathlib.Data.List.Nodup
import RuleScanner.Proofs.Emission
import RuleScanner.Proofs.Reuse
import RuleScanner.Proofs.Rounds

/-!
# What a visit opens and closes

Each step of a scan is what `Scan.step` makes of the state in which the scan stands before it
(`Tokenizer.exists_standsBefore`). It closes from the top of the stack as long as the character is the terminator, and opens the
rules that accept the character, less those of which it has closed an activation. It tells them apart by their names. That is
right (`Scan.mem_opening_iff`), because the registry holds no two rules of one name (`Tokenizer.nodup_names`) and all activations
on the stack are of registered rules (`Tokenizer.StandsBefore.rule_mem`).

The records tell the same. Closing changes neither the rule nor the number of an activation, so what a step has opened are the
activations of the records opened on it (`Scan.Replays.map_key_opened`).
-/

namespace RuleScanner

/-! ## The state before a step -/

namespace Round

variable {registry : Registry} {trivia : Trivia} {text : Text} {budget : Nat} {r r' : Round} {s : Scan}

/-- What a round keeps, rounds keep. -/
theorem iterate_induction {P : Round → Prop}
    (hnext : ∀ r r' : Round, P r → r.next registry trivia text budget = .inr r' → P r') {n : Nat} (h : P r)
    (hn : iterate registry trivia text budget n r = .inr r') : P r' := by
  induction n generalizing r with
  | zero =>
    cases hn
    exact h
  | succ n ih =>
    cases hr : r.next registry trivia text budget with
    | inl s =>
      rw [iterate_succ_of_inl hr] at hn
      cases hn
    | inr r₁ =>
      rw [iterate_succ_of_inr hr] at hn
      exact ih (hnext r r₁ h hr) hn

/-- The step that a visit of the character `c` makes in the state before the round. -/
def visited (registry : Registry) (trivia : Trivia) (text : Text) (c : Char) (r : Round) : Step :=
  (Scan.step registry trivia text r.skipped c r.state.cursor r.state.stack).1

/-- In the round the scan stands on a character that the comments do not skip, and `made` is the step that its visit makes. -/
def Makes (registry : Registry) (trivia : Trivia) (text : Text) (r : Round) (made : Step) : Prop :=
  ∃ c, text[r.state.cursor.index]? = some c ∧ ¬ trivia.Skips text c r.state.cursor ∧ made = r.visited registry trivia text c

/-- A round after which the scan goes on has made no step, or the step of a visit. -/
theorem steps_of_next_inr (h : r.next registry trivia text budget = .inr r') :
    r'.state.steps = r.state.steps ∨
      ∃ made, r.Makes registry trivia text made ∧ r'.state.steps = r.state.steps.push made := by
  obtain ⟨c, hc, ⟨skip, k, -, rfl⟩ | ⟨hj, -, rfl⟩⟩ := next_eq_inr h
  · exact Or.inl rfl
  · exact Or.inr ⟨_, ⟨c, hc, Scan.jump?_eq_none_iff.1 hj, rfl⟩, rfl⟩

/-- The last round has made no step, or the step of a visit. -/
theorem steps_of_next_inl (h : r.next registry trivia text budget = .inl s) :
    s.steps = r.state.steps ∨ ∃ made, r.Makes registry trivia text made ∧ s.steps = r.state.steps.push made := by
  rcases next_eq_inl h with ⟨-, rfl⟩ | ⟨c, hc, ⟨skip, rfl⟩ | ⟨hj, hs⟩⟩
  · exact Or.inl rfl
  · exact Or.inl rfl
  · split at hs
    · subst hs
      exact Or.inl rfl
    · subst hs
      exact Or.inr ⟨_, ⟨c, hc, Scan.jump?_eq_none_iff.1 hj, rfl⟩, rfl⟩

/-- Rounds keep the steps that have been made. -/
theorem getElem?_steps_iterate {n : Nat} (h : iterate registry trivia text budget n r = .inl s) {i : Nat} {step : Step}
    (hi : r.state.steps[i]? = some step) : s.steps[i]? = some step := by
  have hpush : ∀ (r : Round) (made : Step), r.state.steps[i]? = some step → (r.state.steps.push made)[i]? = some step := by
    intro r made hi
    rw [Array.getElem?_push, if_neg (Nat.ne_of_lt (Array.getElem?_eq_some_iff.1 hi).1), hi]
  induction n generalizing r with
  | zero => cases h
  | succ n ih =>
    cases hr : r.next registry trivia text budget with
    | inl s₁ =>
      rw [iterate_succ_of_inl hr] at h
      cases h
      rcases steps_of_next_inl hr with he | ⟨made, -, he⟩
      · rw [he, hi]
      · rw [he, hpush r _ hi]
    | inr r₁ =>
      rw [iterate_succ_of_inr hr] at h
      refine ih h ?_
      rcases steps_of_next_inr hr with he | ⟨made, -, he⟩
      · rw [he, hi]
      · rw [he, hpush r _ hi]

/-- Before each step that rounds make they lead to the state on which it is made. -/
theorem exists_makes {n : Nat} (h : iterate registry trivia text budget n r = .inl s) {i : Nat} {step : Step}
    (hi : r.state.steps.size ≤ i) (hs : s.steps[i]? = some step) :
    ∃ m r', iterate registry trivia text budget m r = .inr r' ∧ r'.state.steps.size = i ∧ r'.Makes registry trivia text step := by
  induction n generalizing r with
  | zero => cases h
  | succ n ih =>
    cases hr : r.next registry trivia text budget with
    | inl s₁ =>
      rw [iterate_succ_of_inl hr] at h
      cases h
      rcases steps_of_next_inl hr with he | ⟨made, hmade, he⟩
      · rw [he] at hs
        exact absurd (Array.getElem?_eq_some_iff.1 hs).1 (Nat.not_lt_of_le hi)
      · rw [he, Array.getElem?_push] at hs
        split at hs
        · next hsize =>
          cases hs
          exact ⟨0, r, rfl, hsize.symm, hmade⟩
        · exact absurd (Array.getElem?_eq_some_iff.1 hs).1 (Nat.not_lt_of_le hi)
    | inr r₁ =>
      rw [iterate_succ_of_inr hr] at h
      have hlater : r₁.state.steps.size ≤ i → ∃ m r', iterate registry trivia text budget m r = .inr r' ∧
          r'.state.steps.size = i ∧ r'.Makes registry trivia text step := by
        intro hi₁
        obtain ⟨m, r', hm, hrest⟩ := ih h hi₁
        exact ⟨m + 1, r', (iterate_succ_of_inr hr m).trans hm, hrest⟩
      rcases steps_of_next_inr hr with he | ⟨made, hmade, he⟩
      · exact hlater (by rw [he]; exact hi)
      · -- This round makes a step: it is the one we look for, or comes before it.
        rcases Nat.lt_or_eq_of_le hi with hlt | rfl
        · exact hlater (by rw [he, Array.size_push]; exact hlt)
        · have hfound : r₁.state.steps[r.state.steps.size]? = some made := by rw [he, Array.getElem?_push_size]
          rw [getElem?_steps_iterate h hfound] at hs
          cases hs
          exact ⟨0, r, rfl, rfl, hmade⟩

end Round

/-- Before each of its steps a scan stands in a state of which the step is made. -/
theorem Tokenizer.exists_standsBefore (t : Tokenizer) (text : Text) {n : Nat} {step : Step}
    (h : (t.tokenize text).last.steps[n]? = some step) :
    ∃ c r, t.StandsBefore text n c r ∧ step = r.visited t.registry t.trivia text c := by
  obtain ⟨m, -, hm⟩ := Round.iterate_ofText t.registry t.trivia t.config text
  obtain ⟨m', r, hr, hsize, c, hc, hskips, hstep⟩ := Round.exists_makes hm (Nat.zero_le n) h
  exact ⟨c, r, ⟨⟨m', hr⟩, hsize, hc, hskips⟩, hstep⟩

/-! ## Registered rules -/

/-- A registry that accepts a rule still holds no two rules of one name. -/
theorem Registry.nodup_names_register {g g' : Registry} {rule : Rule} (h : g.register rule = .ok g')
    (hg : (g.rules.map (·.name)).Nodup) : (g'.rules.map (·.name)).Nodup := by
  unfold register at h
  split at h
  · cases h
  · split at h
    · cases h
    · next hname =>
      cases h
      have hfresh : rule.name ∉ g.rules.map (·.name) := by simpa [hasName] using hname
      rw [List.map_append, List.map_singleton, ← List.concat_eq_append]
      exact hg.concat hfresh

/-- Whatever is done with a tokenizer, its registry holds no two rules of one name. -/
theorem Tokenizer.nodup_names (ops : List Operation) (t : Tokenizer) (h : (t.registry.rules.map (·.name)).Nodup) :
    ((ops.foldl perform t).registry.rules.map (·.name)).Nodup := by
  induction ops generalizing t with
  | nil => exact h
  | cons op ops ih =>
    cases op with
    | register rule =>
      refine ih _ ?_
      rw [perform, register]
      cases hr : t.registry.register rule with
      | error fault => exact h
      | ok g => exact Registry.nodup_names_register hr h
    | configure config => exact ih (t.configure config) h
    | tokenize text => exact ih (t.tokenize text) h

/-- What a step leaves on the stack was there, or the step has opened it. -/
theorem Scan.mem_opened_or_mem_items {registry : Registry} {trivia : Trivia} {text : Text} {skipped : List Skip} {c : Char}
    {k : Cursor} {stack : Stack} {a : Activation} (ha : a ∈ (step registry trivia text skipped c k stack).2.1.items) :
    a ∈ (step registry trivia text skipped c k stack).1.opened ∨ a ∈ stack.items := by
  have hitems : (step registry trivia text skipped c k stack).2.1.items =
      (step registry trivia text skipped c k stack).1.opened.reverse ++ (stack.close c).items :=
    congrArg Stack.items (openAll_snd ..)
  rw [hitems, List.mem_append, List.mem_reverse] at ha
  exact ha.imp_right fun h => (List.dropWhile_sublist _).subset h

/-- All activations on the stack of a scan are of registered rules. -/
theorem Tokenizer.StandsBefore.rule_mem {t : Tokenizer} {text : Text} {n : Nat} {c : Char} {r : Round}
    (h : t.StandsBefore text n c r) : ∀ a ∈ r.state.stack.items, a.rule ∈ t.registry.rules := by
  obtain ⟨⟨m, hm⟩, -⟩ := h
  refine Round.iterate_induction (P := fun r => ∀ a ∈ r.state.stack.items, a.rule ∈ t.registry.rules) ?_ ?_ hm
  · intro r r' hr hn a ha
    obtain ⟨c, -, ⟨skip, k, -, rfl⟩ | ⟨-, -, rfl⟩⟩ := Round.next_eq_inr hn
    · exact hr a ha
    · have hleft : a ∈ (Scan.step t.registry t.trivia text r.skipped c r.state.cursor r.state.stack).2.1.items := ha
      rcases Scan.mem_opened_or_mem_items hleft with ha | ha
      · exact Scan.rule_mem_of_mem_opened ha
      · exact hr a ha
  · intro a ha
    cases ha

/-- The activation closes on the first character of its terminator. -/
theorem Activation.closesOn_iff (a : Activation) (c : Char) :
    a.closesOn c ↔ ∃ more, a.rule.terminator.toList = c :: more := by
  rw [closesOn, beq_iff_eq, Rule.terminatorChar, List.head?_eq_some_iff]

/-- The rule opens on any character or on the first of its symbol, if its matcher has nothing against it. -/
theorem Rule.accepts_iff (rule : Rule) (c : Char) (index : Nat) (text : Text) :
    rule.accepts c index text ↔ (rule.symbol = "" ∨ ∃ more, rule.symbol.toList = c :: more) ∧
      ∀ matcher, rule.matcher = some matcher → matcher c index text := by
  have htrigger : rule.trigger.all (· == c) ↔ rule.symbol = "" ∨ ∃ more, rule.symbol.toList = c :: more := by
    rw [← String.toList_eq_nil_iff, trigger]
    cases rule.symbol.toList <;> simp
  rw [accepts, Bool.and_eq_true, htrigger]
  refine and_congr_right fun _ => ?_
  cases rule.matcher <;> simp

/-- Of the rules that accept the character those open of which no activation is among `closed`, if no two have one name and all
that is closed is registered. -/
theorem Scan.mem_opening_iff {registry : Registry} (hnames : (registry.rules.map (·.name)).Nodup) {closed : List Activation}
    (hclosed : ∀ a ∈ closed, a.rule ∈ registry.rules) (c : Char) (index : Nat) (text : Text) (rule : Rule) :
    rule ∈ opening registry closed c index text ↔
      rule ∈ registry.rules ∧ rule.accepts c index text ∧ ∀ a ∈ closed, a.rule ≠ rule := by
  rw [opening, Registry.candidates, List.mem_filter, List.mem_filter, and_assoc]
  refine and_congr_right fun hrule => and_congr_right fun _ => ?_
  rw [Bool.not_eq_true', List.any_eq_false]
  refine forall₂_congr fun a ha => not_congr ?_
  rw [beq_iff_eq]
  constructor
  · intro hname
    exact List.inj_on_of_nodup_map hnames (hclosed a ha) hrule hname
  · rintro rfl
    rfl

/-! ## The records of what was opened -/

/-- What is the same of an activation from its opening to its closing: the rule and the number. -/
def Activation.key (a : Activation) : Rule × Nat := (a.rule, a.seq)

/-- What a record tells of the opening of its activation: which activation it is, and the number of the step. -/
def Record.opening (r : Record) : (Rule × Nat) × Nat := (r.activation.key, r.openedAt)

/-- The records opened on step `k`, the earliest first. -/
def History.openedOn (h : History) (k : Nat) : List Record := h.toList.filter (·.openedAt == k)

theorem History.map_opening_foldl_opened (k : Nat) (as : List Activation) (h : History) :
    (as.foldl (opened k) h).toList.map Record.opening = h.toList.map Record.opening ++ as.map fun a => (a.key, k) := by
  induction as generalizing h with
  | nil => simp
  | cons a as ih =>
    rw [List.foldl_cons, ih, toList_opened]
    simp [Record.opening]

/-- The openings of a list of steps, the first of which is numbered `k`, in order. -/
def Step.openings (k : Nat) (steps : List Step) : List ((Rule × Nat) × Nat) :=
  (steps.zipIdx k).flatMap fun (step, n) => step.opened.map fun a => (a.key, n)

namespace Step

theorem openings_append (k : Nat) (steps more : List Step) :
    openings k (steps ++ more) = openings k steps ++ openings (k + steps.length) more := by
  simp [openings, List.zipIdx_append]

theorem openings_singleton (k : Nat) (step : Step) : openings k [step] = step.opened.map fun a => (a.key, k) := by
  simp [openings]

theorem mem_openings {k : Nat} {steps : List Step} {x : (Rule × Nat) × Nat} (h : x ∈ openings k steps) :
    k ≤ x.2 ∧ x.2 < k + steps.length := by
  obtain ⟨⟨step, n⟩, hstep, hx⟩ := List.mem_flatMap.1 h
  obtain ⟨a, -, rfl⟩ := List.mem_map.1 hx
  have hle := List.le_snd_of_mem_zipIdx hstep
  have hlt := List.snd_lt_add_of_mem_zipIdx hstep
  exact ⟨hle, hlt⟩

/-- The openings up to a step are those of the steps up to it. -/
theorem filter_openings_lt (steps : List Step) (n : Nat) :
    (openings 0 steps).filter (·.2 < n) = openings 0 (steps.take n) := by
  have hfirst : (openings 0 (steps.take n)).filter (·.2 < n) = openings 0 (steps.take n) := by
    rw [List.filter_eq_self]
    intro x hx
    have hlt := (mem_openings hx).2
    rw [List.length_take] at hlt
    rw [decide_eq_true_eq]
    omega
  have hrest : (openings (0 + (steps.take n).length) (steps.drop n)).filter (·.2 < n) = [] := by
    rw [List.filter_eq_nil_iff]
    intro x hx
    have hle := mem_openings hx
    rw [List.length_take, List.length_drop] at hle
    rw [decide_eq_true_eq]
    omega
  conv_lhs => rw [← List.take_append_drop n steps, openings_append, List.filter_append, hfirst, hrest, List.append_nil]

/-- The openings with the number of a step are those of the step. -/
theorem filter_openings_eq {steps : List Step} {n : Nat} {step : Step} (h : steps[n]? = some step) :
    (openings 0 steps).filter (·.2 == n) = step.opened.map fun a => (a.key, n) := by
  have hn : n < steps.length := (List.getElem?_eq_some_iff.1 h).1
  have hlater : (openings 0 steps).filter (·.2 == n) = ((openings 0 steps).filter (·.2 < n + 1)).filter (·.2 == n) := by
    rw [List.filter_filter]
    refine List.filter_congr fun x _ => ?_
    rw [Bool.eq_iff_iff]
    simp only [Bool.and_eq_true, beq_iff_eq, decide_eq_true_eq]
    omega
  have hearlier : (openings 0 (steps.take n)).filter (·.2 == n) = [] := by
    rw [List.filter_eq_nil_iff]
    intro x hx
    have hlt := (mem_openings hx).2
    rw [List.length_take] at hlt
    rw [beq_iff_eq]
    omega
  rw [hlater, filter_openings_lt, List.take_add_one, h, Option.toList_some, openings_append,
    List.length_take_of_le (Nat.le_of_lt hn), Nat.zero_add, openings_singleton, List.filter_append, hearlier, List.nil_append, List.filter_eq_self]
  intro x hx
  obtain ⟨a, -, rfl⟩ := List.mem_map.1 hx
  exact beq_self_eq_true n

end Step

namespace Ledger

variable {made : Nat → Step} {k : Nat} {now : List Activation} {stack : Stack} {bases : List Stack}

/-- A record tells the same opening after its activation is closed. -/
theorem map_opening_close {h : History} (hl : Ledger made k k now stack bases h.toList) {a : Activation}
    {rest : List Activation} (ht : stack.items = a :: rest) (p : Point) :
    (h.closed k (a.closeAt p)).toList.map Record.opening = h.toList.map Record.opening := by
  obtain ⟨front, r, back, hh, rfl, -, hseq, -⟩ := hl.top ht
  rw [History.toList_closed hh (by simpa using hseq), hh]
  simp [Record.opening, Activation.key]

/-- A step adds what it opens. -/
theorem map_opening_step {h : History} (hl : Ledger made k k [] stack bases h.toList) (hm : (made k).MadeOn stack) :
    (h.add k (made k)).toList.map Record.opening =
      h.toList.map Record.opening ++ (made k).opened.map fun a => (a.key, k) := by
  rw [History.add_eq k (made k) fun a ha => hl.seq_lt_of_mem_closed hm ha, History.map_opening_foldl_opened, hm.closed]
  congr 1
  exact closeAll_congr (fun hl _ _ ht => hl.map_opening_close ht _) hl _

/-- The records of a chain tell what its steps have opened. -/
theorem map_opening_take {steps : List Step} (hc : Step.Chain steps) (n : Nat) (hn : n ≤ steps.length) :
    (History.addAll #[] 0 (steps.take n)).toList.map Record.opening = Step.openings 0 (steps.take n) := by
  induction n with
  | zero => rfl
  | succ n ih =>
    have hlt : n < steps.length := hn
    rw [History.addAll_take_succ hlt, Step.take_succ hlt, Step.openings_append, List.length_take_of_le (Nat.le_of_lt hlt),
      Nat.zero_add, Step.openings_singleton, ← ih (Nat.le_of_lt hlt)]
    exact (chain hc n (Nat.le_of_lt hlt)).map_opening_step (hc.madeOn hlt)

end Ledger

namespace Scan

/-- The records of a scan tell what its steps have opened, in order. -/
theorem Replays.map_opening_history {s : Scan} (h : s.Replays) :
    s.history.toList.map Record.opening = Step.openings 0 s.steps.toList := by
  have hall := Ledger.map_opening_take h.chain s.steps.size (Nat.le_refl _)
  rw [List.take_of_length_le (Nat.le_of_eq Array.length_toList)] at hall
  exact hall

/-- What a step has opened are the activations of the records opened on it. -/
theorem Replays.map_key_opened {s : Scan} (h : s.Replays) {n : Nat} {step : Step} (hs : s.steps[n]? = some step) :
    step.opened.map (·.key) = (s.history.openedOn n).map (·.activation.key) := by
  have hget : s.steps.toList[n]? = some step := by simpa using hs
  have hstep := Step.filter_openings_eq hget
  rw [← h.map_opening_history, List.filter_map] at hstep
  have hkeys := congrArg (List.map Prod.fst) hstep
  rw [List.map_map, List.map_map] at hkeys
  exact hkeys.symm

end Scan

/-! ## Turnover -/

/-- What the character closes is the longest run of activations at the top of the stack that it closes. -/
theorem Stack.exists_closing (stack : Stack) (c : Char) (p : Point) :
    ∃ top rest, stack.items = top ++ rest ∧ stack.closing c p = top.map (·.closeAt p) ∧
      (∀ a ∈ top, a.closesOn c) ∧ ∀ a ∈ rest.head?, ¬ a.closesOn c := by
  refine ⟨stack.items.takeWhile (·.closesOn c), stack.items.dropWhile (·.closesOn c), List.takeWhile_append_dropWhile.symm, rfl,
    fun a ha => List.all_eq_true.1 List.all_takeWhile a ha, ?_⟩
  intro a ha
  have hnot := List.head?_dropWhile_not (·.closesOn c) stack.items
  rw [ha] at hnot
  simpa using hnot

/-- What is closed was on the stack. -/
theorem Stack.rule_mem_of_mem_closing {rules : List Rule} {stack : Stack} (h : ∀ a ∈ stack.items, a.rule ∈ rules) (c : Char)
    (p : Point) : ∀ a ∈ stack.closing c p, a.rule ∈ rules := by
  intro a ha
  obtain ⟨x, hx, rfl⟩ := List.mem_map.1 ha
  rw [Activation.closeAt_rule]
  exact h x ((List.takeWhile_sublist _).subset hx)

/-- Every step closes and opens exactly what it should, whatever rules were registered, or refused, on a tokenizer, and whatever
the treatment of blanks and comments, the configuration and the text are. It closes the longest run of activations at the top of
the stack, as it was before the step, whose terminators begin with the character. It opens, in the order of registration and
each once, the registered rules whose symbol is empty or begins with the character, whose matcher, if there is one, accepts it,
and of which the step has not closed an activation. The records tell both. -/
theorem tokenize_turnover (trivia : Trivia) (ops : List Operation) (text : Text) :
    let t := ops.foldl Tokenizer.perform (.withTrivia trivia)
    let s := (t.tokenize text).last
    ∀ (n : Nat) (step : Step), s.steps[n]? = some step →
      step.closed = (s.history.closedOn n).map (·.activation) ∧
      step.opened.map (·.key) = (s.history.openedOn n).map (·.activation.key) ∧
      ∃ r, t.StandsBefore text n step.char r ∧ r.state.cursor.index = step.index ∧
        (∃ top rest, r.state.stack.items = top ++ rest ∧ step.closed = top.map (·.closeAt step.point) ∧
          (∀ a ∈ top, ∃ more, a.rule.terminator.toList = step.char :: more) ∧
          ∀ a ∈ rest.head?, ¬ ∃ more, a.rule.terminator.toList = step.char :: more) ∧
        (step.opened.map (·.rule)).Sublist t.registry.rules ∧ (step.opened.map (·.rule)).Nodup ∧
        ∀ rule, rule ∈ step.opened.map (·.rule) ↔ rule ∈ t.registry.rules ∧
          (rule.symbol = "" ∨ ∃ more, rule.symbol.toList = step.char :: more) ∧
          (∀ matcher, rule.matcher = some matcher → matcher step.char step.index text) ∧
          ∀ a ∈ step.closed, a.rule ≠ rule := by
  intro t s n step hs
  have h : s.Replays := Scan.ofText_replays ..
  have hnames : (t.registry.rules.map (·.name)).Nodup := Tokenizer.nodup_names ops _ .nil
  obtain ⟨hn, hmade⟩ := Scan.getD_steps hs
  refine ⟨hmade ▸ h.ledger.closed_eq hn, h.map_key_opened hs, ?_⟩
  obtain ⟨c, r, hr, rfl⟩ := t.exists_standsBefore text hs
  -- What the step closes is registered, so that the test by name is a test by rule.
  have hclosed := Stack.rule_mem_of_mem_closing hr.rule_mem c r.state.cursor.point
  have hopened : (r.visited t.registry t.trivia text c).opened.map (·.rule) =
      Scan.opening t.registry (r.state.stack.closing c r.state.cursor.point) c r.state.cursor.index text :=
    Scan.map_rule_step ..
  have hsublist : ((r.visited t.registry t.trivia text c).opened.map (·.rule)).Sublist t.registry.rules := by
    rw [hopened]
    exact List.filter_sublist.trans List.filter_sublist
  refine ⟨r, hr, rfl, ?_, hsublist, hnames.of_map.sublist hsublist, fun rule => ?_⟩
  · obtain ⟨top, rest, hitems, hclosing, htop, hrest⟩ := r.state.stack.exists_closing c r.state.cursor.point
    exact ⟨top, rest, hitems, hclosing, fun a ha => (a.closesOn_iff c).1 (htop a ha),
      fun a ha => (not_congr (a.closesOn_iff c)).1 (hrest a ha)⟩
  · rw [hopened, Scan.mem_opening_iff hnames hclosed, Rule.accepts_iff, and_assoc]
    rfl

/-- A rule for quotes. -/
def quote : Rule := { name := "quote", symbol := "\"", terminator := "\"" }

/-- A rule for words in quotes, which end with the quote. -/
def quotedWord : Rule := { name := "word", symbol := "a", terminator := "\"" }

/-- Both rules are registered. Another one for quotes is refused. -/
def quoting : List Operation := [.register quote, .register { quote with symbol := "a" }, .register quotedWord]

/-- The second quote of this text closes the word and the quote around it, and does not open another one, although it could. -/
theorem tokenize_turnover_quoted :
    let t := quoting.foldl Tokenizer.perform (.withTrivia .none)
    ∃ step, (t.tokenize ['"', 'a', '"']).last.steps[2]? = some step ∧ step.closed.map (·.rule.name) = ["word", "quote"] ∧
      quote ∈ t.registry.rules ∧ quote.accepts '"' 2 ['"', 'a', '"'] ∧ quote ∉ step.opened.map (·.rule) := by
  intro t
  have hrules : t.registry.rules = [quote, quotedWord] := rfl
  have hclosed : (t.tokenize ['"', 'a', '"']).last.steps[2]?.map (·.closed.map (·.rule.name)) = some ["word", "quote"] := by
    decide +kernel
  obtain ⟨step, hstep, hnames⟩ := Option.map_eq_some_iff.1 hclosed
  obtain ⟨-, -, r, hr, -, ⟨top, rest, hitems, htop, -⟩, -, -, hopened⟩ :=
    tokenize_turnover .none quoting ['"', 'a', '"'] 2 step hstep
  refine ⟨step, hstep, hnames, by simp [hrules], by decide, ?_⟩
  rw [hopened]
  rintro ⟨-, -, -, hnot⟩
  have hmem : "quote" ∈ step.closed.map (·.rule.name) := by simp [hnames]
  obtain ⟨a, ha, hname⟩ := List.mem_map.1 hmem
  have hrule : a.rule ∈ t.registry.rules := by
    rw [htop] at ha
    obtain ⟨x, hx, rfl⟩ := List.mem_map.1 ha
    rw [Activation.closeAt_rule]
    exact hr.rule_mem x (by rw [hitems]; exact List.mem_append_left rest hx)
  rw [hrules, List.mem_pair] at hrule
  rcases hrule with hquote | hword
  · exact hnot a ha hquote
  · rw [hword] at hname
    exact absurd hname (by decide)

end RuleScanner
