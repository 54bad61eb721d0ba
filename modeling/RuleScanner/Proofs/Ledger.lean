import RuleScanner.Proofs.Run

/-!
# Records and stack

The records of a scan are a second copy of its stack, addressed by number. `Ledger` says how the two agree at any moment of a
scan, also in the midst of a step, and what the records say about each other. A step closes from the top of the stack
(`Ledger.close`) and then opens on top of it (`Ledger.push`). The records take the openings of a step before its closings,
which comes to the same (`History.add_eq`), as only activations opened before are closed. So every chain of steps keeps a
ledger (`Ledger.chain`).
-/

namespace RuleScanner

@[simp] theorem Activation.closeAt_seq (a : Activation) (p : Point) : (a.closeAt p).seq = a.seq := by
  unfold closeAt
  split <;> rfl

@[simp] theorem Activation.closeAt_rule (a : Activation) (p : Point) : (a.closeAt p).rule = a.rule := by
  unfold closeAt
  split <;> rfl

/-! ## The records of a step -/

namespace History

@[simp] theorem size_opened (k : Nat) (h : History) (a : Activation) : (opened k h a).size = h.size + 1 := Array.size_push ..

@[simp] theorem size_closed (k : Nat) (h : History) (a : Activation) : (closed k h a).size = h.size := Array.size_modify

theorem toList_opened (k : Nat) (h : History) (a : Activation) :
    (opened k h a).toList = h.toList ++ [{ activation := a, openedAt := k }] := Array.toList_push

/-- Closing an activation changes the record of its number alone. -/
theorem toList_closed {k : Nat} {h : History} {a : Activation} {before after : List Record} {r : Record}
    (hh : h.toList = before ++ r :: after) (ha : before.length = a.seq) :
    (closed k h a).toList = before ++ { r with activation := a, closedAt := some k } :: after := by
  rw [closed, Array.toList_modify, hh, ← ha, List.modify_eq_take_cons_drop (by simp)]
  simp

/-- An activation that has a record can be closed before or after another is opened. -/
theorem closed_opened {k : Nat} {h : History} {a b : Activation} (hb : b.seq < h.size) :
    closed k (opened k h a) b = opened k (closed k h b) a := by
  have hl : b.seq < h.toList.length := hb
  apply Array.toList_inj.1
  rw [toList_opened, closed, closed, Array.toList_modify, Array.toList_modify, toList_opened,
    List.modify_eq_take_cons_drop hl, List.modify_eq_take_cons_drop (by simp; omega), List.take_append_of_le_length (by omega),
    List.drop_append_of_le_length (by omega), List.getElem_append_left hl]
  simp

theorem closed_foldl_opened {k : Nat} {b : Activation} (as : List Activation) {h : History} (hb : b.seq < h.size) :
    closed k (as.foldl (opened k) h) b = as.foldl (opened k) (closed k h b) := by
  induction as generalizing h with
  | nil => rfl
  | cons a as ih => rw [List.foldl_cons, List.foldl_cons, ih (by simp; omega), closed_opened hb]

/-- The records after a step do not depend on whether its openings or its closings are taken first, if all that it closes has
been opened before. -/
theorem add_eq (k : Nat) (step : Step) {h : History} (hs : ∀ a ∈ step.closed, a.seq < h.size) :
    h.add k step = step.opened.foldl (opened k) (step.closed.foldl (closed k) h) := by
  rw [add]
  generalize step.closed = bs at hs
  induction bs generalizing h with
  | nil => rfl
  | cons b bs ih =>
    rw [List.foldl_cons, List.foldl_cons, closed_foldl_opened _ (hs b (by simp))]
    exact ih (fun a ha => by simpa using hs a (List.mem_cons_of_mem b ha))

theorem addAll_append (h : History) (k : Nat) (steps : List Step) (step : Step) :
    h.addAll k (steps ++ [step]) = (h.addAll k steps).add (k + steps.length) step := by
  induction steps generalizing h k with
  | nil => rfl
  | cons first steps ih =>
    rw [List.cons_append, addAll, ih, addAll, List.length_cons]
    congr 1
    omega

end History

/-! ## The next step of a chain -/

section

variable {steps : List Step} {n : Nat}

theorem Step.take_succ (hn : n < steps.length) : steps.take (n + 1) = steps.take n ++ [steps.getD n default] := by
  rw [List.take_succ_eq_append_getElem hn, List.getElem_eq_getD default]

theorem Step.Chain.madeOn (hc : Chain steps) (hn : n < steps.length) :
    (steps.getD n default).MadeOn ((steps.take n).foldl Stack.after .empty) := by
  have hmade := hc n _ (List.getElem?_eq_getElem hn)
  rw [List.getElem_eq_getD default] at hmade
  exact hmade

theorem History.addAll_take_succ (hn : n < steps.length) :
    addAll #[] 0 (steps.take (n + 1)) = (addAll #[] 0 (steps.take n)).add n (steps.getD n default) := by
  rw [Step.take_succ hn, addAll_append, List.length_take_of_le (Nat.le_of_lt hn), Nat.zero_add]

end

/-! ## The stacks on which activations are pushed -/

/-- The stacks on which the rules are pushed at `p`, one after the other. -/
def Stack.bases (p : Point) : List Rule → Stack → List Stack
  | [], _ => []
  | rule :: rules, stack => stack :: bases p rules (stack.push rule p)

/-- The stacks on which the steps have pushed their activations, in the order of the pushes, if the first step has found
`stack`. -/
def Step.bases : List Step → Stack → List Stack
  | [], _ => []
  | step :: steps, stack =>
    Stack.bases step.point (step.opened.map (·.rule)) (stack.close step.char) ++ bases steps (stack.after step)

theorem Step.bases_append (steps : List Step) (step : Step) (stack : Stack) :
    bases (steps ++ [step]) stack =
      bases steps stack ++
        Stack.bases step.point (step.opened.map (·.rule)) ((steps.foldl Stack.after stack).close step.char) := by
  induction steps generalizing stack with
  | nil => simp [bases]
  | cons first steps ih => simp [bases, ih]

/-! ## The ledger -/

/-- The activation of the record is what the steps have made of it: it was opened at the point of the one step and, if it is
closed, closed at the point of the other. -/
def Record.Located (made : Nat → Step) (r : Record) : Prop :=
  match r.closedAt with
  | none => r.activation = .opening r.activation.rule (made r.openedAt).point r.activation.seq
  | some n =>
    r.activation =
      (Activation.opening r.activation.rule (made r.openedAt).point r.activation.seq).closeAt (made n).point

/-- The stack, the stacks on which activations were pushed and the records in the midst of step `k` of the steps `made`. The
step has closed the activations `now` so far, and what was opened was opened on a step before `bound`. -/
structure Ledger (made : Nat → Step) (k bound : Nat) (now : List Activation) (stack : Stack) (bases : List Stack)
    (records : List Record) : Prop where
  /-- The records are numbered in order. -/
  numbered : records.map (·.activation.seq) = List.range stack.pushed
  /-- The stack holds the activations that are not closed, the latest on top. -/
  items : stack.items.reverse = (records.filter (·.closedAt.isNone)).map (·.activation)
  openedAt : ∀ r ∈ records, r.openedAt < bound
  closedAt : ∀ r ∈ records, ∀ n ∈ r.closedAt, r.openedAt < n ∧ n ≤ k
  located : ∀ r ∈ records, r.Located made
  /-- Of two activations the later one is opened when the earlier one is closed, or is closed by then. -/
  nested : records.Pairwise fun a b => ∀ n ∈ a.closedAt, n ≤ b.openedAt ∨ ∃ m ∈ b.closedAt, m ≤ n
  /-- What a step has closed are the activations whose records say so, the latest first. -/
  emitted : ∀ n < k, (records.filter (·.closedAt == some n)).map (·.activation) = (made n).closed.reverse
  emittedNow : (records.filter (·.closedAt == some k)).map (·.activation) = now.reverse
  length_bases : bases.length = records.length
  /-- An activation was pushed on those opened before it and not closed up to the step on which it was opened. -/
  based : ∀ (j : Nat) (b : Record) (base : Stack), records[j]? = some b → bases[j]? = some base → base.pushed = j ∧
    ∀ i, (∃ x ∈ base.items, x.seq = i) ↔ i < j ∧ ∃ a : Record, records[i]? = some a ∧ a.closedAt.all (b.openedAt < ·)

namespace Ledger

variable {made : Nat → Step} {k bound : Nat} {now : List Activation} {stack : Stack} {bases : List Stack}
  {records : List Record}

theorem empty (made : Nat → Step) : Ledger made 0 0 [] .empty [] [] where
  numbered := rfl
  items := rfl
  openedAt := by simp
  closedAt := by simp
  located := by simp
  nested := .nil
  emitted := by simp
  emittedNow := rfl
  length_bases := rfl
  based := by simp

theorem length_records (h : Ledger made k bound now stack bases records) : records.length = stack.pushed := by
  rw [← List.length_map, h.numbered, List.length_range]

/-- The number of an activation is the place of its record. -/
theorem seq_eq (h : Ledger made k bound now stack bases records) {i : Nat} {r : Record} (hr : records[i]? = some r) :
    r.activation.seq = i := by
  have hi := congrArg (·[i]?) h.numbered
  simp only [List.getElem?_map, hr, Option.map_some] at hi
  exact (List.getElem?_eq_some_iff.1 hi.symm).2.symm.trans (by simp)

/-- The records stand in the order of their numbers. -/
theorem pairwise_seq (h : Ledger made k bound now stack bases records) :
    records.Pairwise fun a b => a.activation.seq < b.activation.seq := by
  rw [← List.pairwise_map (f := fun r : Record => r.activation.seq), h.numbered]
  exact List.pairwise_lt_range

/-- An activation of which `p` holds is found in the record at its number. -/
theorem mem_map_filter_iff (h : Ledger made k bound now stack bases records) (p : Record → Bool) (x : Activation) :
    x ∈ (records.filter p).map (·.activation) ↔ ∃ r, records[x.seq]? = some r ∧ r.activation = x ∧ p r := by
  rw [List.mem_map]
  constructor
  · rintro ⟨r, hr, rfl⟩
    obtain ⟨hr, hp⟩ := List.mem_filter.1 hr
    obtain ⟨i, hi⟩ := List.mem_iff_getElem?.1 hr
    exact ⟨r, by rw [h.seq_eq hi]; exact hi, rfl, hp⟩
  · rintro ⟨r, hr, rfl, hp⟩
    exact ⟨r, List.mem_filter.2 ⟨List.mem_of_getElem? hr, hp⟩, rfl⟩

/-- The activations on the stack are those of the records that are not closed. -/
theorem mem_items_iff (h : Ledger made k bound now stack bases records) (x : Activation) :
    x ∈ stack.items ↔ ∃ r, records[x.seq]? = some r ∧ r.activation = x ∧ r.closedAt = none := by
  rw [← List.mem_reverse, h.items, h.mem_map_filter_iff]
  simp only [Option.isNone_iff_eq_none]

/-- The numbers on the stack are those of the records that are not closed up to this step. -/
theorem exists_mem_items_iff (h : Ledger made k bound now stack bases records) (i : Nat) :
    (∃ x ∈ stack.items, x.seq = i) ↔ ∃ a, records[i]? = some a ∧ a.closedAt.all (k < ·) := by
  constructor
  · rintro ⟨x, hx, rfl⟩
    obtain ⟨r, hr, -, hopen⟩ := (h.mem_items_iff x).1 hx
    exact ⟨r, hr, by simp [hopen]⟩
  · rintro ⟨a, ha, hall⟩
    have hopen : a.closedAt = none := by
      cases hc : a.closedAt with
      | none => rfl
      | some n =>
        have := (h.closedAt a (List.mem_of_getElem? ha) n hc).2
        simp only [hc, Option.all_some, decide_eq_true_eq] at hall
        omega
    have hs := h.seq_eq ha
    exact ⟨a.activation, (h.mem_items_iff _).2 ⟨a, by rw [hs]; exact ha, rfl, hopen⟩, hs⟩

/-- The record of the top of the stack: it is not closed, and all records after it are. -/
theorem top (h : Ledger made k bound now stack bases records) {a : Activation} {rest : List Activation}
    (ht : stack.items = a :: rest) :
    ∃ before r after, records = before ++ r :: after ∧ r.activation = a ∧ r.closedAt = none ∧ before.length = a.seq ∧
      (before.filter (·.closedAt.isNone)).map (·.activation) = rest.reverse ∧ ∀ x ∈ after, x.closedAt.isSome := by
  have hi := h.items
  rw [ht, List.reverse_cons, eq_comm, List.map_eq_append_iff] at hi
  obtain ⟨front, back, hf, hrest, hback⟩ := hi
  obtain ⟨r, rfl, hr⟩ := List.map_eq_singleton_iff.1 hback
  obtain ⟨before, tail, rfl, rfl, htail⟩ := List.filter_eq_append_iff.1 hf
  obtain ⟨skipped, after, rfl, hskipped, hopen, hafter⟩ := List.filter_eq_cons_iff.1 htail
  refine ⟨before ++ skipped, r, after, by simp, hr, by simpa using hopen, ?_, ?_, ?_⟩
  · have hs := h.seq_eq (i := (before ++ skipped).length) (r := r) (by simp)
    rw [← hs, hr]
  · rw [List.filter_append, List.filter_eq_nil_iff.2 hskipped, List.append_nil, hrest]
  · intro x hx
    simpa [Option.isSome_iff_ne_none] using List.filter_eq_nil_iff.1 hafter x hx

/-- What holds of every member of a list holds so after one member is replaced by another of which it holds. -/
theorem forall_mem_replace {P : Record → Prop} {before after : List Record} {r r' : Record}
    (h : ∀ x ∈ before ++ r :: after, P x) (hr : P r') : ∀ x ∈ before ++ r' :: after, P x := by
  rw [List.forall_mem_append, List.forall_mem_cons] at h ⊢
  exact ⟨h.1, hr, h.2.2⟩

/-- What is so of a member of a list, found by its place, is so after one member is replaced by another that has it in common. -/
theorem exists_getElem?_replace {P : Record → Prop} {before after : List Record} {r r' : Record} (h : P r ↔ P r') (i : Nat) :
    (∃ a, (before ++ r :: after)[i]? = some a ∧ P a) ↔ ∃ a, (before ++ r' :: after)[i]? = some a ∧ P a := by
  simp only [List.getElem?_append, List.getElem?_cons]
  split
  · rfl
  · split
    · simpa using h
    · rfl

/-- Closing the top of the stack at the point of the step, before the step has opened anything, keeps the ledger. -/
theorem close {h : History} (hl : Ledger made k k now stack bases h.toList) {a : Activation} {rest : List Activation}
    (ht : stack.items = a :: rest) :
    Ledger made k k (now ++ [a.closeAt (made k).point]) { stack with items := rest } bases
      (h.closed k (a.closeAt (made k).point)).toList := by
  obtain ⟨before, r, after, hh, rfl, hopen, hseq, hrest, hafter⟩ := hl.top ht
  rw [History.toList_closed hh (by simpa using hseq)]
  have hr : r ∈ h.toList := by simp [hh]
  have hro := hl.openedAt r hr
  have hloc := hl.located r hr
  rw [Record.Located, hopen] at hloc
  obtain ⟨hn, hi, ho, hc, hlocated, hnest, he, hnow, hlen, hbased⟩ := hl
  rw [hh] at hn hi ho hc hlocated hnest he hnow hlen hbased
  rw [List.pairwise_append, List.pairwise_cons] at hnest
  obtain ⟨hbefore, ⟨hra, hafterafter⟩, hcross⟩ := hnest
  -- An earlier record that is closed was closed before this one was opened.
  have hearlier : ∀ x ∈ before, ∀ n ∈ x.closedAt, n ≤ r.openedAt := by
    intro x hx n hxn
    rcases hcross x hx r (by simp) n hxn with hle | ⟨m, hm, -⟩
    · exact hle
    · simp [hopen] at hm
  constructor
  case numbered =>
    simpa using hn
  case items =>
    have hnil : after.filter (·.closedAt.isNone) = [] := by
      rw [List.filter_eq_nil_iff]
      intro x hx
      have := hafter x hx
      simpa [Option.isSome_iff_ne_none] using this
    simp [hnil, hrest]
  case openedAt =>
    exact forall_mem_replace ho hro
  case closedAt =>
    refine forall_mem_replace hc ?_
    rintro n ⟨⟩
    exact ⟨hro, Nat.le_refl _⟩
  case located =>
    refine forall_mem_replace hlocated ?_
    simp only [Record.Located, Activation.closeAt_rule, Activation.closeAt_seq]
    rw [← hloc]
  case nested =>
    rw [List.pairwise_append, List.pairwise_cons]
    refine ⟨hbefore, ⟨?_, hafterafter⟩, ?_⟩
    · rintro y hy n ⟨⟩
      obtain ⟨m, hm⟩ := Option.isSome_iff_exists.1 (hafter y hy)
      exact Or.inr ⟨m, hm, (hc y (by simp [hy]) m hm).2⟩
    · intro x hx y hy n hn
      rcases List.mem_cons.1 hy with rfl | hy
      · exact Or.inl (hearlier x hx n hn)
      · exact hcross x hx y (List.mem_cons_of_mem r hy) n hn
  case emitted =>
    intro n hn
    have hne : k ≠ n := by omega
    rw [← he n hn]
    simp [List.filter_append, hopen, hne]
  case emittedNow =>
    have hnil : before.filter (·.closedAt == some k) = [] := by
      rw [List.filter_eq_nil_iff]
      intro x hx hxk
      have := hearlier x hx k (by simpa using hxk)
      omega
    rw [List.reverse_append, ← hnow]
    simp [hnil, hopen]
  case length_bases =>
    simpa using hlen
  case based =>
    intro j b' base hb' hbase
    -- Whatever was opened before this step counts its closing as later.
    obtain ⟨b, hb, hbo⟩ := (exists_getElem?_replace (P := (·.openedAt = b'.openedAt)) (r := r) (by rfl) j).2 ⟨b', hb', rfl⟩
    obtain ⟨hpushed, hiff⟩ := hbased j b base hb hbase
    refine ⟨hpushed, fun i => ?_⟩
    have hlt : b'.openedAt < k := hbo ▸ ho b (List.mem_of_getElem? hb)
    rw [hiff i, hbo, exists_getElem?_replace]
    simp [hopen, hlt]

/-- Opening a rule at the point of the step keeps the ledger. -/
theorem push {h : History} (hl : Ledger made k (k + 1) now stack bases h.toList) (rule : Rule) :
    Ledger made k (k + 1) now (stack.push rule (made k).point) (bases ++ [stack])
      (h.opened k (stack.next rule (made k).point)).toList := by
  rw [History.toList_opened]
  constructor
  case numbered =>
    simp [hl.numbered, Stack.push, Stack.next, Activation.opening, List.range_succ]
  case items =>
    simp [hl.items, Stack.push]
  case openedAt =>
    rw [List.forall_mem_append]
    exact ⟨hl.openedAt, by simp⟩
  case closedAt =>
    rw [List.forall_mem_append]
    exact ⟨hl.closedAt, by simp⟩
  case located =>
    rw [List.forall_mem_append, List.forall_mem_singleton]
    exact ⟨hl.located, rfl⟩
  case nested =>
    rw [List.pairwise_append]
    refine ⟨hl.nested, List.pairwise_singleton _ _, ?_⟩
    intro r hr new hnew n hn
    rw [List.mem_singleton.1 hnew]
    exact Or.inl (hl.closedAt r hr n hn).2
  case emitted =>
    intro n hn
    rw [← hl.emitted n hn]
    simp
  case emittedNow =>
    rw [← hl.emittedNow]
    simp
  case length_bases =>
    simp [hl.length_bases]
  case based =>
    intro j b base hb hbase
    rcases Nat.lt_or_ge j h.toList.length with hj | hj
    · rw [List.getElem?_append_left hj] at hb
      rw [List.getElem?_append_left (by rw [hl.length_bases]; exact hj)] at hbase
      obtain ⟨hpushed, hiff⟩ := hl.based j b base hb hbase
      refine ⟨hpushed, fun i => (hiff i).trans (and_congr_right fun hi => ?_)⟩
      rw [List.getElem?_append_left (by omega)]
    · have hje : j = h.toList.length := by
        have := (List.getElem?_eq_some_iff.1 hb).1
        simp only [List.length_append, List.length_singleton] at this
        omega
      rw [hje, List.getElem?_concat_length] at hb
      rw [hje, ← hl.length_bases, List.getElem?_concat_length] at hbase
      cases hb
      cases hbase
      refine ⟨by rw [hje, hl.length_records], fun i => ?_⟩
      rw [hl.exists_mem_items_iff i]
      constructor
      · rintro ⟨a, ha, hall⟩
        have hi := (List.getElem?_eq_some_iff.1 ha).1
        exact ⟨by omega, a, by rw [List.getElem?_append_left hi]; exact ha, hall⟩
      · rintro ⟨hi, a, ha, hall⟩
        rw [List.getElem?_append_left (by omega)] at ha
        exact ⟨a, ha, hall⟩

/-- Closing all that the character `c` closes at the point of the step keeps the ledger. -/
theorem closeAll {h : History} (hl : Ledger made k k now stack bases h.toList) (c : Char) :
    Ledger made k k (now ++ stack.closing c (made k).point) (stack.close c) bases
      ((stack.closing c (made k).point).foldl (History.closed k) h).toList := by
  obtain ⟨items, pushed⟩ := stack
  induction items generalizing now h with
  | nil => simpa [Stack.closing, Stack.close] using hl
  | cons a rest ih =>
    by_cases hc : a.closesOn c
    · simpa [Stack.closing, Stack.close, hc] using ih (hl.close rfl)
    · simpa [Stack.closing, Stack.close, hc] using hl

/-- What closing the top of the stack leaves as it is in the records, closing all that the character `c` closes leaves as it is. -/
theorem closeAll_congr {α : Type} {f : List Record → α}
    (hf : ∀ {now : List Activation} {stack : Stack} {h : History}, Ledger made k k now stack bases h.toList →
      ∀ {a : Activation} {rest : List Activation}, stack.items = a :: rest →
        f (h.closed k (a.closeAt (made k).point)).toList = f h.toList)
    {h : History} (hl : Ledger made k k now stack bases h.toList) (c : Char) :
    f ((stack.closing c (made k).point).foldl (History.closed k) h).toList = f h.toList := by
  obtain ⟨items, pushed⟩ := stack
  induction items generalizing now h with
  | nil => rfl
  | cons a rest ih =>
    by_cases hc : a.closesOn c
    · rw [← hf hl rfl, ← ih (hl.close rfl)]
      simp [Stack.closing, hc]
    · simp [Stack.closing, hc]

/-- Opening rules in order at the point of the step keeps the ledger. -/
theorem openAll {h : History} (hl : Ledger made k (k + 1) now stack bases h.toList) (rules : List Rule) :
    Ledger made k (k + 1) now (Scan.openAll (made k).point rules stack).2
      (bases ++ Stack.bases (made k).point rules stack)
      ((Scan.openAll (made k).point rules stack).1.foldl (History.opened k) h).toList := by
  induction rules generalizing stack bases h with
  | nil => simpa [Scan.openAll, Stack.bases] using hl
  | cons rule rules ih => simpa [Scan.openAll, Stack.bases] using ih (hl.push rule)

theorem mono {bound' : Nat} (hl : Ledger made k bound now stack bases records) (hb : bound ≤ bound') :
    Ledger made k bound' now stack bases records :=
  { hl with openedAt := fun r hr => Nat.lt_of_lt_of_le (hl.openedAt r hr) hb }

/-- When a step has closed and opened all that it does, the ledger stands before the next step. -/
theorem finish (hl : Ledger made k (k + 1) (made k).closed stack bases records) :
    Ledger made (k + 1) (k + 1) [] stack bases records where
  numbered := hl.numbered
  items := hl.items
  openedAt := hl.openedAt
  closedAt := fun r hr n hn => ⟨(hl.closedAt r hr n hn).1, Nat.le_succ_of_le (hl.closedAt r hr n hn).2⟩
  located := hl.located
  nested := hl.nested
  emitted := by
    intro n hn
    rcases Nat.lt_succ_iff_lt_or_eq.1 hn with hn | rfl
    · exact hl.emitted n hn
    · exact hl.emittedNow
  emittedNow := by
    rw [List.reverse_nil, List.map_eq_nil_iff, List.filter_eq_nil_iff]
    intro r hr hrk
    have := (hl.closedAt r hr (k + 1) (by simpa using hrk)).2
    omega
  length_bases := hl.length_bases
  based := hl.based

/-- What a step on the stack closes has a record. -/
theorem seq_lt_of_mem_closed (hl : Ledger made k bound now stack bases records) {step : Step} (hm : step.MadeOn stack)
    {a : Activation} (ha : a ∈ step.closed) : a.seq < records.length := by
  rw [hm.closed, Stack.closing, List.mem_map] at ha
  obtain ⟨x, hx, rfl⟩ := ha
  obtain ⟨r, hr, -⟩ := (hl.mem_items_iff x).1 ((List.takeWhile_sublist _).subset hx)
  simpa using (List.getElem?_eq_some_iff.1 hr).1

/-- A step on the stack keeps the ledger. -/
theorem step {h : History} (hl : Ledger made k k [] stack bases h.toList) (hm : (made k).MadeOn stack) :
    Ledger made (k + 1) (k + 1) [] (stack.after (made k))
      (bases ++ Stack.bases (made k).point ((made k).opened.map (·.rule)) (stack.close (made k).char))
      (h.add k (made k)).toList := by
  have hc := hl.closeAll (made k).char
  rw [List.nil_append, ← hm.closed] at hc
  have ho := openAll (hc.mono (Nat.le_succ k)) ((made k).opened.map (·.rule))
  rw [← hm.opened] at ho
  rw [History.add_eq k (made k) fun a ha => hl.seq_lt_of_mem_closed hm ha]
  exact ho.finish

/-- A chain of steps keeps a ledger from its first step to its last. -/
theorem chain {steps : List Step} (hc : Step.Chain steps) (n : Nat) (hn : n ≤ steps.length) :
    Ledger (steps.getD · default) n n [] ((steps.take n).foldl Stack.after .empty) (Step.bases (steps.take n) .empty)
      (History.addAll #[] 0 (steps.take n)).toList := by
  induction n with
  | zero => exact empty _
  | succ n ih =>
    rw [History.addAll_take_succ hn, Step.take_succ hn, List.foldl_append, Step.bases_append]
    exact (ih (Nat.le_of_succ_le hn)).step (hc.madeOn hn)

/-- Between two steps every step on which a record is closed is over. -/
theorem closedAt_lt (h : Ledger made k k [] stack bases records) {r : Record} (hr : r ∈ records) {n : Nat} (hn : n ∈ r.closedAt) :
    n < k := by
  rcases Nat.lt_or_eq_of_le (h.closedAt r hr n hn).2 with hlt | rfl
  · exact hlt
  · have hnil := List.map_eq_nil_iff.1 h.emittedNow
    exact absurd (by simpa using hn) (List.filter_eq_nil_iff.1 hnil r hr)

/-- What a step has closed is the activation of a record that says so, and no other is. -/
theorem mem_closed_iff (h : Ledger made k bound now stack bases records) {n : Nat} (hn : n < k) (a : Activation) :
    a ∈ (made n).closed ↔ ∃ r, records[a.seq]? = some r ∧ r.activation = a ∧ r.closedAt = some n := by
  rw [← List.mem_reverse, ← h.emitted n hn, h.mem_map_filter_iff]
  simp only [beq_iff_eq]

/-- Of two activations closed on one step the later one is closed first. -/
theorem closed_sublist (h : Ledger made k bound now stack bases records) {n i j : Nat} (hn : n < k) (hij : i < j) {a b : Record}
    (ha : records[i]? = some a) (hb : records[j]? = some b) (han : a.closedAt = some n) (hbn : b.closedAt = some n) :
    [b.activation, a.activation].Sublist (made n).closed := by
  have hab : ([a] ++ [b]).Sublist records := by
    rw [← List.take_append_drop j records]
    refine List.Sublist.append ?_ ?_
    · rw [List.singleton_sublist, List.mem_iff_getElem?]
      exact ⟨i, by rw [List.getElem?_take_of_lt hij, ha]⟩
    · rw [List.singleton_sublist, List.mem_iff_getElem?]
      exact ⟨0, by rw [List.getElem?_drop, Nat.add_zero, hb]⟩
  have hs := ((hab.filter (·.closedAt == some n)).map (·.activation)).reverse
  rw [h.emitted n hn, List.reverse_reverse] at hs
  simpa [han, hbn] using hs

/-- What the first `n` steps have closed are the activations of the records closed before step `n`, each one once. -/
theorem closed_perm (h : Ledger made k bound now stack bases records) (n : Nat) (hn : n ≤ k) :
    ((List.range n).flatMap fun m => (made m).closed).Perm ((records.filter (·.closedAt.any (· < n))).map (·.activation)) := by
  induction n with
  | zero => simp
  | succ n ih =>
    rw [List.range_succ, List.flatMap_append, List.flatMap_singleton]
    have hsplit := List.filter_append_perm (·.closedAt.any (· < n)) (records.filter (·.closedAt.any (· < n + 1)))
    rw [List.filter_filter, List.filter_filter] at hsplit
    refine ((ih (by omega)).append ((List.reverse_perm _).symm.trans (.of_eq (h.emitted n (by omega)).symm))).trans ?_
    rw [← List.map_append]
    refine List.Perm.map _ (.trans (.of_eq ?_) hsplit)
    congr 1
    · refine List.filter_congr fun r _ => ?_
      cases r.closedAt with
      | none => rfl
      | some m => simp; omega
    · refine List.filter_congr fun r _ => ?_
      cases r.closedAt with
      | none => rfl
      | some m => rw [Bool.eq_iff_iff]; simp; omega

end Ledger

/-! ## The ledger of a scan -/

namespace Scan

/-- The stacks on which the activations of a scan were pushed, in the order of the pushes. -/
def bases (s : Scan) : List Stack := Step.bases s.steps.toList .empty

/-- The records of a scan before its step `n`. -/
def historyBefore (s : Scan) (n : Nat) : History := History.addAll #[] 0 (s.steps.toList.take n)

theorem getD_steps {s : Scan} {n : Nat} {step : Step} (h : s.steps[n]? = some step) :
    n < s.steps.size ∧ s.steps.toList.getD n default = step := by
  obtain ⟨hn, he⟩ := Array.getElem?_eq_some_iff.1 h
  exact ⟨hn, by simp [List.getD_eq_getElem?_getD, h]⟩

theorem flatMap_getD_steps {α : Type} (s : Scan) (f : Step → List α) :
    ((List.range s.steps.size).flatMap fun n => f (s.steps.toList.getD n default)) = s.steps.toList.flatMap f := by
  have hmap : (List.range s.steps.size).map (s.steps.toList.getD · default) = s.steps.toList := by
    refine List.ext_getElem (by simp) fun n _ hn => ?_
    rw [List.getElem_map, List.getElem_range, List.getD_eq_getElem?_getD, List.getElem?_eq_getElem hn, Option.getD_some]
  rw [← List.flatMap_map, hmap]

/-- Before each of its steps a scan has a ledger. -/
theorem Replays.ledgerBefore {s : Scan} (h : s.Replays) (n : Nat) (hn : n ≤ s.steps.size) :
    Ledger (s.steps.toList.getD · default) n n [] ((s.steps.toList.take n).foldl Stack.after .empty)
      (Step.bases (s.steps.toList.take n) .empty) (s.historyBefore n).toList :=
  Ledger.chain h.chain n hn

/-- At its end a scan has a ledger. -/
theorem Replays.ledger {s : Scan} (h : s.Replays) :
    Ledger (s.steps.toList.getD · default) s.steps.size s.steps.size [] s.stack s.bases s.history.toList := by
  have hl := h.ledgerBefore _ (Nat.le_refl _)
  rw [historyBefore, List.take_of_length_le (Nat.le_of_eq Array.length_toList), ← h.stack] at hl
  exact hl

end Scan

end RuleScanner
