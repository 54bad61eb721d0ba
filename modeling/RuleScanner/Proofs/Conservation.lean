import Mathlib.Data.List.Induction
import RuleScanner.Proofs.Sweep
import RuleScanner.Proofs.Visits

/-!
# A stack loses and invents nothing

A stack can be used in any way: rules are pushed, among them rules that could not be registered, characters close what they can,
and all is cleared, in any order. An account of such a use keeps, beside the stack, what the pushes have opened and what each closing
has returned since the last clear. It stays balanced (`Stack.Account.Balanced.perform`): what is on the stack and what was returned
are together what was opened, each once, and the stack has it in the order of its numbers.

What a character closes does not depend on how the stack was used: it is the longest run at the top whose terminators begin with
the character (`Stack.isPrefix_takeWhile`). An activation without a terminator ends every such run, and so keeps what is below it.
-/

namespace RuleScanner

namespace Activation

/-- An activation that is closed, and was as it had been opened, is so again when it is reopened. -/
theorem reopen_closeAt {a : Activation} (h : a.reopen = a) (p : Point) : (a.closeAt p).reopen = a := by
  calc (a.closeAt p).reopen = (a.reopen.closeAt p).reopen := by rw [h]
    _ = a.reopen := reopen_closeAt_opening ..
    _ = a := h

/-- Closing an activation sets the end that is open, and nothing else. -/
theorem closeAt_eq (a : Activation) (p : Point) :
    a.closeAt p = { a with
      location := match a.rule.direction with
        | .right => ⟨a.location.start, p⟩
        | .left => ⟨p, a.location.stop⟩ } := by
  unfold closeAt
  cases a.rule.direction <;> rfl

end Activation

namespace Stack

/-! ## What a character closes -/

section

variable {items run : List Activation} {c : Char}

/-- A run at the top of the stack that the character closes is part of the one that it does close. -/
theorem isPrefix_takeWhile (hrun : run <+: items) (hc : ∀ a ∈ run, a.closesOn c) : run <+: items.takeWhile (·.closesOn c) := by
  obtain ⟨rest, rfl⟩ := hrun
  rw [List.takeWhile_append_of_pos hc]
  exact List.prefix_append ..

/-- An activation that the character does not close stays on the stack, with all that is below it. -/
theorem isSuffix_dropWhile {a : Activation} {below : List Activation} (hbelow : a :: below <:+ items) (ha : ¬ a.closesOn c) :
    a :: below <:+ items.dropWhile (·.closesOn c) := by
  obtain ⟨above, rfl⟩ := hbelow
  have hstays : (a :: below).dropWhile (·.closesOn c) = a :: below := List.dropWhile_cons_of_neg ha
  rw [List.dropWhile_append, hstays]
  split
  · exact List.suffix_refl _
  · exact List.suffix_append ..

theorem not_closesOn_of_terminator {a : Activation} (h : a.rule.terminator = "") (c : Char) : ¬ a.closesOn c := by
  rw [Activation.closesOn_iff, h]
  simp

end

/-! ## Accounts -/

/-- What can be done to a stack. -/
inductive Operation where
  /-- An activation of the rule is opened at the point. -/
  | push (rule : Rule) (p : Point)
  /-- The character at the point closes what it can. -/
  | close (c : Char) (p : Point)
  /-- The stack is emptied, and the numbers start again. -/
  | clear

namespace Operation

/-- The operation empties the stack. -/
def isClear : Operation → Bool
  | .clear => true
  | _ => false

/-- The rule and the point of a push. -/
def push? : Operation → Option (Rule × Point)
  | .push rule p => some (rule, p)
  | _ => none

/-- The rules pushed since the last clear, each with the point of its push, in order. -/
def pushes (ops : List Operation) : List (Rule × Point) :=
  ((ops.reverse.takeWhile (!·.isClear)).reverse).filterMap push?

theorem pushes_concat (ops : List Operation) (op : Operation) :
    pushes (ops ++ [op]) = if op.isClear then [] else pushes ops ++ op.push?.toList := by
  unfold pushes
  rw [List.reverse_concat, List.takeWhile_cons]
  cases op.isClear with
  | true => rfl
  | false => cases h : op.push? <;> simp [h]

end Operation

/-- A stack in use, with the activations that the pushes have opened and what each closing has returned, in order and since the
last clear. -/
structure Account where
  stack : Stack := .empty
  opened : List Activation := []
  returned : List (List Activation) := []

namespace Account

/-- The account after an operation. -/
def perform (u : Account) : Operation → Account
  | .push rule p => { u with stack := u.stack.push rule p, opened := u.opened ++ [u.stack.next rule p] }
  | .close c p => { u with stack := u.stack.close c, returned := u.returned ++ [u.stack.closing c p] }
  | .clear => {}

/-- The account of a stack on which the operations were performed, from an empty one on. -/
def ofOperations (ops : List Operation) : Account := ops.foldl perform {}

/-- The account of a stack is balanced. -/
structure Balanced (u : Account) : Prop where
  /-- The activations are numbered in the order in which they were opened. -/
  numbered : u.opened.map (·.seq) = List.range u.stack.pushed
  /-- What was opened has one open end. -/
  halfOpen : ∀ a ∈ u.opened, a.reopen = a
  /-- The later of two activations is above the earlier. -/
  ordered : u.stack.items.Pairwise fun a b => b.seq < a.seq
  /-- What is on the stack and what was returned are together what was opened. -/
  accounted : (u.stack.items ++ u.returned.flatten.map (·.reopen)).Perm u.opened

namespace Balanced

variable {u : Account}

theorem initial : Balanced {} where
  numbered := rfl
  halfOpen := by simp
  ordered := .nil
  accounted := .nil

theorem mem_opened (h : u.Balanced) {a : Activation} (ha : a ∈ u.stack.items) : a ∈ u.opened :=
  h.accounted.subset (List.mem_append_left _ ha)

theorem seq_lt (h : u.Balanced) {a : Activation} (ha : a ∈ u.stack.items) : a.seq < u.stack.pushed := by
  have hmem := List.mem_map_of_mem (f := fun x : Activation => x.seq) (h.mem_opened ha)
  rwa [h.numbered, List.mem_range] at hmem

theorem push (h : u.Balanced) (rule : Rule) (p : Point) : (u.perform (.push rule p)).Balanced where
  numbered := by
    show (u.opened ++ [u.stack.next rule p]).map (·.seq) = List.range (u.stack.pushed + 1)
    rw [List.map_append, h.numbered, List.range_succ]
    rfl
  halfOpen := by
    intro a ha
    rcases List.mem_append.1 ha with ha | ha
    · exact h.halfOpen a ha
    · rw [List.mem_singleton.1 ha]
      exact Activation.reopen_opening ..
  ordered := List.pairwise_cons.2 ⟨fun _ ha => h.seq_lt ha, h.ordered⟩
  accounted := (h.accounted.cons (u.stack.next rule p)).trans (List.perm_append_singleton ..).symm

theorem close (h : u.Balanced) (c : Char) (p : Point) : (u.perform (.close c p)).Balanced where
  numbered := h.numbered
  halfOpen := h.halfOpen
  ordered := h.ordered.sublist (List.dropWhile_sublist _)
  accounted := by
    -- What is returned goes from the top of the stack to the end of what was returned before.
    have hitems : u.stack.items = u.stack.items.takeWhile (·.closesOn c) ++ u.stack.items.dropWhile (·.closesOn c) :=
      List.takeWhile_append_dropWhile.symm
    have hreopen : (u.stack.closing c p).map (·.reopen) = u.stack.items.takeWhile (·.closesOn c) := by
      have hsame : ∀ a ∈ u.stack.items.takeWhile (·.closesOn c), (a.closeAt p).reopen = a := by
        intro a ha
        exact Activation.reopen_closeAt (h.halfOpen a (h.mem_opened ((List.takeWhile_sublist _).subset ha))) p
      rw [closing, List.map_map]
      exact (List.map_congr_left hsame).trans (List.map_id' _)
    show (u.stack.items.dropWhile (·.closesOn c) ++ (u.returned ++ [u.stack.closing c p]).flatten.map (·.reopen)).Perm u.opened
    rw [List.flatten_append, List.flatten_singleton, List.map_append, hreopen, ← List.append_assoc]
    refine List.perm_append_comm.trans ?_
    rw [← List.append_assoc, ← hitems]
    exact h.accounted

theorem perform (h : u.Balanced) (op : Operation) : (u.perform op).Balanced := by
  cases op with
  | push rule p => exact h.push rule p
  | close c p => exact h.close c p
  | clear => exact initial

/-- Every number that was given out stands once on the stack or in what was returned. -/
theorem count_seq (h : u.Balanced) {n : Nat} (hn : n < u.stack.pushed) :
    ((u.stack.items ++ u.returned.flatten).map (·.seq)).count n = 1 := by
  have hseq : (u.stack.items ++ u.returned.flatten.map (·.reopen)).map (·.seq) =
      (u.stack.items ++ u.returned.flatten).map (·.seq) := by
    rw [List.map_append, List.map_append, List.map_map]
    rfl
  have hperm := h.accounted.map (·.seq)
  rw [hseq, h.numbered] at hperm
  rw [hperm.count_eq, List.count_range, if_pos hn]

end Balanced

theorem ofOperations_concat (ops : List Operation) (op : Operation) : ofOperations (ops ++ [op]) = (ofOperations ops).perform op :=
  List.foldl_concat ..

theorem balanced_ofOperations (ops : List Operation) : (ofOperations ops).Balanced := by
  induction ops using List.reverseRecOn with
  | nil => exact .initial
  | append_singleton ops op ih =>
    rw [ofOperations_concat]
    exact ih.perform op

/-- What was opened since the last clear are activations of the rules pushed since then, at the points of their pushes. -/
theorem opened_ofOperations (ops : List Operation) :
    (ofOperations ops).opened.map (fun a => (a.rule, a.origin)) = Operation.pushes ops := by
  induction ops using List.reverseRecOn with
  | nil => rfl
  | append_singleton ops op ih =>
    rw [ofOperations_concat, Operation.pushes_concat, ← ih]
    cases op with
    | push rule p =>
      have hopened : ((ofOperations ops).perform (.push rule p)).opened =
          (ofOperations ops).opened ++ [(ofOperations ops).stack.next rule p] := rfl
      rw [hopened, List.map_append, List.map_singleton, next, Activation.origin_opening]
      rfl
    | close c p => simp [perform, Operation.isClear, Operation.push?]
    | clear => rfl

end Account

end Stack

/-- A stack loses and invents nothing, however it is used and whatever rules are pushed. From bottom to top the numbers on it
increase, and all are below the number of pushes since the last clear. A character closes the longest run at the top whose
terminators begin with it. An activation without a terminator stays, with all that is below it. What is returned is that run, top
first, with the open end of each location set and nothing else changed; the rest of the stack stays, and so does the number of
pushes. The pushes since the last clear have opened activations of their rules at their points, with the numbers below that number,
in order, and each with one open end. What is on the stack and, as it was opened, what was returned are together exactly these
activations. So each number stands once, either on the stack or in what one of the closings has returned. -/
theorem stack_conserves (ops : List Stack.Operation) :
    let u := Stack.Account.ofOperations ops
    let s := u.stack
    (s.toList.map (·.seq)).Pairwise (· < ·) ∧ (∀ a ∈ s.toList, a.seq < s.pushed) ∧
    (∀ c p, ∃ top rest, s.items = top ++ rest ∧
      (∀ a ∈ top, ∃ more, a.rule.terminator.toList = c :: more) ∧
      (∀ run, run <+: s.items → (∀ a ∈ run, ∃ more, a.rule.terminator.toList = c :: more) → run <+: top) ∧
      (∀ a below, a :: below <:+ s.items → a.rule.terminator = "" → a :: below <:+ rest) ∧
      s.closing c p = top.map (fun a => { a with
        location := match a.rule.direction with
          | .right => ⟨a.location.start, p⟩
          | .left => ⟨p, a.location.stop⟩ }) ∧
      s.close c = { items := rest, pushed := s.pushed }) ∧
    u.opened.map (fun a => (a.rule, a.origin)) = Stack.Operation.pushes ops ∧
    u.opened.map (·.seq) = List.range s.pushed ∧ (∀ a ∈ u.opened, a.reopen = a) ∧
    (s.items ++ u.returned.flatten.map (·.reopen)).Perm u.opened ∧
    ∀ n < s.pushed, ((s.items ++ u.returned.flatten).map (·.seq)).count n = 1 := by
  intro u s
  have h : u.Balanced := Stack.Account.balanced_ofOperations ops
  refine ⟨?_, ?_, ?_, Stack.Account.opened_ofOperations ops, h.numbered, h.halfOpen, h.accounted, fun n hn => h.count_seq hn⟩
  · rw [List.pairwise_map]
    exact List.pairwise_reverse.2 h.ordered
  · intro a ha
    exact h.seq_lt (List.mem_reverse.1 ha)
  · intro c p
    refine ⟨s.items.takeWhile (·.closesOn c), s.items.dropWhile (·.closesOn c), List.takeWhile_append_dropWhile.symm, ?_, ?_, ?_,
      ?_, rfl⟩
    · intro a ha
      exact (a.closesOn_iff c).1 (List.all_eq_true.1 List.all_takeWhile a ha)
    · intro run hrun hc
      exact Stack.isPrefix_takeWhile hrun fun a ha => (a.closesOn_iff c).2 (hc a ha)
    · intro a below hbelow hterminator
      exact Stack.isSuffix_dropWhile hbelow (Stack.not_closesOn_of_terminator hterminator c)
    · exact List.map_congr_left fun a _ => a.closeAt_eq p

-- The bracket closes the two activations on top, one of them leftward. The one below them has no terminator, so that the first stays
-- open, although the bracket would close it.
example :
    let round : Rule := { name := "round", symbol := "(", terminator := ")" }
    let endless : Rule := { name := "endless", symbol := "", terminator := "" }
    let back : Rule := { name := "back", symbol := "", terminator := ")", direction := .left }
    let u := Stack.Account.ofOperations [.push back ⟨1, 1⟩, .clear, .push round ⟨1, 1⟩, .push endless ⟨1, 2⟩, .push round ⟨1, 3⟩,
      .push back ⟨1, 4⟩, .close ')' ⟨1, 5⟩]
    u.stack.toList.map (·.seq) = [0, 1] ∧ u.stack.pushed = 4 ∧ u.returned.map (·.map fun a => (a.seq, a.location)) =
      [[(3, ⟨⟨1, 5⟩, ⟨1, 4⟩⟩), (2, ⟨⟨1, 3⟩, ⟨1, 5⟩⟩)]] := by
  decide

end RuleScanner
