import RuleScanner.Proofs.Report
import RuleScanner.Proofs.Run

/-!
# The rounds of a scan

A scan goes round a loop. In a round it looks at the character under the cursor once: it jumps over a comment there, or visits
the character and moves on, or is over. `Round.next` is one round, and a scan is what the rounds come to (`Round.iterate_run`).

That they come to an end does not depend on what the treatment of comments answers. A jump after which the scan goes on has
brought the cursor on its way, so that fewer characters are in reach, and a visit uses up a step (`Round.measure_lt`).
-/

namespace RuleScanner

/-! ## Jumps -/

/-- The treatment of comments sends a cursor on the character `c` further on its way: to the right, a comment starts there and
ends beyond it; to the left, a comment that starts no later covers it. -/
def Trivia.Skips (trivia : Trivia) (text : Text) (c : Char) (k : Cursor) : Prop :=
  match k.direction with
  | .right => trivia.startsComment c k.index text ∧ k.index < trivia.commentEnd k.index text
  | .left => ∃ start, trivia.commentStart? k.index text = some start ∧ start ≤ k.index

/-- The index of `k'` is further on than that of `k`, in the direction of `k`. -/
def Cursor.IsBehind (k k' : Cursor) : Prop :=
  match k.direction with
  | .right => k.index < k'.index
  | .left => k'.index < k.index

namespace Scan

variable {trivia : Trivia} {text : Text} {c : Char} {k k' : Cursor} {skip : Skip}

theorem jump?_eq_none_iff : jump? trivia text c k = none ↔ ¬ trivia.Skips text c k := by
  cases hd : k.direction with
  | right => simp [jump?, Trivia.Skips, hd]
  | left =>
    simp only [jump?, Trivia.Skips, hd]
    split
    · next h => simp [h]
    · next i h =>
      simp only [h, Option.some.injEq, exists_eq_left', ite_eq_right_iff, reduceCtorEq, imp_false]
      exact Iff.rfl
    · next h => simp [h]

/-- A jump never turns the cursor. -/
theorem jump?_direction {inside : Bool} (h : jump? trivia text c k = some (skip, inside, k')) : k'.direction = k.direction :=
  jump?_induction (P := fun x => x.direction = k.direction) (fun x hx => (x.moveRight_direction text).trans hx)
    (fun x hx => (x.moveLeft_direction text).trans hx) h rfl

/-- A jump after which there is a character to look at brings the cursor on its way. -/
theorem jump?_isBehind (hc : text[k.index]? = some c) (h : jump? trivia text c k = some (skip, true, k')) :
    k.IsBehind k' := by
  have hroom := room_lt_of_jump? hc h
  rw [room, room, jump?_direction h] at hroom
  unfold Cursor.IsBehind
  cases hd : k.direction <;> simp only [hd] at hroom ⊢ <;> omega

/-- How many characters a cursor can look at on its way, its own included. -/
def reach (text : Text) (k : Cursor) : Nat :=
  match k.direction with
  | .right => text.length - k.index
  | .left => min (k.index + 1) text.length

theorem reach_le (text : Text) (k : Cursor) : reach text k ≤ text.length := by
  unfold reach
  split <;> omega

/-- After such a jump there are fewer characters to look at. -/
theorem reach_lt_of_jump? (hc : text[k.index]? = some c) (h : jump? trivia text c k = some (skip, true, k')) :
    reach text k' < reach text k := by
  have hlt := (List.getElem?_eq_some_iff.1 hc).1
  have hbehind := jump?_isBehind hc h
  rw [reach, reach, jump?_direction h]
  rw [Cursor.IsBehind] at hbehind
  cases hd : k.direction <;> simp only [hd] at hbehind ⊢ <;> omega

end Scan

/-! ## Rounds -/

/-- A scan before a round: its state between two steps, and the comments that it has jumped over since the last one. -/
structure Round where
  state : ScanState
  skipped : List Skip := []

namespace Round

section

variable (registry : Registry) (trivia : Trivia) (text : Text) (budget : Nat)

/-- One round of a scan of at most `budget` steps. The answer is the scan, if it is over, or where it stands. -/
def next (r : Round) : Scan ⊕ Round :=
  match text[r.state.cursor.index]? with
  | none => .inl { steps := r.state.steps, skipped := r.skipped, stack := r.state.stack }
  | some c =>
    match Scan.jump? trivia text c r.state.cursor with
    | some (skip, true, k) => .inr { state := { r.state with cursor := k }, skipped := r.skipped ++ [skip] }
    | some (skip, false, _) => .inl { steps := r.state.steps, skipped := r.skipped ++ [skip], stack := r.state.stack }
    | none =>
      if r.state.steps.size = budget then
        .inl { steps := r.state.steps, skipped := r.skipped, stack := r.state.stack
               cutOff := some (.stepLimit budget r.state.cursor.index r.state.cursor.point) }
      else
        let s := r.state.visit registry trivia text r.skipped c r.state.cursor
        if s.cursor.atLeftEdge then .inl { steps := s.steps, stack := s.stack } else .inr { state := s.move text }

/-- At most `n` rounds. The answer is the scan, if it is over by then, or where it stands. -/
def iterate : Nat → Round → Scan ⊕ Round
  | 0, r => .inr r
  | n + 1, r =>
    match r.next registry trivia text budget with
    | .inl s => .inl s
    | .inr r' => iterate n r'

/-- What bounds the number of rounds that are left: for each step left a visit and as many jumps as the text has characters, and
the jumps that can be made before the next visit. -/
def measure (r : Round) : Nat := (budget - r.state.steps.size) * (text.length + 1) + Scan.reach text r.state.cursor

end

variable {registry : Registry} {trivia : Trivia} {text : Text} {budget : Nat} {r r' : Round} {s s' : Scan} {c : Char}

/-! ### What a round does -/

theorem next_skip (hc : text[r.state.cursor.index]? = some c) {skip : Skip} {k : Cursor}
    (hj : Scan.jump? trivia text c r.state.cursor = some (skip, true, k)) :
    r.next registry trivia text budget =
      .inr { state := { r.state with cursor := k }, skipped := r.skipped ++ [skip] } := by
  simp [next, hc, hj]

theorem next_leave (hc : text[r.state.cursor.index]? = some c) {skip : Skip} {k : Cursor}
    (hj : Scan.jump? trivia text c r.state.cursor = some (skip, false, k)) :
    r.next registry trivia text budget =
      .inl { steps := r.state.steps, skipped := r.skipped ++ [skip], stack := r.state.stack } := by
  simp [next, hc, hj]

theorem next_cut (registry : Registry) (hc : text[r.state.cursor.index]? = some c)
    (hj : Scan.jump? trivia text c r.state.cursor = none) (hb : r.state.steps.size = budget) :
    r.next registry trivia text budget =
      .inl { steps := r.state.steps, skipped := r.skipped, stack := r.state.stack
             cutOff := some (.stepLimit budget r.state.cursor.index r.state.cursor.point) } := by
  simp [next, hc, hj, hb]

theorem next_visit (registry : Registry) (hc : text[r.state.cursor.index]? = some c)
    (hj : Scan.jump? trivia text c r.state.cursor = none) (hb : r.state.steps.size ≠ budget) :
    r.next registry trivia text budget =
      if (r.state.visit registry trivia text r.skipped c r.state.cursor).cursor.atLeftEdge then
        .inl { steps := (r.state.visit registry trivia text r.skipped c r.state.cursor).steps
               stack := (r.state.visit registry trivia text r.skipped c r.state.cursor).stack }
      else .inr { state := (r.state.visit registry trivia text r.skipped c r.state.cursor).move text } := by
  simp [next, hc, hj, hb]

/-- A round after which the scan goes on has jumped over a comment or visited a character. -/
theorem next_eq_inr (h : r.next registry trivia text budget = .inr r') :
    ∃ c, text[r.state.cursor.index]? = some c ∧
      ((∃ skip k, Scan.jump? trivia text c r.state.cursor = some (skip, true, k) ∧
          r' = { state := { r.state with cursor := k }, skipped := r.skipped ++ [skip] }) ∨
        Scan.jump? trivia text c r.state.cursor = none ∧ r.state.steps.size ≠ budget ∧
          r' = { state := (r.state.visit registry trivia text r.skipped c r.state.cursor).move text }) := by
  unfold next at h
  split at h
  · cases h
  · next c hc =>
    refine ⟨c, hc, ?_⟩
    split at h
    · next skip k hj => exact Or.inl ⟨skip, k, hj, (Sum.inr.inj h).symm⟩
    · cases h
    · next hj =>
      split at h
      · cases h
      · next hb =>
        dsimp only at h
        split at h
        · cases h
        · exact Or.inr ⟨hj, hb, (Sum.inr.inj h).symm⟩

/-- A round after which the scan is over has found no character to look at, or one that it jumped away from to the end, or one
for which no step was left, or it has visited one at the left edge. -/
theorem next_eq_inl (h : r.next registry trivia text budget = .inl s) :
    text[r.state.cursor.index]? = none ∧ s = { steps := r.state.steps, skipped := r.skipped, stack := r.state.stack } ∨
    ∃ c, text[r.state.cursor.index]? = some c ∧
      ((∃ skip, s = { steps := r.state.steps, skipped := r.skipped ++ [skip], stack := r.state.stack }) ∨
        Scan.jump? trivia text c r.state.cursor = none ∧
          if r.state.steps.size = budget then
            s = { steps := r.state.steps, skipped := r.skipped, stack := r.state.stack
                  cutOff := some (.stepLimit budget r.state.cursor.index r.state.cursor.point) }
          else
            s = { steps := (r.state.visit registry trivia text r.skipped c r.state.cursor).steps
                  stack := (r.state.visit registry trivia text r.skipped c r.state.cursor).stack }) := by
  unfold next at h
  split at h
  · next hn => exact Or.inl ⟨hn, (Sum.inl.inj h).symm⟩
  · next c hc =>
    refine Or.inr ⟨c, hc, ?_⟩
    split at h
    · cases h
    · next skip k hj => exact Or.inl ⟨skip, (Sum.inl.inj h).symm⟩
    · next hj =>
      refine Or.inr ⟨hj, ?_⟩
      split at h
      · next hb => rw [if_pos hb]; exact (Sum.inl.inj h).symm
      · next hb =>
        rw [if_neg hb]
        dsimp only at h
        split at h
        · exact (Sum.inl.inj h).symm
        · cases h

/-- A round on a character that the comments skip ends the scan, or leaves it further on its way in the same direction. -/
theorem next_of_skips (hc : text[r.state.cursor.index]? = some c) (hs : trivia.Skips text c r.state.cursor) :
    (∃ s, r.next registry trivia text budget = .inl s ∧ s.steps = r.state.steps ∧ s.cutOff = none) ∨
    ∃ r', r.next registry trivia text budget = .inr r' ∧ r'.state.steps = r.state.steps ∧
      r'.state.cursor.direction = r.state.cursor.direction ∧ r.state.cursor.IsBehind r'.state.cursor := by
  rcases hj : Scan.jump? trivia text c r.state.cursor with _ | ⟨skip, _ | _, k⟩
  · exact absurd hs (Scan.jump?_eq_none_iff.1 hj)
  · exact Or.inl ⟨_, next_leave hc hj, rfl, rfl⟩
  · exact Or.inr ⟨_, next_skip hc hj, rfl, Scan.jump?_direction hj, Scan.jump?_isBehind hc hj⟩

/-! ### What rounds keep -/

/-- Before each round no more steps have been made than the scan may make, and never more comments jumped over between two of
them than the text has characters. -/
structure Bounded (text : Text) (budget : Nat) (r : Round) : Prop where
  size_steps : r.state.steps.size ≤ budget
  length_skipped : r.skipped.length + Scan.reach text r.state.cursor ≤ text.length
  steps : ∀ step ∈ r.state.steps, step.skipped.length ≤ text.length

/-- A visit keeps the bounds, if a step is left. -/
theorem Bounded.visit (hr : r.Bounded text budget) (hb : r.state.steps.size ≠ budget) (registry : Registry) (trivia : Trivia)
    (c : Char) (k : Cursor) :
    (r.state.visit registry trivia text r.skipped c k).steps.size ≤ budget ∧
      ∀ step ∈ (r.state.visit registry trivia text r.skipped c k).steps, step.skipped.length ≤ text.length := by
  have hlt : r.state.steps.size < budget := Nat.lt_of_le_of_ne hr.size_steps hb
  simp only [ScanState.visit, Array.size_push]
  refine ⟨hlt, fun step hstep => ?_⟩
  rcases Array.mem_push.1 hstep with hstep | rfl
  · exact hr.steps step hstep
  · exact Nat.le_of_add_right_le hr.length_skipped

theorem Bounded.next (hr : r.Bounded text budget) (h : r.next registry trivia text budget = .inr r') :
    r'.Bounded text budget := by
  obtain ⟨c, hc, ⟨skip, k, hj, rfl⟩ | ⟨-, hb, rfl⟩⟩ := next_eq_inr h
  · refine ⟨hr.size_steps, ?_, hr.steps⟩
    have hreach := Scan.reach_lt_of_jump? hc hj
    have hlen := hr.length_skipped
    simp only [List.length_append, List.length_singleton]
    omega
  · obtain ⟨hsize, hsteps⟩ := hr.visit hb registry trivia c r.state.cursor
    exact ⟨hsize, by simpa using Scan.reach_le text _, hsteps⟩

/-- Each round after which the scan goes on brings it nearer to its end. -/
theorem measure_lt (hr : r.Bounded text budget) (h : r.next registry trivia text budget = .inr r') :
    r'.measure text budget < r.measure text budget := by
  obtain ⟨c, hc, ⟨skip, k, hj, rfl⟩ | ⟨-, hb, rfl⟩⟩ := next_eq_inr h
  · exact Nat.add_lt_add_left (Scan.reach_lt_of_jump? hc hj) _
  · have hsize := hr.size_steps
    have hpush : (r.state.visit registry trivia text r.skipped c r.state.cursor).steps.size = r.state.steps.size + 1 :=
      Array.size_push ..
    calc _ = (budget - (r.state.steps.size + 1)) * (text.length + 1) + Scan.reach text _ := by
          rw [← hpush]
          rfl
      _ < (budget - (r.state.steps.size + 1)) * (text.length + 1) + (text.length + 1) :=
          Nat.add_lt_add_left (Nat.lt_succ_of_le (Scan.reach_le text _)) _
      _ = (budget - r.state.steps.size) * (text.length + 1) := by
          rw [← Nat.succ_mul]
          congr 1
          omega
      _ ≤ r.measure text budget := Nat.le_add_right ..

/-- What a scan comes to that is within its bounds before its last round. -/
theorem Bounded.last (hr : r.Bounded text budget) (h : r.next registry trivia text budget = .inl s) :
    s.steps.size ≤ budget ∧ s.skipped.length ≤ text.length ∧ ∀ step ∈ s.steps, step.skipped.length ≤ text.length := by
  have hlen := hr.length_skipped
  rcases next_eq_inl h with ⟨-, rfl⟩ | ⟨c, hc, ⟨skip, rfl⟩ | ⟨-, hs⟩⟩
  · exact ⟨hr.size_steps, by simp; omega, hr.steps⟩
  · have hlt := (List.getElem?_eq_some_iff.1 hc).1
    have hreach : 0 < Scan.reach text r.state.cursor := by
      unfold Scan.reach
      split <;> omega
    exact ⟨hr.size_steps, by simp; omega, hr.steps⟩
  · split at hs
    · subst hs
      exact ⟨hr.size_steps, by simp; omega, hr.steps⟩
    · next hb =>
      subst hs
      obtain ⟨hsize, hsteps⟩ := hr.visit hb registry trivia c r.state.cursor
      exact ⟨hsize, Nat.zero_le _, hsteps⟩

/-! ### Many rounds -/

theorem iterate_succ_of_inl (h : r.next registry trivia text budget = .inl s) (n : Nat) :
    iterate registry trivia text budget (n + 1) r = .inl s := by
  rw [iterate, h]

theorem iterate_succ_of_inr (h : r.next registry trivia text budget = .inr r') (n : Nat) :
    iterate registry trivia text budget (n + 1) r = iterate registry trivia text budget n r' := by
  rw [iterate, h]

theorem iterate_of_inr {m : Nat} (h : iterate registry trivia text budget m r = .inr r') (n : Nat) :
    iterate registry trivia text budget (m + n) r = iterate registry trivia text budget n r' := by
  induction m generalizing r with
  | zero =>
    cases h
    rw [Nat.zero_add]
  | succ m ih =>
    rw [Nat.add_right_comm]
    cases hn : r.next registry trivia text budget with
    | inl s =>
      rw [iterate_succ_of_inl hn] at h
      cases h
    | inr r₁ =>
      rw [iterate_succ_of_inr hn] at h ⊢
      exact ih h

theorem iterate_of_inl {m : Nat} (h : iterate registry trivia text budget m r = .inl s) (n : Nat) :
    iterate registry trivia text budget (m + n) r = .inl s := by
  induction m generalizing r with
  | zero => cases h
  | succ m ih =>
    rw [Nat.add_right_comm]
    cases hn : r.next registry trivia text budget with
    | inl s₁ =>
      rw [iterate_succ_of_inl hn] at h ⊢
      exact h
    | inr r₁ =>
      rw [iterate_succ_of_inr hn] at h ⊢
      exact ih h

/-- Rounds come to one scan at most. -/
theorem iterate_inl_unique {m n : Nat} (hm : iterate registry trivia text budget m r = .inl s)
    (hn : iterate registry trivia text budget n r = .inl s') : s = s' := by
  have h := iterate_of_inl hm n
  rw [Nat.add_comm, iterate_of_inl hn m] at h
  exact (Sum.inl.inj h).symm

/-- A scan that is over has made a last round, and has kept its bounds up to that round. -/
theorem exists_last {n : Nat} (hr : r.Bounded text budget) (h : iterate registry trivia text budget n r = .inl s) :
    ∃ m r', iterate registry trivia text budget m r = .inr r' ∧ r'.Bounded text budget ∧
      r'.next registry trivia text budget = .inl s := by
  induction n generalizing r with
  | zero => cases h
  | succ n ih =>
    cases hn : r.next registry trivia text budget with
    | inl s₁ =>
      rw [iterate_succ_of_inl hn] at h
      cases h
      exact ⟨0, r, rfl, hr, hn⟩
    | inr r₁ =>
      rw [iterate_succ_of_inr hn] at h
      obtain ⟨m, r', hm, hr', hs⟩ := ih (hr.next hn) h
      exact ⟨m + 1, r', (iterate_succ_of_inr hn m).trans hm, hr', hs⟩

/-- Rounds come to an end. -/
theorem exists_iterate_eq_inl (registry : Registry) (trivia : Trivia) (hr : r.Bounded text budget) :
    ∃ n ≤ r.measure text budget + 1, ∃ s, iterate registry trivia text budget n r = .inl s := by
  induction hm : r.measure text budget using Nat.strongRecOn generalizing r with
  | ind m ih =>
    cases hn : r.next registry trivia text budget with
    | inl s => exact ⟨1, by omega, s, iterate_succ_of_inl hn 0⟩
    | inr r' =>
      have hlt := measure_lt hr hn
      obtain ⟨n, hle, s, hs⟩ := ih _ (by omega) (hr.next hn) rfl
      exact ⟨n + 1, by omega, s, (iterate_succ_of_inr hn n).trans hs⟩

/-- Rounds that lead to a character that is not skipped when all steps have been made are cut off there. -/
theorem eq_of_iterate_cut {m n : Nat} (hm : iterate registry trivia text budget m r = .inr r')
    (hb : r'.state.steps.size = budget) (hc : text[r'.state.cursor.index]? = some c)
    (hskips : ¬ trivia.Skips text c r'.state.cursor) (h : iterate registry trivia text budget n r = .inl s) :
    s = { steps := r'.state.steps, skipped := r'.skipped, stack := r'.state.stack
          cutOff := some (.stepLimit budget r'.state.cursor.index r'.state.cursor.point) } := by
  have hlast := next_cut registry hc (Scan.jump?_eq_none_iff.2 hskips) hb
  exact iterate_inl_unique h ((iterate_of_inr hm 1).trans (iterate_succ_of_inl hlast 0))

/-- Rounds are cut off by a fault exactly if they lead to a character that is not skipped when all steps have been made, and the
fault names that character. -/
theorem cutOff_eq_some_iff (hr : r.Bounded text budget) {n : Nat} (h : iterate registry trivia text budget n r = .inl s)
    (f : Fault) :
    s.cutOff = some f ↔ ∃ m r' c, iterate registry trivia text budget m r = .inr r' ∧ r'.state.steps.size = budget ∧
      text[r'.state.cursor.index]? = some c ∧ ¬ trivia.Skips text c r'.state.cursor ∧
      f = .stepLimit budget r'.state.cursor.index r'.state.cursor.point := by
  constructor
  · intro hcut
    obtain ⟨m, r', hm, -, hlast⟩ := exists_last hr h
    rcases next_eq_inl hlast with ⟨-, rfl⟩ | ⟨c, hc, ⟨skip, rfl⟩ | ⟨hj, hs⟩⟩
    · cases hcut
    · cases hcut
    · split at hs
      · next hb =>
        subst hs
        exact ⟨m, r', c, hm, hb, hc, Scan.jump?_eq_none_iff.1 hj, (Option.some.inj hcut).symm⟩
      · subst hs
        cases hcut
  · rintro ⟨m, r', c, hm, hb, hc, hskips, rfl⟩
    rw [eq_of_iterate_cut hm hb hc hskips h]

/-- Rounds end in a cut exactly if they lead to a character that is not skipped when all steps have been made. -/
theorem cutOff_isSome_iff (hr : r.Bounded text budget) {n : Nat} (h : iterate registry trivia text budget n r = .inl s) :
    s.cutOff.isSome ↔ s.steps.size = budget ∧ ∃ m r' c, iterate registry trivia text budget m r = .inr r' ∧
      r'.state.steps = s.steps ∧ text[r'.state.cursor.index]? = some c ∧ ¬ trivia.Skips text c r'.state.cursor := by
  rw [Option.isSome_iff_exists]
  constructor
  · rintro ⟨f, hf⟩
    obtain ⟨m, r', c, hm, hb, hc, hskips, -⟩ := (cutOff_eq_some_iff hr h f).1 hf
    have hsteps : s.steps = r'.state.steps := by rw [eq_of_iterate_cut hm hb hc hskips h]
    exact ⟨by rw [hsteps, hb], m, r', c, hm, hsteps.symm, hc, hskips⟩
  · rintro ⟨hb, m, r', c, hm, hsteps, hc, hskips⟩
    exact ⟨_, (cutOff_eq_some_iff hr h _).2 ⟨m, r', c, hm, by rw [hsteps, hb], hc, hskips, rfl⟩⟩

/-- Nothing but the step limit cuts a scan off. -/
theorem condition_of_cutOff (hr : r.Bounded text budget) {n : Nat} (h : iterate registry trivia text budget n r = .inl s) :
    ∀ f ∈ s.cutOff, f.condition = .stepLimit := by
  intro f hf
  obtain ⟨m, r', c, -, -, -, -, rfl⟩ := (cutOff_eq_some_iff hr h f).1 hf
  rfl

/-! ### Rounds and steps -/

/-- The jumps over the comments before a character to visit are a round each. -/
theorem iterate_settle_some {k k' : Cursor} {skips : List Skip} (h : Scan.settle trivia text k = (skips, some c, k'))
    (registry : Registry) (budget : Nat) (state : ScanState) (skipped : List Skip) :
    iterate registry trivia text budget skips.length ⟨{ state with cursor := k }, skipped⟩ =
        .inr ⟨{ state with cursor := k' }, skipped ++ skips⟩ ∧
      Scan.jump? trivia text c k' = none := by
  fun_induction Scan.settle trivia text k generalizing skips skipped with
  | case1 => simp at h
  | case2 k c' hc hj =>
    simp only [Prod.mk.injEq, Option.some.injEq] at h
    obtain ⟨rfl, rfl, rfl⟩ := h
    exact ⟨by simp [iterate], hj⟩
  | case3 => simp at h
  | case4 k c' hc skip k₁ hj skips' visit k₂ e ih =>
    simp only [Prod.mk.injEq] at h
    obtain ⟨rfl, rfl, rfl⟩ := h
    obtain ⟨hiter, hjump⟩ := ih e (skipped ++ [skip])
    refine ⟨?_, hjump⟩
    rw [List.length_cons, iterate_succ_of_inr (next_skip hc hj), hiter, List.append_assoc, List.singleton_append]

/-- Jumps after which there is no character to visit end the scan. -/
theorem iterate_settle_none {k k' : Cursor} {skips : List Skip} (h : Scan.settle trivia text k = (skips, none, k'))
    (state : ScanState) (skipped : List Skip) :
    ∃ n, iterate registry trivia text budget n ⟨{ state with cursor := k }, skipped⟩ =
      .inl { steps := state.steps, skipped := skipped ++ skips, stack := state.stack } := by
  fun_induction Scan.settle trivia text k generalizing skips skipped with
  | case1 k hc =>
    simp only [Prod.mk.injEq] at h
    obtain ⟨rfl, -, -⟩ := h
    exact ⟨1, iterate_succ_of_inl (by simp [next, hc]) 0⟩
  | case2 => simp at h
  | case3 k c' hc skip k₁ hj =>
    simp only [Prod.mk.injEq] at h
    obtain ⟨rfl, -, -⟩ := h
    exact ⟨1, iterate_succ_of_inl (next_leave hc hj) 0⟩
  | case4 k c' hc skip k₁ hj skips' visit k₂ e ih =>
    simp only [Prod.mk.injEq] at h
    obtain ⟨rfl, rfl, rfl⟩ := h
    obtain ⟨n, hiter⟩ := ih e (skipped ++ [skip])
    refine ⟨n + 1, ?_⟩
    rw [iterate_succ_of_inr (next_skip hc hj), hiter, List.append_assoc, List.singleton_append]

/-- Rounds come to what a run comes to. -/
theorem iterate_run (registry : Registry) (trivia : Trivia) (text : Text) (left : Nat) (state : ScanState)
    (hb : state.steps.size + left = budget) :
    ∃ n, iterate registry trivia text budget n { state } = .inl (Scan.run registry trivia text budget left state) := by
  induction left generalizing state with
  | zero =>
    rcases hs : Scan.settle trivia text state.cursor with ⟨skips, _ | c, k⟩
    · rw [Scan.run_over hs]
      exact iterate_settle_none hs state []
    · rw [Scan.run_zero hs]
      obtain ⟨hiter, hj⟩ := iterate_settle_some hs registry budget state []
      have hnext := next_cut registry (r := ⟨{ state with cursor := k }, skips⟩) (Scan.settle_char hs) hj hb
      exact ⟨skips.length + 1, (iterate_of_inr hiter 1).trans (iterate_succ_of_inl hnext 0)⟩
  | succ left ih =>
    rcases hs : Scan.settle trivia text state.cursor with ⟨skips, _ | c, k⟩
    · rw [Scan.run_over hs]
      exact iterate_settle_none hs state []
    · rw [Scan.run_succ hs]
      obtain ⟨hiter, hj⟩ := iterate_settle_some hs registry budget state []
      have hnext := next_visit registry (r := ⟨{ state with cursor := k }, skips⟩) (Scan.settle_char hs) hj
        (show state.steps.size ≠ budget by omega)
      split
      · next hedge =>
        exact ⟨skips.length + 1, (iterate_of_inr hiter 1).trans (iterate_succ_of_inl (hnext.trans (if_pos hedge)) 0)⟩
      · next hedge =>
        obtain ⟨n, hn⟩ := ih ((state.visit registry trivia text skips c k).move text) (by
          rw [← hb]
          simp [ScanState.move, ScanState.visit]
          omega)
        exact ⟨skips.length + (n + 1), (iterate_of_inr hiter (n + 1)).trans
          ((iterate_succ_of_inr (hnext.trans (if_neg hedge)) n).trans hn)⟩

/-- The scan of a text before its first round. -/
def first (memory : ColumnMemory) (text : Text) : Round where
  state := { cursor := ((Cursor.initial memory).enter text).2 }

theorem first_bounded (memory : ColumnMemory) (text : Text) (budget : Nat) : (first memory text).Bounded text budget :=
  ⟨Nat.zero_le _, by simpa [first] using Scan.reach_le text _, by simp [first]⟩

/-- Rounds from the first on come to the scan of the text, within a number that the budget and the length of the text bound. -/
theorem iterate_ofText (registry : Registry) (trivia : Trivia) (config : Config) (text : Text) :
    ∃ n ≤ (config.budget text.length + 1) * (text.length + 1),
      iterate registry trivia text (config.budget text.length) n (first config.memory text) =
        .inl (Scan.ofText registry trivia config text) := by
  obtain ⟨n, hn, s, hs⟩ := exists_iterate_eq_inl registry trivia
    (first_bounded config.memory text (config.budget text.length))
  obtain ⟨m, hm⟩ := iterate_run registry trivia text (config.budget text.length)
    (first config.memory text).state (Nat.zero_add _)
  refine ⟨n, Nat.le_trans hn ?_, hs.trans (congrArg _ (iterate_inl_unique hs hm))⟩
  have hreach := Scan.reach_le text (first config.memory text).state.cursor
  rw [measure, Nat.succ_mul]
  simp only [first, List.size_toArray, List.length_nil, Nat.sub_zero] at hreach ⊢
  omega

end Round

/-- The rounds of the scan of a text lead to `r`, where the scan has made `n` steps and the comments do not skip the character `c`
under the cursor. So it visits the character next, if it has a step left. -/
def Tokenizer.StandsBefore (t : Tokenizer) (text : Text) (n : Nat) (c : Char) (r : Round) : Prop :=
  (∃ m, Round.iterate t.registry t.trivia text (t.config.budget text.length) m (.first t.config.memory text) = .inr r) ∧
    r.state.steps.size = n ∧ text[r.state.cursor.index]? = some c ∧ ¬ t.trivia.Skips text c r.state.cursor

namespace Scan

variable (registry : Registry) (trivia : Trivia) (config : Config) (text : Text)

/-- A scan makes no more steps than its budget allows, and jumps over no more comments between two of them than the text has
characters. -/
theorem ofText_bounded :
    (ofText registry trivia config text).steps.size ≤ config.budget text.length ∧
      (ofText registry trivia config text).skipped.length ≤ text.length ∧
      ∀ step ∈ (ofText registry trivia config text).steps, step.skipped.length ≤ text.length := by
  obtain ⟨n, -, hn⟩ := Round.iterate_ofText registry trivia config text
  obtain ⟨-, r, -, hr, hlast⟩ := Round.exists_last (Round.first_bounded config.memory text _) hn
  exact hr.last hlast

/-- A scan of a text reports the step limit exactly if it was cut off. -/
theorem ofText_reports_stepLimit_iff :
    (ofText registry trivia config text).reports .stepLimit ↔ (ofText registry trivia config text).cutOff.isSome := by
  obtain ⟨n, -, hn⟩ := Round.iterate_ofText registry trivia config text
  exact reports_stepLimit_iff (Round.condition_of_cutOff (Round.first_bounded config.memory text _) hn)

end Scan

/-- Every scan ends within its budget, whatever the rules, the answers about comments, the configuration and the text are. Its
rounds come to an end. A round on a character that the comments skip ends the scan or leaves it further on its way in the same
direction, so that between two steps there are no more such rounds than the text has characters. No more characters are visited
than the budget allows, and the step limit is reported exactly if so many were visited and the scan then stood on one more that
the comments do not skip. -/
theorem tokenize_terminates (t : Tokenizer) (text : Text) :
    let budget := t.config.maxSteps.getD (64 * text.length + 64)
    let next := Round.next t.registry t.trivia text budget
    let after := fun n => Round.iterate t.registry t.trivia text budget n (.first t.config.memory text)
    let s := (t.tokenize text).last
    (∃ n ≤ (budget + 1) * (text.length + 1), after n = .inl s) ∧
    (∀ (r : Round) (c : Char), text[r.state.cursor.index]? = some c → t.trivia.Skips text c r.state.cursor →
      (∃ s, next r = .inl s ∧ s.steps = r.state.steps ∧ s.cutOff = none) ∨
      ∃ r', next r = .inr r' ∧ r'.state.steps = r.state.steps ∧
        r'.state.cursor.direction = r.state.cursor.direction ∧ r.state.cursor.IsBehind r'.state.cursor) ∧
    (∀ step ∈ s.steps, step.skipped.length ≤ text.length) ∧ s.skipped.length ≤ text.length ∧
    s.steps.size ≤ budget ∧
    (s.reports .stepLimit ↔ s.steps.size = budget ∧ ∃ n r c, after n = .inr r ∧ r.state.steps = s.steps ∧
      text[r.state.cursor.index]? = some c ∧ ¬ t.trivia.Skips text c r.state.cursor) := by
  intro budget next after s
  obtain ⟨n, hn, hs⟩ := Round.iterate_ofText t.registry t.trivia t.config text
  obtain ⟨hsize, hskipped, hsteps⟩ := Scan.ofText_bounded t.registry t.trivia t.config text
  refine ⟨⟨n, hn, hs⟩, fun r c hc hskips => Round.next_of_skips hc hskips, hsteps, hskipped, hsize, ?_⟩
  exact (Scan.ofText_reports_stepLimit_iff t.registry t.trivia t.config text).trans
    (Round.cutOff_isSome_iff (Round.first_bounded t.config.memory text budget) hs)

/-- A tokenizer without rules and with answers about comments that cannot be right: a comment starts at each number sign and
ends beyond the text, and every character is covered by a comment that starts after it. It may make one step. -/
def straying : Tokenizer where
  trivia :=
    { startsComment := fun c _ _ => c == '#'
      commentEnd := fun index text => index + text.length + 1
      commentStart? := fun index _ => some (index + 1) }
  config := { maxSteps := some 1 }

/-- A comment that ends beyond the text ends the scan of it. The scan of a text of two characters is cut off after one step, and
leaves a character that is not skipped. -/
theorem tokenize_terminates_straying :
    (∃ s, Round.next straying.registry straying.trivia ['#', 'a'] 1 (.first .everyLine ['#', 'a']) = .inl s ∧
      s.steps.size = 0 ∧ s.cutOff = none) ∧
    (straying.tokenize ['a', 'b']).last.reports .stepLimit ∧ (straying.tokenize ['a', 'b']).last.steps.size = 1 ∧
    ∃ r : Round, ['a', 'b'][r.state.cursor.index]?.isSome ∧
      r.state.steps = (straying.tokenize ['a', 'b']).last.steps := by
  constructor
  · obtain ⟨-, hround, -⟩ := tokenize_terminates straying ['#', 'a']
    rcases hround (.first .everyLine ['#', 'a']) '#' rfl ⟨rfl, by decide⟩ with ⟨s, hs, hsteps, hcut⟩ | ⟨r, hr, -⟩
    · exact ⟨s, hs, by rw [hsteps]; rfl, hcut⟩
    · cases hr
  · obtain ⟨-, -, -, -, -, hlimit⟩ := tokenize_terminates straying ['a', 'b']
    have hreport : (straying.tokenize ['a', 'b']).last.reports .stepLimit := by decide +kernel
    obtain ⟨hsize, -, r, c, -, hsteps, hc, -⟩ := hlimit.1 hreport
    exact ⟨hreport, hsize, r, by rw [hc]; rfl, hsteps⟩

end RuleScanner
