import Mathlib.Data.List.Chain
import Mathlib.Data.List.Perm.Subperm
import RuleScanner.Proofs.Lines
import RuleScanner.Proofs.Memory
import RuleScanner.Proofs.Validity

/-!
# Rules that all go one way

Each step of a scan meets its character further on in the direction in which the step before has departed (`Step.Precedes`),
whatever the rules and the comments are. If all rules go one way, a scan that goes this way never turns again. So rules that
go right leave the scan as it starts, and rules that go left turn it at most once: the indices of the steps rise and then fall
(`Step.exists_rise_fall`).

From its opening on, an activation sees the scan going its own way, and where it is closed the scan has gone on. The order of
the two points follows from that of the indices where points are exact. With one column for all lines a scan to the left may
lose count of the columns, but each of its moves leads to a point that is not after the one before
(`Cursor.OnLine.moveLeft_point_le`).
-/

namespace RuleScanner

/-! ## From a step to the next one -/

namespace Direction

/-- From the index `i` the direction leads to `j` some time. -/
def Ahead : Direction → (i j : Nat) → Prop
  | .right, i, j => i < j
  | .left, i, j => j < i

instance (d : Direction) : Trans d.Ahead d.Ahead d.Ahead where
  trans {i j k} hij hjk := by
    cases d with
    | right => exact Nat.lt_trans hij hjk
    | left => exact Nat.lt_trans hjk hij

end Direction

instance : Trans (α := Point) (· ≥ ·) (· ≥ ·) (· ≥ ·) := ⟨fun hpq hqr => Point.le_trans hqr hpq⟩

namespace Cursor

/-- A move in the direction of the cursor does not bring it back. -/
theorem ahead_advance {k : Cursor} {i : Nat} (h : k.direction.Ahead i k.index) (text : Text) :
    k.direction.Ahead i (k.advance text).2.index := by
  cases hd : k.direction with
  | right =>
    rw [hd] at h
    rw [advance_index_right hd]
    exact Nat.lt_succ_of_lt h
  | left =>
    rw [hd] at h
    rw [advance, hd]
    exact Nat.lt_of_le_of_lt (moveLeft_index_le k text) h

/-- A move from a character of the text, but to the left from the first one, brings the cursor ahead. -/
theorem index_ahead_advance {k : Cursor} {text : Text} (h : k.index < text.length) (hedge : k.atLeftEdge = false) :
    k.direction.Ahead k.index (k.advance text).2.index := by
  cases hd : k.direction with
  | right =>
    rw [advance_index_right hd]
    exact Nat.lt_succ_self _
  | left =>
    have hpos : k.index ≠ 0 := by simpa [atLeftEdge, hd] using hedge
    rw [advance_index_left hd h]
    exact Nat.sub_one_lt hpos

end Cursor

namespace Step

/-- The step meets its character under the cursor. -/
structure MetAt (step : Step) (k : Cursor) : Prop where
  index : step.index = k.index
  point : step.point = k.point
  direction : step.direction = k.direction

/-- The step `b` meets its character where `R` leads to from `a`. -/
def Linked (R : Step → Cursor → Prop) (a b : Step) : Prop := ∃ k, R a k ∧ b.MetAt k

end Step

/-- Before a visit: the cursor has `I`, the steps are linked by `R`, and `R` leads from the last one to the cursor. -/
structure ScanState.Linked (I : Cursor → Prop) (R : Step → Cursor → Prop) (s : ScanState) : Prop where
  cursor : I s.cursor
  chain : s.steps.toList.IsChain (Step.Linked R)
  last : ∀ a ∈ s.steps.toList.getLast?, R a s.cursor

namespace Scan

/-- The steps of a scan can be linked by `R`, where all cursors have `I`: moves and visits keep `I`, and `R` leads from a step
to the cursor that has moved on, and stays as long as it moves on. -/
structure Links (registry : Registry) (trivia : Trivia) (text : Text) (I : Cursor → Prop) (R : Step → Cursor → Prop) :
    Prop where
  advance : ∀ k, I k → I (k.advance text).2
  keep : ∀ made k, I k → R made k → R made (k.advance text).2
  visit : ∀ skipped c k stack made, made = (step registry trivia text skipped c k stack).1 → text[k.index]? = some c → I k →
    I (k.face made.departure) ∧
      ((k.face made.departure).atLeftEdge = false → R made ((k.face made.departure).advance text).2)

namespace Links

variable {registry : Registry} {trivia : Trivia} {config : Config} {text : Text} {I : Cursor → Prop} {R : Step → Cursor → Prop}

/-- The jumps before a visit keep what moves keep. -/
theorem settled (hR : Links registry trivia text I R) {s : ScanState} (h : s.Linked I R) {skipped : List Skip} {c : Char}
    {k : Cursor} (he : settle trivia text s.cursor = (skipped, some c, k)) : I k ∧ ∀ a ∈ s.steps.toList.getLast?, R a k := by
  have hsettled : I (settle trivia text s.cursor).2.2 ∧ ∀ a ∈ s.steps.toList.getLast?, R a (settle trivia text s.cursor).2.2 :=
    settle_advances (P := fun k => I k ∧ ∀ a ∈ s.steps.toList.getLast?, R a k)
      (fun k hk => ⟨hR.advance k hk.1, fun a ha => hR.keep a k hk.1 (hk.2 a ha)⟩) s.cursor ⟨h.cursor, h.last⟩
  rwa [he] at hsettled

/-- A visit links its step to those before, and so does the move after it. -/
theorem visited (hR : Links registry trivia text I R) {s : ScanState} (h : s.Linked I R) {skipped : List Skip} {c : Char}
    {k : Cursor} (he : settle trivia text s.cursor = (skipped, some c, k)) :
    (s.visit registry trivia text skipped c k).steps.toList.IsChain (Step.Linked R) ∧
      ((s.visit registry trivia text skipped c k).cursor.atLeftEdge = false →
        ((s.visit registry trivia text skipped c k).move text).Linked I R) := by
  obtain ⟨hk, hlast⟩ := hR.settled h he
  obtain ⟨hface, hleave⟩ := hR.visit skipped c k s.stack _ rfl (settle_char he) hk
  have hchain : (s.visit registry trivia text skipped c k).steps.toList.IsChain (Step.Linked R) := by
    rw [ScanState.toList_steps_visit, List.isChain_append]
    refine ⟨h.chain, .singleton _, fun a ha b hb => ?_⟩
    cases hb
    exact ⟨k, hlast a ha, rfl, rfl, rfl⟩
  refine ⟨hchain, fun hedge => ⟨hR.advance _ hface, hchain, ?_⟩⟩
  intro a ha
  have hmade : (s.visit registry trivia text skipped c k).steps.toList.getLast? =
      some (step registry trivia text skipped c k s.stack).1 := by rw [ScanState.toList_steps_visit, List.getLast?_concat]
  cases hmade.symm.trans ha
  exact hleave hedge

/-- What links a visit to the state before links all steps of a scan. -/
theorem isChain (hR : Links registry trivia text I R) (hstart : I ((Cursor.initial config.memory).enter text).2) :
    (ofText registry trivia config text).steps.toList.IsChain (Step.Linked R) := by
  obtain ⟨s, hs, hsteps, -⟩ := run_induction (P := ScanState.Linked I R)
    (Q := fun s => s.steps.toList.IsChain (Step.Linked R) ∧ (s.cursor.atLeftEdge = false → (s.move text).Linked I R))
    (fun s skipped c k h he => hR.visited h he) (fun s h hedge => h.2 hedge) (config.budget text.length)
    (config.budget text.length) { cursor := ((Cursor.initial config.memory).enter text).2 } ⟨hstart, .nil, nofun⟩
  rw [ofText, hsteps]
  exact hs.elim (·.chain) (·.1)

end Links

end Scan

/-! ## The order of the steps -/

/-- Two members of a list at their places, if from the first place on each has `S` to all later ones. -/
theorem rel_of_pairwise_drop {α : Type} {S : α → α → Prop} {l : List α} {m n : Nat} (h : (l.drop m).Pairwise S) (hmn : m < n)
    {a b : α} (ha : l[m]? = some a) (hb : l[n]? = some b) : S a b := by
  have hfirst : (l.drop m)[0]? = some a := by rwa [List.getElem?_drop]
  have hlater : (l.drop m)[n - m]? = some b := by rwa [List.getElem?_drop, Nat.add_sub_cancel' (Nat.le_of_lt hmn)]
  obtain ⟨hzero, rfl⟩ := List.getElem?_eq_some_iff.1 hfirst
  obtain ⟨hlt, rfl⟩ := List.getElem?_eq_some_iff.1 hlater
  exact List.pairwise_iff_getElem.1 h 0 (n - m) hzero hlt (Nat.sub_pos_of_lt hmn)

namespace Step

/-- The step `b` meets its character further on in the direction in which `a` has departed. -/
structure Precedes (a b : Step) : Prop where
  direction : b.direction = a.departure
  ahead : a.departure.Ahead a.index b.index

variable {d : Direction} {step : Step} {steps : List Step}

/-- All that the step has opened goes in the direction `d`. -/
def OpensOnly (d : Direction) (step : Step) : Prop := ∀ a ∈ step.opened, a.rule.direction = d

/-- A step that opens nothing but activations of one direction departs in this one, if it opens any. -/
theorem OpensOnly.departure_of_mem (h : step.OpensOnly d) {a : Activation} (ha : a ∈ step.opened) : step.departure = d := by
  unfold departure
  cases hlast : step.opened.getLast? with
  | none =>
    rw [List.getLast?_eq_none_iff.1 hlast] at ha
    cases ha
  | some x => exact h x (List.mem_of_getLast? hlast)

theorem OpensOnly.departure_eq_or (h : step.OpensOnly d) : step.departure = step.direction ∨ step.departure = d := by
  unfold departure
  cases hlast : step.opened.getLast? with
  | none => exact Or.inl rfl
  | some x => exact Or.inr (h x (List.mem_of_getLast? hlast))

/-- Where all rules go one way, a scan that has departed this way keeps to it. -/
theorem departure_of_head (hchain : steps.IsChain Precedes) (hopens : ∀ a ∈ steps, a.OpensOnly d)
    (hhead : ∀ a ∈ steps.head?, a.departure = d) : ∀ a ∈ steps, a.departure = d := by
  induction steps with
  | nil => simp
  | cons a steps ih =>
    rw [List.isChain_cons] at hchain
    rw [List.forall_mem_cons] at hopens ⊢
    have ha : a.departure = d := hhead a rfl
    refine ⟨ha, ih hchain.2 hopens.2 fun b hb => ?_⟩
    rcases (hopens.2 b (List.mem_of_mem_head? hb)).departure_eq_or with hsame | hturned
    · rw [hsame, (hchain.1 b hb).direction, ha]
    · exact hturned

/-- Steps that all depart one way are each ahead of those before. -/
theorem pairwise_ahead (hchain : steps.IsChain Precedes) (hdeparture : ∀ a ∈ steps, a.departure = d) :
    steps.Pairwise fun a b => d.Ahead a.index b.index := by
  refine List.pairwise_map.1 (List.IsChain.pairwise ((List.isChain_map Step.index).2 ?_))
  refine hchain.imp_of_mem_imp fun a b ha _ hab => ?_
  have hahead := hab.ahead
  rwa [hdeparture a ha] at hahead

/-- Where all rules go one way, all steps from one on that departs this way do so. -/
theorem departure_of_mem_drop (hchain : steps.IsChain Precedes) (hopens : ∀ a ∈ steps, a.OpensOnly d) {m : Nat} {a : Step}
    (ha : steps[m]? = some a) (hd : a.departure = d) : ∀ b ∈ steps.drop m, b.departure = d := by
  refine departure_of_head (hchain.drop m) (fun b hb => hopens b (List.mem_of_mem_drop hb)) fun b hb => ?_
  rw [List.head?_drop, ha] at hb
  cases hb
  exact hd

/-- Where all rules go left, the steps of a scan that begins to the right rise up to one of them and fall from there on. -/
theorem exists_rise_fall (hchain : steps.IsChain Precedes) (hopens : ∀ a ∈ steps, a.OpensOnly .left)
    (hhead : ∀ a ∈ steps.head?, a.direction = .right) :
    ∃ n, ((steps.map (·.index)).take (n + 1)).Pairwise (· < ·) ∧ ((steps.map (·.index)).drop n).Pairwise (· > ·) := by
  -- Each step is compared with the next one alone, so that the rise is built up as a chain.
  suffices ∃ n, ((steps.map (·.index)).take (n + 1)).IsChain (· < ·) ∧ ((steps.map (·.index)).drop n).Pairwise (· > ·) by
    obtain ⟨n, hrise, hfall⟩ := this
    exact ⟨n, hrise.pairwise, hfall⟩
  induction steps with
  | nil => exact ⟨0, .nil, .nil⟩
  | cons a steps ih =>
    rcases (hopens a List.mem_cons_self).departure_eq_or with hsame | hturned
    · -- The scan goes on to the right, and rises with its next step.
      rw [List.isChain_cons] at hchain
      have hright : a.departure = .right := hsame.trans (hhead a rfl)
      obtain ⟨n, hrise, hfall⟩ := ih hchain.2 (fun b hb => hopens b (List.mem_cons_of_mem a hb)) fun b hb =>
        (hchain.1 b hb).direction.trans hright
      refine ⟨n + 1, ?_, hfall⟩
      rw [List.map_cons, List.take_succ_cons, List.isChain_cons]
      refine ⟨fun i hi => ?_, hrise⟩
      rw [List.head?_take, if_neg (Nat.succ_ne_zero n), List.head?_map] at hi
      obtain ⟨b, hb, rfl⟩ := Option.map_eq_some_iff.1 hi
      have hahead := (hchain.1 b hb).ahead
      rwa [hright] at hahead
    · have hdeparture := departure_of_head hchain hopens fun b hb => by cases hb; exact hturned
      exact ⟨0, by simp, List.pairwise_map.2 (pairwise_ahead hchain hdeparture)⟩

end Step

namespace Scan

/-- Each step of a scan precedes the next one. -/
theorem ofText_precedes (registry : Registry) (trivia : Trivia) (config : Config) (text : Text) :
    (ofText registry trivia config text).steps.toList.IsChain Step.Precedes := by
  have hlinks : Links registry trivia text (fun _ => True) fun a k =>
      k.direction = a.departure ∧ k.direction.Ahead a.index k.index := by
    refine ⟨fun _ _ => trivial, ?_, ?_⟩
    · rintro a k - ⟨hdirection, hahead⟩
      rw [Cursor.advance_direction]
      exact ⟨hdirection, Cursor.ahead_advance hahead text⟩
    · rintro skipped c k stack made rfl hc -
      refine ⟨trivial, fun hedge => ?_⟩
      rw [Cursor.advance_direction]
      exact ⟨rfl, Cursor.index_ahead_advance (List.getElem?_eq_some_iff.1 hc).1 hedge⟩
  refine (hlinks.isChain trivial).imp ?_
  rintro a b ⟨k, ⟨hdirection, hahead⟩, hmet⟩
  refine ⟨hmet.direction.trans hdirection, ?_⟩
  rw [hmet.index, ← hdirection]
  exact hahead

/-- A scan meets its first character from the left. -/
theorem ofText_head_direction (registry : Registry) (trivia : Trivia) (config : Config) (text : Text) :
    ∀ step ∈ (ofText registry trivia config text).steps.toList.head?, step.direction = .right := by
  obtain ⟨s, ⟨-, hfirst⟩, hsteps, -⟩ := ofText_induction (P := fun s =>
      (s.steps.toList = [] → s.cursor.direction = .right) ∧ ∀ step ∈ s.steps.toList.head?, step.direction = .right)
    registry trivia config text ⟨fun _ => Cursor.enter_initial_direction .., nofun⟩
    (by
      rintro s skipped c k ⟨hempty, hfirst⟩ he
      simp only [ScanState.visit, Array.toList_push]
      refine ⟨by simp, ?_⟩
      cases hs : s.steps.toList with
      | nil =>
        have hk : (settle trivia text s.cursor).2.2.direction = .right :=
          settle_advances (P := fun k => k.direction = .right) (fun k hk => (k.advance_direction text).trans hk) s.cursor
            (hempty hs)
        rintro step ⟨⟩
        rwa [he] at hk
      | cons first rest =>
        rw [hs] at hfirst
        exact hfirst)
    (fun s hs => ⟨fun h => (s.cursor.advance_direction text).trans (hs.1 h), hs.2⟩)
  rw [hsteps]
  exact hfirst

end Scan

/-! ## Points of a scan to the left -/

theorem pred_le (n : UInt32) : pred n ≤ n := by
  rw [UInt32.le_iff_toNat_le, toNat_pred]
  exact Nat.sub_le ..

namespace Cursor

variable {text : Text} {drift : Nat} {k : Cursor}

/-- A move to the left does not lead to a later point: the line above has a number of its own. -/
theorem OnLine.moveLeft_point_le (h : OnLine text drift k) (hd : k.direction = .left) :
    (k.moveLeft text).2.point ≤ k.point := by
  obtain ⟨⟨slot, hslot⟩, hline⟩ := h
  unfold Cursor.moveLeft
  split
  · exact Point.le_refl _
  · next i hi =>
    split
    · next leaving arriving hl ha =>
      simp only [passed, hd, hi, Text.lineAfter_succ ha] at hline
      simp only [arriveLeft, hslot]
      split
      · next hn =>
        rw [if_pos hn] at hline
        refine Or.inl ?_
        rw [UInt32.lt_iff_toNat_lt, toNat_pred]
        omega
      · exact Or.inr ⟨rfl, pred_le _⟩
    · exact Point.le_refl _

/-- Turning to the left, the cursor leaves the line feed under it to its right. -/
theorem OnLine.turnLeft (h : OnLine text 0 k) (hd : k.direction = .right) {c : Char} (hc : text[k.index]? = some c) :
    OnLine text (if c = '\n' then 1 else 0) (k.face .left) := by
  refine ⟨h.columns, ?_⟩
  have hline := h.line
  simp only [passed, hd, Text.lineAfter_succ hc] at hline
  exact hline

/-- The cursor counts the line feeds that it has passed, and on its way to the left it may count more. -/
def Counts (text : Text) (k : Cursor) : Prop := ∃ drift, OnLine text drift k ∧ (k.direction = .right → drift = 0)

theorem Counts.advance (hlen : text.length < UInt32.size - 1) (h : Counts text k) : Counts text (k.advance text).2 := by
  obtain ⟨drift, hline, hdrift⟩ := h
  rw [Counts, advance_direction]
  refine ⟨drift, ?_, hdrift⟩
  unfold Cursor.advance
  split
  · next hd =>
    rw [hdrift hd] at hline ⊢
    exact hline.moveRight hlen hd
  · next hd => exact hline.moveLeft hd

theorem Counts.face (h : Counts text k) {c : Char} (hc : text[k.index]? = some c) {d : Direction}
    (hd : d = k.direction ∨ d = .left) : Counts text (k.face d) := by
  obtain ⟨drift, hline, hdrift⟩ := h
  cases hk : k.direction with
  | left =>
    have hsame : d = k.direction := hd.elim id (hk ▸ ·)
    rw [hsame]
    exact ⟨drift, hline, hdrift⟩
  | right =>
    rw [hdrift hk] at hline
    cases d with
    | right =>
      have hsame : k.face .right = k := by rw [← hk]; rfl
      rw [hsame]
      exact ⟨0, hline, fun _ => rfl⟩
    | left => exact ⟨_, hline.turnLeft hk hc, nofun⟩

/-- A cursor that moves to the left goes to no later point. -/
theorem Counts.advance_point_le (h : Counts text k) (hd : k.direction = .left) : (k.advance text).2.point ≤ k.point := by
  obtain ⟨drift, hline, -⟩ := h
  unfold Cursor.advance
  rw [hd]
  exact hline.moveLeft_point_le hd

end Cursor

/-- With one column for all lines and rules that go left, no step of a scan that goes left is at a later point than the one
before. -/
theorem Scan.ofText_point_ge {registry : Registry} (hrules : ∀ rule ∈ registry.rules, rule.direction = .left) (trivia : Trivia)
    {config : Config} (hm : config.memory = .lastLine) {text : Text} (hlen : text.length < UInt32.size - 1) :
    (ofText registry trivia config text).steps.toList.IsChain fun a b => a.departure = .left → a.point ≥ b.point := by
  have hlinks : Links registry trivia text (Cursor.Counts text) fun a k =>
      a.departure = .left → k.direction = .left ∧ a.point ≥ k.point := by
    refine ⟨fun k h => h.advance hlen, ?_, ?_⟩
    · intro a k hk h ha
      obtain ⟨hd, hle⟩ := h ha
      exact ⟨(k.advance_direction text).trans hd, Point.le_trans (hk.advance_point_le hd) hle⟩
    · rintro skipped c k stack made rfl hc hk
      have hopens : (step registry trivia text skipped c k stack).1.OpensOnly .left := fun a ha =>
        hrules a.rule (rule_mem_of_mem_opened ha)
      have hface := hk.face hc hopens.departure_eq_or
      refine ⟨hface, fun _ hleft => ?_⟩
      have hd : (k.face (step registry trivia text skipped c k stack).1.departure).direction = .left := hleft
      exact ⟨(Cursor.advance_direction ..).trans hd, hface.advance_point_le hd⟩
  have hstart : Cursor.Counts text ((Cursor.initial config.memory).enter text).2 := by
    rw [hm]
    exact ⟨0, .enter text, fun _ => rfl⟩
  refine (hlinks.isChain hstart).imp ?_
  rintro a b ⟨k, hk, hmet⟩ ha
  rw [hmet.point]
  exact (hk ha).2

/-! ## One-way rules -/

/-- Indices below `length` that rise up to a place and fall from there on are at most twice as many, less one. -/
theorem length_le_of_rise_fall {indices : List Nat} {length n : Nat} (hlt : ∀ i ∈ indices, i < length)
    (hrise : (indices.take (n + 1)).Pairwise (· < ·)) (hfall : (indices.drop n).Pairwise (· > ·)) :
    indices.length ≤ 2 * length - 1 := by
  have hcount : ∀ l : List Nat, l.Nodup → l.Sublist indices → l.length ≤ length := by
    intro l hnodup hsub
    have hperm := List.subperm_of_subset hnodup fun i hi => List.mem_range.2 (hlt i (hsub.subset hi))
    simpa using hperm.length_le
  have hup := hcount _ hrise.nodup (List.take_sublist ..)
  have hdown := hcount _ hfall.nodup (List.drop_sublist ..)
  rw [List.length_take] at hup
  rw [List.length_drop] at hdown
  omega

namespace Tokenizer

variable {t : Tokenizer} {d : Direction}

/-- Where all rules go one way, a step opens nothing but activations of this direction. -/
theorem opensOnly (hrules : ∀ rule ∈ t.registry.rules, rule.direction = d) (text : Text) :
    ∀ step ∈ (t.tokenize text).last.steps.toList, step.OpensOnly d := by
  intro step hstep a ha
  obtain ⟨n, hn⟩ := List.mem_iff_getElem?.1 hstep
  obtain ⟨c, r, -, rfl⟩ := t.exists_standsBefore text (by simpa using hn)
  exact hrules a.rule (Scan.rule_mem_of_mem_opened ha)

/-- Every step is on a character of the text. -/
theorem index_lt_length (t : Tokenizer) (text : Text) :
    ∀ step ∈ (t.tokenize text).last.steps.toList, step.index < text.length := by
  intro step hstep
  obtain ⟨n, hn⟩ := List.mem_iff_getElem?.1 hstep
  obtain ⟨c, r, hr, rfl⟩ := t.exists_standsBefore text (by simpa using hn)
  exact (List.getElem?_eq_some_iff.1 hr.2.2.1).1

/-- Where all rules go right, the indices of the steps rise. -/
theorem pairwise_index_of_right (hrules : ∀ rule ∈ t.registry.rules, rule.direction = .right) (text : Text) :
    ((t.tokenize text).last.steps.toList.map (·.index)).Pairwise (· < ·) := by
  have hopens := opensOnly hrules text
  have hchain : (t.tokenize text).last.steps.toList.IsChain Step.Precedes := Scan.ofText_precedes ..
  refine List.pairwise_map.2 (Step.pairwise_ahead hchain (Step.departure_of_head hchain hopens fun a ha => ?_))
  rcases (hopens a (List.mem_of_mem_head? ha)).departure_eq_or with hsame | hright
  · exact hsame.trans (Scan.ofText_head_direction _ _ _ _ a ha)
  · exact hright

/-- Where all rules go right, the points of the steps are exact with either memory. -/
theorem exact_of_right (hrules : ∀ rule ∈ t.registry.rules, rule.direction = .right) {text : Text}
    (hlen : text.length < UInt32.size - 1) :
    ∀ step ∈ (t.tokenize text).last.steps,
      text[step.index]? = some step.char ∧ step.point = text.pointAfter (step.index + 1) := by
  have hsame : (t.tokenize text).last = Scan.ofText t.registry t.trivia { t.config with memory := .everyLine } text :=
    Scan.ofText_eq_of_passesClear (passesClear_of_right hrules text) .everyLine
  rw [hsame]
  exact Scan.ofText_exact t.registry t.trivia { t.config with memory := .everyLine } text rfl hlen

/-- The steps on which an activation was opened and closed, where all rules go one way: from its opening on the scan goes this
way. -/
theorem exists_opened_closed (hrules : ∀ rule ∈ t.registry.rules, rule.direction = d) {text : Text} {r : Record}
    (hr : r ∈ (t.tokenize text).last.history) {n : Nat} (hn : n ∈ r.closedAt) :
    ∃ opened closed : Step, (t.tokenize text).last.steps.toList[r.openedAt]? = some opened ∧
      (t.tokenize text).last.steps.toList[n]? = some closed ∧ r.openedAt < n ∧ opened.departure = d ∧
      r.activation.rule.direction = d ∧ r.activation.location = r.activation.rule.span opened.point closed.point := by
  have h : (t.tokenize text).last.Replays := Scan.ofText_replays ..
  obtain ⟨opened, closed, hopened, hclosed, hloc⟩ := h.location_eq hr hn
  have hlt := (h.ledger.closedAt r (Array.mem_toList_iff.2 hr) n hn).1
  have hget : (t.tokenize text).last.steps.toList[r.openedAt]? = some opened := by rwa [Array.getElem?_toList]
  have hopens := opensOnly hrules text opened (List.mem_of_getElem? hget)
  -- The record is of an activation that the step has opened.
  have hkey : r.activation.key ∈ opened.opened.map (·.key) := by
    rw [h.map_key_opened hopened]
    exact List.mem_map.2 ⟨r, List.mem_filter.2 ⟨Array.mem_toList_iff.2 hr, beq_self_eq_true _⟩, rfl⟩
  obtain ⟨a, ha, hkey⟩ := List.mem_map.1 hkey
  have hrule : a.rule = r.activation.rule := congrArg Prod.fst hkey
  exact ⟨opened, closed, hget, by rwa [Array.getElem?_toList], hlt, hopens.departure_of_mem ha, hrule ▸ hopens a ha, hloc⟩

/-- Where all rules go one way and points are exact, a closed activation starts before it ends. -/
theorem location_start_lt_stop (hrules : ∀ rule ∈ t.registry.rules, rule.direction = d) {text : Text}
    (hlen : text.length < UInt32.size - 1)
    (hexact : ∀ step ∈ (t.tokenize text).last.steps, step.point = text.pointAfter (step.index + 1)) {r : Record}
    (hr : r ∈ (t.tokenize text).last.history) {n : Nat} (hn : n ∈ r.closedAt) :
    r.activation.location.start < r.activation.location.stop := by
  obtain ⟨opened, closed, hopened, hclosed, hlt, hdeparture, hrule, hloc⟩ := exists_opened_closed hrules hr hn
  have hchain : (t.tokenize text).last.steps.toList.IsChain Step.Precedes := Scan.ofText_precedes ..
  have hahead : d.Ahead opened.index closed.index :=
    rel_of_pairwise_drop (Step.pairwise_ahead (hchain.drop r.openedAt)
      (Step.departure_of_mem_drop hchain (opensOnly hrules text) hopened hdeparture)) hlt hopened hclosed
  have ho := t.index_lt_length text opened (List.mem_of_getElem? hopened)
  have hc := t.index_lt_length text closed (List.mem_of_getElem? hclosed)
  have hop := hexact opened (Array.mem_toList_iff.1 (List.mem_of_getElem? hopened))
  have hcp := hexact closed (Array.mem_toList_iff.1 (List.mem_of_getElem? hclosed))
  rw [hloc, Rule.span, hrule]
  cases d with
  | right =>
    show opened.point < closed.point
    rw [hop, hcp, Text.pointAfter_lt_iff hlen ho hc]
    exact Nat.succ_lt_succ hahead
  | left =>
    show closed.point < opened.point
    rw [hop, hcp, Text.pointAfter_lt_iff hlen hc ho]
    exact Nat.succ_lt_succ hahead

/-- Where all rules go left, with one column for all lines, a closed activation does not start after it ends. -/
theorem location_isValid_of_left (hrules : ∀ rule ∈ t.registry.rules, rule.direction = .left) (hm : t.config.memory = .lastLine)
    {text : Text} (hlen : text.length < UInt32.size - 1) {r : Record} (hr : r ∈ (t.tokenize text).last.history) {n : Nat}
    (hn : n ∈ r.closedAt) : r.activation.location.IsValid := by
  obtain ⟨opened, closed, hopened, hclosed, hlt, hdeparture, hrule, hloc⟩ := exists_opened_closed hrules hr hn
  have hleft := Step.departure_of_mem_drop (Scan.ofText_precedes ..) (opensOnly hrules text) hopened hdeparture
  have hpoints := (Scan.ofText_point_ge hrules t.trivia hm hlen).drop r.openedAt
  have hpairwise : ((t.tokenize text).last.steps.toList.drop r.openedAt).Pairwise fun a b => a.point ≥ b.point :=
    List.pairwise_map.1 (List.IsChain.pairwise ((List.isChain_map Step.point).2
      (hpoints.imp_of_mem_imp fun a b ha _ hab => hab (hleft a ha))))
  rw [hloc, Rule.span_isValid_iff, hrule]
  exact rel_of_pairwise_drop hpairwise hlt hopened hclosed

end Tokenizer

/-- Rules that all go one way, whatever the treatment of blanks and comments, the column memory and the budget are. If they go
right, the indices of the steps rise. If they go left, the indices rise up to one of them and fall from there on. So there are
less than two steps for each character, and a scan with the usual budget is never cut off. Every closed activation has a valid
location, and starts before it ends if the rules go right or if there is a column for every line. -/
theorem tokenize_one_way (t : Tokenizer) (d : Direction) (hrules : ∀ rule ∈ t.registry.rules, rule.direction = d) (text : Text)
    (hlen : text.length < UInt32.size - 1) :
    let s := (t.tokenize text).last
    let indices := s.steps.toList.map (·.index)
    (d = .right → indices.Pairwise (· < ·)) ∧
    (d = .left → ∃ n, (indices.take (n + 1)).Pairwise (· < ·) ∧ (indices.drop n).Pairwise (· > ·)) ∧
    s.steps.size ≤ 2 * text.length - 1 ∧
    (t.config.maxSteps = none → ¬ s.reports .stepLimit) ∧
    ∀ r ∈ s.history, r.closedAt.isSome →
      r.activation.location.IsValid ∧
        (t.config.memory = .everyLine ∨ d = .right → r.activation.location.start < r.activation.location.stop) := by
  intro s indices
  have hrise : d = .right → indices.Pairwise (· < ·) := by
    rintro rfl
    exact Tokenizer.pairwise_index_of_right hrules text
  have hfall : d = .left → ∃ n, (indices.take (n + 1)).Pairwise (· < ·) ∧ (indices.drop n).Pairwise (· > ·) := by
    rintro rfl
    exact Step.exists_rise_fall (Scan.ofText_precedes ..) (Tokenizer.opensOnly hrules text)
      (Scan.ofText_head_direction t.registry t.trivia t.config text)
  have hsize : s.steps.size ≤ 2 * text.length - 1 := by
    have hlt : ∀ i ∈ indices, i < text.length := List.forall_mem_map.2 (t.index_lt_length text)
    have hturn : ∃ n, (indices.take (n + 1)).Pairwise (· < ·) ∧ (indices.drop n).Pairwise (· > ·) := by
      cases d with
      | left => exact hfall rfl
      | right => exact ⟨indices.length, (hrise rfl).sublist (List.take_sublist ..), by simp⟩
    obtain ⟨n, hup, hdown⟩ := hturn
    simpa [indices] using length_le_of_rise_fall hlt hup hdown
  refine ⟨hrise, hfall, hsize, fun hnone hreports => ?_, fun r hr hclosed => ?_⟩
  · obtain ⟨n, -, hs⟩ := Round.iterate_ofText t.registry t.trivia t.config text
    have hcut := (Scan.ofText_reports_stepLimit_iff ..).1 hreports
    have hbudget := ((Round.cutOff_isSome_iff (Round.first_bounded ..) hs).1 hcut).1
    rw [Config.budget, hnone, Option.getD_none] at hbudget
    have : s.steps.size = 64 * text.length + 64 := hbudget
    omega
  · obtain ⟨n, hn⟩ := Option.isSome_iff_exists.1 hclosed
    have hstrict : t.config.memory = .everyLine ∨ d = .right → r.activation.location.start < r.activation.location.stop := by
      intro hexact
      refine Tokenizer.location_start_lt_stop hrules hlen (fun step hstep => ?_) hr hn
      rcases hexact with hm | rfl
      · exact (Scan.ofText_exact t.registry t.trivia t.config text hm hlen step hstep).2
      · exact (Tokenizer.exact_of_right hrules hlen step hstep).2
    refine ⟨?_, hstrict⟩
    cases hm : t.config.memory with
    | everyLine => exact Point.le_of_lt (hstrict (Or.inl hm))
    | lastLine =>
      cases d with
      | right => exact Point.le_of_lt (hstrict (Or.inr rfl))
      | left => exact Tokenizer.location_isValid_of_left hrules hm hlen hr hn

/-- The scan of this text makes as many steps as rules to the left allow: up to the last character and all the way back. It has
closed its activation, and is not cut off. -/
theorem tokenize_one_way_leftward :
    let s := (leftwardFromC.tokenize ['a', '\n', 'b', 'c']).last
    s.steps.toList.map (·.index) = [0, 1, 2, 3, 2, 1, 0] ∧ s.steps.size = 2 * 4 - 1 ∧
      (∃ n, ([0, 1, 2, 3, 2, 1, 0].take (n + 1)).Pairwise (· < ·) ∧ ([0, 1, 2, 3, 2, 1, 0].drop n).Pairwise (· > ·)) ∧
      ¬ s.reports .stepLimit ∧
      ∃ r ∈ s.history, r.closedAt = some 6 ∧ r.activation.location.start < r.activation.location.stop := by
  intro s
  obtain ⟨-, hfall, -, hlimit, hlocations⟩ := tokenize_one_way leftwardFromC .left (by
    intro rule hrule
    rw [List.mem_singleton.1 hrule]) ['a', '\n', 'b', 'c'] (by decide)
  have hindices : s.steps.toList.map (·.index) = [0, 1, 2, 3, 2, 1, 0] := by decide +kernel
  have hclosed : s.history[0]?.map (·.closedAt) = some (some 6) := by decide +kernel
  obtain ⟨r, hr, hn⟩ := Option.map_eq_some_iff.1 hclosed
  have hmem := Array.mem_of_getElem? hr
  refine ⟨hindices, by decide +kernel, hindices ▸ hfall rfl, hlimit rfl, r, hmem, hn, ?_⟩
  exact (hlocations r hmem (by rw [hn]; rfl)).2 (Or.inl rfl)

end RuleScanner
