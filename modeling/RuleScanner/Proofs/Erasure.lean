import RuleScanner.Proofs.Coordinates
import RuleScanner.Proofs.LineComments

/-!
# Comments can be erased before a scan

A text without its comments (`Trivia.strip`) has all characters that no comment covers. Each of them has in it a rank, the
number of such characters before it (`Trivia.rank`), and the same point: a comment takes no line feed away, and nothing is left
of the line after it (`Text.pointAfter_strip`).

So rules that look at nothing but the character take the same steps in both texts, each moved from its index to its rank
(`Scan.ofText_strip`). Two cursors go side by side. To the right the one in the text without comments is already where the other
will be after its jumps; to the left it is on the last character that the other will stop at (`Cursor.Aligned`).
-/

namespace RuleScanner

/-! ## Texts without comments -/

namespace Trivia

/-- The characters among the first `n` of the text that no comment covers. -/
def stripTo (trivia : Trivia) (text : Text) (n : Nat) : Text :=
  ((List.range n).filter (trivia.spares text)).filterMap (text[·]?)

/-- The text without its comments. -/
def strip (trivia : Trivia) (text : Text) : Text := trivia.stripTo text text.length

/-- How many of the first `n` characters of the text no comment covers. -/
def rank (trivia : Trivia) (text : Text) (n : Nat) : Nat := (trivia.stripTo text n).length

variable {trivia : Trivia} {text : Text} {m n : Nat} {c : Char}

theorem stripTo_succ_of_spares (h : trivia.spares text n) (hc : text[n]? = some c) :
    trivia.stripTo text (n + 1) = trivia.stripTo text n ++ [c] := by
  simp [stripTo, List.range_succ, h, hc]

theorem stripTo_succ_of_not_spares (h : ¬ trivia.spares text n) : trivia.stripTo text (n + 1) = trivia.stripTo text n := by
  simp [stripTo, List.range_succ, h]

@[simp] theorem rank_zero (trivia : Trivia) (text : Text) : trivia.rank text 0 = 0 := rfl

theorem rank_succ_of_spares (h : trivia.spares text n) (hc : text[n]? = some c) :
    trivia.rank text (n + 1) = trivia.rank text n + 1 := by
  rw [rank, stripTo_succ_of_spares h hc, List.length_append, rank, List.length_singleton]

/-- What is left of a beginning of the text is a beginning of what is left of more. -/
theorem stripTo_isPrefix (trivia : Trivia) (text : Text) (h : m ≤ n) : trivia.stripTo text m <+: trivia.stripTo text n := by
  obtain ⟨d, rfl⟩ := Nat.exists_eq_add_of_le h
  rw [stripTo, stripTo, List.range_add, List.filter_append, List.filterMap_append]
  exact List.prefix_append _ _

theorem rank_mono (trivia : Trivia) (text : Text) (h : m ≤ n) : trivia.rank text m ≤ trivia.rank text n :=
  (stripTo_isPrefix trivia text h).length_le

theorem rank_eq_of_not_spares (hmn : m ≤ n) (h : ∀ i, m ≤ i → i < n → ¬ trivia.spares text i) :
    trivia.rank text n = trivia.rank text m := by
  induction hmn with
  | refl => rfl
  | @step n hmn ih =>
    rw [rank, stripTo_succ_of_not_spares (h n hmn (Nat.lt_succ_self n))]
    exact ih fun i hi hin => h i hi (Nat.lt_succ_of_lt hin)

theorem length_strip_le (trivia : Trivia) (text : Text) : (trivia.strip text).length ≤ text.length :=
  calc (trivia.strip text).length ≤ ((List.range text.length).filter (trivia.spares text)).length := List.length_filterMap_le ..
    _ ≤ (List.range text.length).length := List.length_filter_le ..
    _ = text.length := List.length_range

/-- A character that no comment covers is in the text without comments at its rank. -/
theorem getElem?_strip (h : trivia.spares text n) (hc : text[n]? = some c) :
    (trivia.strip text)[trivia.rank text n]? = some c := by
  have hlt := (List.getElem?_eq_some_iff.1 hc).1
  obtain ⟨rest, hrest⟩ := stripTo_isPrefix trivia text (show n + 1 ≤ text.length from hlt)
  rw [stripTo_succ_of_spares h hc, List.append_assoc, List.singleton_append] at hrest
  rw [strip, ← hrest, rank, List.getElem?_append_right (Nat.le_refl _), Nat.sub_self]
  rfl

/-- The first characters of the text without comments are those that are left of the first characters of the text. -/
theorem take_strip (h : n ≤ text.length) : (trivia.strip text).take (trivia.rank text n) = trivia.stripTo text n :=
  (List.prefix_iff_eq_take.1 (stripTo_isPrefix trivia text h)).symm

end Trivia

namespace Text

variable {text marker : Text} {n : Nat}

/-- Characters that comments cover do not count. -/
theorem rank_eq_of_isCovered {m : Nat} (hmn : m ≤ n) (h : ∀ i, m ≤ i → i < n → text.IsCovered marker i) :
    (Trivia.lineComments marker).rank text n = (Trivia.lineComments marker).rank text m :=
  Trivia.rank_eq_of_not_spares hmn fun i hi hin hs => spares_iff.1 hs (h i hi hin)

/-- Comments take no line feed away. -/
theorem lineAfter_strip (marker : Text) (hn : n ≤ text.length) :
    lineAfter ((Trivia.lineComments marker).strip text) ((Trivia.lineComments marker).rank text n) = text.lineAfter n := by
  rw [lineAfter, lineAfter, Trivia.take_strip hn]
  congr 1
  induction n with
  | zero => rfl
  | succ n ih =>
    have hc := List.getElem?_eq_getElem hn
    rw [take_succ_of_getElem? hc, List.count_append, ← ih (Nat.le_of_lt hn)]
    by_cases hs : (Trivia.lineComments marker).spares text n
    · rw [Trivia.stripTo_succ_of_spares hs hc, List.count_append]
    · have hne : text[n] ≠ '\n' := by
        intro he
        exact hs (spares_iff.2 (not_isCovered_of_lineFeed (hc.trans (congrArg some he))))
      rw [Trivia.stripTo_succ_of_not_spares hs, List.count_singleton]
      simp [hne]

/-- A character that no comment covers has no comment before it on its line, so that its column stays what it was. -/
theorem columnAfter_strip {c : Char} (hs : (Trivia.lineComments marker).spares text n) (hc : text[n]? = some c) :
    columnAfter ((Trivia.lineComments marker).strip text) ((Trivia.lineComments marker).rank text (n + 1)) =
      text.columnAfter (n + 1) := by
  induction n generalizing c with
  | zero =>
    rw [Trivia.rank_succ_of_spares hs hc, columnAfter_succ hc, columnAfter_succ (Trivia.getElem?_strip hs hc), Trivia.rank_zero]
    rfl
  | succ n ih =>
    rw [Trivia.rank_succ_of_spares hs hc, columnAfter_succ hc, columnAfter_succ (Trivia.getElem?_strip hs hc)]
    by_cases hne : c = '\n'
    · rw [if_pos hne, if_pos hne]
    · have hlt : n < text.length := Nat.lt_of_succ_lt (List.getElem?_eq_some_iff.1 hc).1
      have hbefore : (Trivia.lineComments marker).spares text n := by
        rw [spares_iff]
        rintro ⟨start, hstart⟩
        exact spares_iff.1 hs ⟨start, hstart.succ hc hne⟩
      rw [if_neg hne, if_neg hne, ih hbefore (List.getElem?_eq_getElem hlt)]

/-- A character that no comment covers has the same point in the text without comments. -/
theorem pointAfter_strip {c : Char} (hs : (Trivia.lineComments marker).spares text n) (hc : text[n]? = some c) :
    pointAfter ((Trivia.lineComments marker).strip text) ((Trivia.lineComments marker).rank text n + 1) =
      text.pointAfter (n + 1) := by
  have hlt := (List.getElem?_eq_some_iff.1 hc).1
  rw [← Trivia.rank_succ_of_spares hs hc, pointAfter, pointAfter, lineAfter_strip marker hlt, columnAfter_strip hs hc]

end Text

/-! ## Two cursors -/

namespace Cursor

/-- The cursors `k` and `k'`, the one in a text and the other in the text without comments, face the same way, and both know
where they are. -/
structure Abreast (text marker : Text) (k k' : Cursor) : Prop where
  direction : k'.direction = k.direction
  exact_whole : k.Exact text
  exact_strip : k'.Exact ((Trivia.lineComments marker).strip text)

/-- The cursor `k` is on a character that no comment covers, and `k'` is on the same one. -/
structure Paired (text marker : Text) (k k' : Cursor) : Prop extends Abreast text marker k k' where
  inside : k.index < text.length
  spared : (Trivia.lineComments marker).spares text k.index
  index : k'.index = (Trivia.lineComments marker).rank text k.index

/-- The cursor `k'` is on the first character that no comment covers on the way of `k`. -/
structure Aligned (text marker : Text) (k k' : Cursor) : Prop extends Abreast text marker k k' where
  enters : k.Enters text marker
  index_right : k.direction = .right → k'.index = (Trivia.lineComments marker).rank text k.index
  index_left : k.direction = .left →
    k.index < text.length ∧ k'.index + 1 = (Trivia.lineComments marker).rank text (k.index + 1)

variable {text marker : Text} {k k' : Cursor}

theorem aligned_enter (text marker : Text) :
    Aligned text marker ((initial .everyLine).enter text).2
      ((initial .everyLine).enter ((Trivia.lineComments marker).strip text)).2 where
  direction := by rw [enter_initial_direction, enter_initial_direction]
  exact_whole := exact_enter _
  exact_strip := exact_enter _
  enters := enters_enter .everyLine text marker
  index_right _ := by rw [enter_initial_index, enter_initial_index, Trivia.rank_zero]
  index_left hd := by simp at hd

/-- Two cursors on the same character have the same point. -/
theorem Paired.point_eq (h : Paired text marker k k') : k'.point = k.point := by
  rw [h.exact_strip.point, h.exact_whole.point, h.index, Text.pointAfter_strip h.spared (List.getElem?_eq_getElem h.inside)]

theorem Paired.getElem? (h : Paired text marker k k') :
    ((Trivia.lineComments marker).strip text)[k'.index]? = text[k.index]? := by
  have hc := List.getElem?_eq_getElem h.inside
  rw [h.index, hc]
  exact Trivia.getElem?_strip h.spared hc

theorem Paired.inside_strip (h : Paired text marker k k') : k'.index < ((Trivia.lineComments marker).strip text).length :=
  (List.getElem?_eq_some_iff.1 (h.getElem?.trans (List.getElem?_eq_getElem h.inside))).1

theorem Paired.face (h : Paired text marker k k') (d : Direction) : Paired text marker (k.face d) (k'.face d) where
  direction := rfl
  exact_whole := ⟨h.exact_whole.point, h.exact_whole.columns⟩
  exact_strip := ⟨h.exact_strip.point, h.exact_strip.columns⟩
  inside := h.inside
  spared := h.spared
  index := h.index

/-- At the left edge of a text the other cursor is at the left edge too. -/
theorem Paired.atLeftEdge (h : Paired text marker k k') (hedge : k.atLeftEdge) : k'.atLeftEdge := by
  simp only [Cursor.atLeftEdge, Bool.and_eq_true, beq_iff_eq] at hedge ⊢
  exact ⟨h.direction.trans hedge.1, by rw [h.index, hedge.2, Trivia.rank_zero]⟩

/-- A move keeps two cursors abreast. -/
theorem Abreast.advance (hlen : text.length < UInt32.size - 1) (h : Abreast text marker k k') :
    Abreast text marker (k.advance text).2 (k'.advance ((Trivia.lineComments marker).strip text)).2 where
  direction := by rw [advance_direction, advance_direction, h.direction]
  exact_whole := advance_induction (fun _ hx => hx.moveRight) (fun _ hx => hx.moveLeft hlen) k h.exact_whole
  exact_strip := by
    have hstrip := Nat.lt_of_le_of_lt ((Trivia.lineComments marker).length_strip_le text) hlen
    exact advance_induction (fun _ hx => hx.moveRight) (fun _ hx => hx.moveLeft hstrip) k' h.exact_strip

/-- From the same character two cursors move on to the same one, unless that in the text without comments is at the left edge. -/
theorem Paired.advance (hlen : text.length < UInt32.size - 1) (h : Paired text marker k k') (hedge : k'.atLeftEdge = false) :
    Aligned text marker (k.advance text).2 (k'.advance ((Trivia.lineComments marker).strip text)).2 where
  toAbreast := h.toAbreast.advance hlen
  enters := enters_advance (Text.spares_iff.1 h.spared)
  index_right hd := by
    rw [advance_direction] at hd
    rw [advance_index_right hd, advance_index_right (h.direction.trans hd), h.index,
      Trivia.rank_succ_of_spares h.spared (List.getElem?_eq_getElem h.inside)]
  index_left hd := by
    rw [advance_direction] at hd
    have hd' := h.direction.trans hd
    have hpos' : k'.index ≠ 0 := by simpa [Cursor.atLeftEdge, hd'] using hedge
    have hpos : k.index ≠ 0 := by
      intro h0
      rw [h.index, h0, Trivia.rank_zero] at hpos'
      exact hpos' rfl
    have hinside := h.inside
    rw [advance_index_left hd hinside, advance_index_left hd' h.inside_strip, Nat.sub_add_cancel (Nat.pos_of_ne_zero hpos),
      Nat.sub_add_cancel (Nat.pos_of_ne_zero hpos')]
    exact ⟨by omega, h.index⟩

end Cursor

namespace Scan

variable {text marker : Text} {k k' j : Cursor} {skipped : List Skip} {visit : Option Char}

/-- Without comments the character to visit is the one under the cursor. -/
theorem settle_none (text : Text) (k : Cursor) : settle .none text k = ([], text[k.index]?, k) := by
  have hj : ∀ c, jump? .none text c k = none := by
    intro c
    unfold jump?
    split <;> rfl
  fun_cases settle .none text k <;> simp_all

/-- A cursor keeps its coordinates while it jumps over comments. -/
theorem settle_exact {trivia : Trivia} (hlen : text.length < UInt32.size - 1) (hk : k.Exact text)
    (h : settle trivia text k = (skipped, visit, j)) : j.Exact text := by
  have hj : (settle trivia text k).2.2.Exact text :=
    settle_induction (fun _ hx => hx.moveRight) (fun _ hx => hx.moveLeft hlen) k hk
  rwa [h] at hj

open Text in
/-- The character to visit has the index of the other cursor for its rank. -/
theorem rank_of_settle_some {c : Char} (hk : k.Aligned text marker k')
    (h : settle (.lineComments marker) text k = (skipped, some c, j)) :
    k'.index = (Trivia.lineComments marker).rank text j.index := by
  cases hd : k.direction with
  | right =>
    obtain ⟨hle, -, hbetween⟩ := (settle_right hd hk.enters h).1 rfl
    rw [hk.index_right hd, rank_eq_of_isCovered hle hbetween]
  | left =>
    obtain ⟨hinside, hrank⟩ := hk.index_left hd
    obtain ⟨hle, hfree, hbetween⟩ := (settle_left hd hinside h).1 rfl
    rw [rank_eq_of_isCovered (Nat.succ_le_succ hle) fun i hi hik => hbetween i hi (Nat.le_of_lt_succ hik),
      Trivia.rank_succ_of_spares (spares_iff.2 hfree) (settle_char h)] at hrank
    exact Nat.succ.inj hrank

open Text in
/-- If there is no character to visit, the other cursor is outside the text without comments. -/
theorem length_strip_le_of_settle_none (hk : k.Aligned text marker k')
    (h : settle (.lineComments marker) text k = (skipped, none, j)) :
    ((Trivia.lineComments marker).strip text).length ≤ k'.index := by
  cases hd : k.direction with
  | right =>
    have hall := (settle_right hd hk.enters h).2 rfl
    rw [hk.index_right hd]
    rcases Nat.le_total k.index text.length with hle | hge
    · exact Nat.le_of_eq (rank_eq_of_isCovered hle hall)
    · exact Trivia.rank_mono _ text hge
  | left =>
    obtain ⟨hinside, hrank⟩ := hk.index_left hd
    have hall := (settle_left hd hinside h).2 rfl
    rw [rank_eq_of_isCovered (Nat.zero_le _) fun i _ hik => hall i (Nat.le_of_lt_succ hik), Trivia.rank_zero] at hrank
    cases hrank

/-- A cursor that has jumped over all comments is on the same character as the other one, which has not moved. -/
theorem settle_aligned_some {c : Char} (hlen : text.length < UInt32.size - 1) (hk : k.Aligned text marker k')
    (h : settle (.lineComments marker) text k = (skipped, some c, j)) :
    settle .none ((Trivia.lineComments marker).strip text) k' = ([], some c, k') ∧ j.Paired text marker k' := by
  have hc := settle_char h
  have hpaired : j.Paired text marker k' :=
    { direction := hk.direction.trans (settle_direction h).symm
      exact_whole := settle_exact hlen hk.exact_whole h
      exact_strip := hk.exact_strip
      inside := (List.getElem?_eq_some_iff.1 hc).1
      spared := Text.spares_iff.2 (settle_not_isCovered hk.enters h)
      index := rank_of_settle_some hk h }
  rw [settle_none, hpaired.getElem?, hc]
  exact ⟨rfl, hpaired⟩

theorem settle_aligned_none (hk : k.Aligned text marker k')
    (h : settle (.lineComments marker) text k = (skipped, none, j)) :
    settle .none ((Trivia.lineComments marker).strip text) k' = ([], none, k') := by
  rw [settle_none, List.getElem?_eq_none_iff.2 (length_strip_le_of_settle_none hk h)]

/-- From a character that has only comments before it there is nothing to visit to the left. -/
theorem settle_advance_of_atLeftEdge (hk : k.Paired text marker k') (hedge : k.atLeftEdge = false) (hedge' : k'.atLeftEdge) :
    ∃ skipped j, settle (.lineComments marker) text (k.advance text).2 = (skipped, none, j) := by
  simp only [Cursor.atLeftEdge, Bool.and_eq_true, beq_iff_eq] at hedge'
  obtain ⟨hd', hindex'⟩ := hedge'
  have hd := hk.direction.symm.trans hd'
  have hpos : k.index ≠ 0 := by simpa [Cursor.atLeftEdge, hd] using hedge
  have hinside := hk.inside
  have hindex := Cursor.advance_index_left hd hinside
  rcases hs : settle (.lineComments marker) text (k.advance text).2 with ⟨skipped, _ | c, j⟩
  · exact ⟨skipped, j, rfl⟩
  · obtain ⟨hle, hfree, -⟩ := (settle_left ((k.advance_direction text).trans hd) (by omega) hs).1 rfl
    -- The character to visit would have a rank below that of `k`, which is zero.
    have hrank := Trivia.rank_mono (.lineComments marker) text (show j.index + 1 ≤ k.index by omega)
    rw [← hk.index, hindex', Trivia.rank_succ_of_spares (Text.spares_iff.2 hfree) (settle_char hs)] at hrank
    cases hrank

end Scan

/-! ## Two scans -/

/-- The step at another index, without the comments jumped over before. -/
def Step.moved (f : Nat → Nat) (s : Step) : Step := { s with skipped := [], index := f s.index }

/-- The fault with another index. -/
def Fault.moved (f : Nat → Nat) : Fault → Fault
  | .stepLimit budget index point => .stepLimit budget (f index) point
  | fault => fault

/-- The state with its steps at other indices, and another cursor. -/
def ScanState.moved (f : Nat → Nat) (k : Cursor) (s : ScanState) : ScanState where
  cursor := k
  stack := s.stack
  steps := s.steps.map (Step.moved f)

/-- The scan with its steps at other indices, without the comments jumped over. -/
def Scan.moved (f : Nat → Nat) (s : Scan) : Scan where
  steps := s.steps.map (Step.moved f)
  stack := s.stack
  cutOff := s.cutOff.map (Fault.moved f)

namespace Scan

variable {registry : Registry} {text marker : Text} {k k' : Cursor}

/-- Rules without matchers look at the character alone. -/
theorem opening_congr (hrules : ∀ rule ∈ registry.rules, rule.matcher = none) (closed : List Activation) (c : Char)
    (index index' : Nat) (text text' : Text) :
    opening registry closed c index text = opening registry closed c index' text' := by
  have haccepts : ∀ rule ∈ registry.rules, rule.accepts c index text = rule.accepts c index' text' := by
    intro rule hmem
    simp [Rule.accepts, hrules rule hmem]
  rw [opening, opening, Registry.candidates, Registry.candidates, List.filter_congr haccepts]

/-- On the same character the same step is made. -/
theorem step_strip (hrules : ∀ rule ∈ registry.rules, rule.matcher = none) (hk : k.Paired text marker k')
    (skipped : List Skip) (c : Char) (stack : Stack) :
    step registry .none ((Trivia.lineComments marker).strip text) [] c k' stack =
      ((step registry (.lineComments marker) text skipped c k stack).1.moved ((Trivia.lineComments marker).rank text),
        (step registry (.lineComments marker) text skipped c k stack).2) := by
  simp only [step, Step.moved, hk.point_eq, hk.direction, hk.index,
    opening_congr hrules _ c ((Trivia.lineComments marker).rank text k.index) k.index _ text]
  rfl

theorem visit_strip (hrules : ∀ rule ∈ registry.rules, rule.matcher = none) (hk : k.Paired text marker k')
    (skipped : List Skip) (c : Char) (s : ScanState) {k₀ : Cursor} :
    (s.moved ((Trivia.lineComments marker).rank text) k₀).visit registry .none ((Trivia.lineComments marker).strip text) [] c
        k' =
      (s.visit registry (.lineComments marker) text skipped c k).moved ((Trivia.lineComments marker).rank text)
        (k'.face (s.visit registry (.lineComments marker) text skipped c k).cursor.direction) := by
  simp only [ScanState.visit, ScanState.moved, step_strip hrules hk skipped c s.stack, Array.map_push]
  rfl

/-- Runs from two cursors that are aligned come to the same, but for the indices of the steps. -/
theorem run_strip (hrules : ∀ rule ∈ registry.rules, rule.matcher = none) (hlen : text.length < UInt32.size - 1)
    (budget left : Nat) (s : ScanState) (hk : s.cursor.Aligned text marker k') :
    run registry .none ((Trivia.lineComments marker).strip text) budget left
        (s.moved ((Trivia.lineComments marker).rank text) k') =
      (run registry (.lineComments marker) text budget left s).moved ((Trivia.lineComments marker).rank text) := by
  induction left generalizing s k' with
  | zero =>
    rcases hs : settle (.lineComments marker) text s.cursor with ⟨skipped, _ | c, k⟩
    · rw [run_over hs, run_over (settle_aligned_none hk hs)]
      rfl
    · obtain ⟨hs', hp⟩ := settle_aligned_some hlen hk hs
      rw [run_zero hs, run_zero hs', hp.point_eq, hp.index]
      rfl
  | succ left ih =>
    rcases hs : settle (.lineComments marker) text s.cursor with ⟨skipped, _ | c, k⟩
    · rw [run_over hs, run_over (settle_aligned_none hk hs)]
      rfl
    · obtain ⟨hs', hp⟩ := settle_aligned_some hlen hk hs
      rw [run_succ hs, run_succ hs', visit_strip hrules hp skipped c s]
      have hpaired := hp.face (s.visit registry (.lineComments marker) text skipped c k).cursor.direction
      change (s.visit registry (.lineComments marker) text skipped c k).cursor.Paired text marker _ at hpaired
      generalize s.visit registry (.lineComments marker) text skipped c k = s₁ at hpaired ⊢
      generalize k'.face s₁.cursor.direction = k₁ at hpaired ⊢
      cases hedge : s₁.cursor.atLeftEdge with
      | true => exact if_pos (hpaired.atLeftEdge hedge)
      | false =>
        split
        · next hedge' =>
          -- The scan of the text without comments is over, and the other one finds nothing but comments on its way.
          obtain ⟨skipped, j, hover⟩ := settle_advance_of_atLeftEdge hpaired hedge hedge'
          rw [if_neg Bool.false_ne_true, run_over hover]
          rfl
        · next hedge' => exact ih (s₁.move text) (hpaired.advance hlen (by simpa using hedge'))

/-- The scan of a text without its comments is that of the text, with each step at the rank of its index. -/
theorem ofText_strip (hrules : ∀ rule ∈ registry.rules, rule.matcher = none) (hlen : text.length < UInt32.size - 1)
    (marker : Text) (budget : Nat) :
    ofText registry .none { maxSteps := some budget } ((Trivia.lineComments marker).strip text) =
      (ofText registry (.lineComments marker) { maxSteps := some budget } text).moved
        ((Trivia.lineComments marker).rank text) := by
  have hrun := run_strip hrules hlen budget budget { cursor := ((Cursor.initial .everyLine).enter text).2 }
    (Cursor.aligned_enter text marker)
  rw [ScanState.moved, Array.map_empty] at hrun
  exact hrun

/-! ### What the index has no part in -/

variable (f : Nat → Nat) (s : Scan)

theorem tokens_moved : (s.moved f).tokens = s.tokens := by
  simp only [tokens, moved, Array.toList_map, List.flatMap_map]
  rfl

theorem map_char_point_moved :
    (s.moved f).steps.toList.map (fun step => (step.char, step.point)) =
      s.steps.toList.map fun step => (step.char, step.point) := by
  simp only [moved, Array.toList_map, List.map_map]
  rfl

/-- The index of a fault is in its wording only. -/
theorem unworded_toError_moved (fault : Fault) : (fault.moved f).toError.unworded = fault.toError.unworded := by
  cases fault <;> exact Fault.unworded_toError rfl rfl

theorem error?_moved : (s.moved f).error?.map ScanError.unworded = s.error?.map ScanError.unworded := by
  have hcut : (s.moved f).cutOff.toList.map (fun x => x.toError.unworded) =
      s.cutOff.toList.map fun x => x.toError.unworded := by
    cases hc : s.cutOff with
    | none => simp [moved, hc]
    | some fault => simp [moved, hc, unworded_toError_moved]
  rw [error?, error?, ScanError.unworded_combine, ScanError.unworded_combine, List.map_map, List.map_map, faults, faults,
    List.map_append, List.map_append]
  exact congrArg (fun x => ScanError.combine (x ++ _)) hcut

end Scan

/-- Comments can be erased before a scan. For any marker, any rules without matchers, any number of steps and any text that is
short enough, the scan of the text that skips line comments and the scan of the text without them that skips nothing find the
same tokens, visit the same characters at the same points and leave the same activations open. They succeed or fail alike, and
their errors have the same code and the same location. -/
theorem tokenize_strip (registry : Registry) (hrules : ∀ rule ∈ registry.rules, rule.matcher = none) (marker : Text)
    (budget : Nat) (text : Text) (hlen : text.length < UInt32.size - 1) :
    let comments := Trivia.lineComments marker
    let config : Config := { memory := .everyLine, maxSteps := some budget }
    let whole := (Tokenizer.tokenize { registry, trivia := comments, config } text).last
    let bare := (Tokenizer.tokenize { registry, trivia := .none, config } (comments.strip text)).last
    bare.tokens = whole.tokens ∧
    bare.steps.toList.map (fun step => (step.char, step.point)) =
      whole.steps.toList.map (fun step => (step.char, step.point)) ∧
    bare.openActivations = whole.openActivations ∧
    bare.result.toOption = whole.result.toOption ∧
    bare.error?.map (fun e => (e.code, e.location)) = whole.error?.map (fun e => (e.code, e.location)) := by
  intro comments config whole bare
  have hbare : bare = whole.moved (comments.rank text) := Scan.ofText_strip hrules hlen marker budget
  have htokens : bare.tokens = whole.tokens := by rw [hbare, Scan.tokens_moved]
  have herror : bare.error?.map ScanError.unworded = whole.error?.map ScanError.unworded := by
    rw [hbare, Scan.error?_moved]
  refine ⟨htokens, ?_, ?_, ?_, ?_⟩
  · rw [hbare, Scan.map_char_point_moved]
  · rw [hbare]
    rfl
  · have hnone := congrArg Option.isNone herror
    rw [Option.isNone_map, Option.isNone_map] at hnone
    rw [Scan.toOption_result, Scan.toOption_result, hnone, htokens]
  · have hseen := congrArg (Option.map fun e => (e.code, e.location)) herror
    rwa [Option.map_map, Option.map_map] at hseen

/-- In this text a rule turns the scan on the last character and takes it back over the comment. The scan is cut off before it
has closed the rule, on the first character, as it is without the comment. -/
theorem tokenize_strip_leftward :
    let registry : Registry := { rules := [{ name := "back", symbol := "c", terminator := "a", direction := .left }] }
    let comments := Trivia.lineComments ['#']
    let config : Config := { memory := .everyLine, maxSteps := some 4 }
    let text := ['a', '#', 'c', '\n', 'c']
    (∀ rule ∈ registry.rules, rule.matcher = none) ∧ text.length < UInt32.size - 1 ∧
    comments.strip text = ['a', '\n', 'c'] ∧
    (Tokenizer.tokenize { registry, trivia := comments, config } text).last.error?.map (fun e => (e.code, e.location)) =
      some (.single .stepLimit ∪ .single .unterminatedLeft, some (.point ⟨1, 1⟩)) := by
  intro registry comments config text
  have hrules : ∀ rule ∈ registry.rules, rule.matcher = none := by simp [registry]
  have hlen : text.length < UInt32.size - 1 := by decide
  obtain ⟨-, -, -, -, herror⟩ := tokenize_strip registry hrules ['#'] 4 text hlen
  refine ⟨hrules, hlen, by decide +kernel, ?_⟩
  rw [← herror]
  decide +kernel

end RuleScanner
