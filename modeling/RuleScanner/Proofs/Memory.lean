import RuleScanner.Proofs.Coordinates
import RuleScanner.Proofs.Outcome
import RuleScanner.Proofs.Visits

/-!
# Scans that differ in their column memory

A scan asks its cursor where it is, and the column memory answers nothing but coordinates. No coordinate decides what the scan
does next. So two scans that differ in their column memory alone go round in step, and what they come to is the same through
any map of points that tells no two of them apart (`Round.Alike.next`).

The same argument with the map that changes no point tells when they are equal. A move to the right counts alike with either
memory, and so does a move to the left between two characters that are no line feeds. The memories part where a scan leaves a
line feed to the left, or arrives at one from the right.
-/

namespace RuleScanner

/-! ## Points seen through a map -/

/-- The map tells no two points apart. -/
def Blind (f : Point → Point) : Prop := ∀ p q, f p = f q

def Location.mapPoints (f : Point → Point) (l : Location) : Location := ⟨f l.start, f l.stop⟩

def Token.mapPoints (f : Point → Point) (t : Token) : Token := { t with location := t.location.mapPoints f }

def Activation.mapPoints (f : Point → Point) (a : Activation) : Activation := { a with location := a.location.mapPoints f }

def Stack.mapPoints (f : Point → Point) (s : Stack) : Stack := { s with items := s.items.map (·.mapPoints f) }

def Step.mapPoints (f : Point → Point) (s : Step) : Step :=
  { s with
    point := f s.point
    blank := s.blank.map (·.mapPoints f)
    opened := s.opened.map (·.mapPoints f)
    closed := s.closed.map (·.mapPoints f) }

def Record.mapPoints (f : Point → Point) (r : Record) : Record := { r with activation := r.activation.mapPoints f }

def Fault.mapPoints (f : Point → Point) : Fault → Fault
  | .stepLimit budget index point => .stepLimit budget index (f point)
  | .unclosed rule direction origin => .unclosed rule direction (f origin)
  | fault => fault

/-- The scan with all its points seen through `f`. -/
def Scan.mapPoints (f : Point → Point) (s : Scan) : Scan where
  steps := s.steps.map (·.mapPoints f)
  skipped := s.skipped
  stack := s.stack.mapPoints f
  cutOff := s.cutOff.map (·.mapPoints f)

section

variable (f : Point → Point)

theorem Activation.mapPoints_opening (rule : Rule) {p q : Point} (h : f p = f q) (seq : Nat) :
    (opening rule p seq).mapPoints f = (opening rule q seq).mapPoints f := by
  cases hd : rule.direction <;> simp [opening, mapPoints, Location.mapPoints, Location.startingAt, Location.endingAt, hd, h]

theorem Activation.mapPoints_closeAt (a : Activation) (p : Point) :
    (a.closeAt p).mapPoints f = (a.mapPoints f).closeAt (f p) := by
  unfold closeAt
  cases hd : a.rule.direction <;> simp [mapPoints, Location.mapPoints, hd]

theorem Activation.origin_mapPoints (a : Activation) : (a.mapPoints f).origin = f a.origin := by
  unfold origin
  cases hd : a.rule.direction <;> simp [mapPoints, Location.mapPoints, hd]

theorem Stack.mapPoints_closing (s : Stack) (c : Char) (p : Point) :
    (s.closing c p).map (·.mapPoints f) = (s.mapPoints f).closing c (f p) := by
  have hcloses : (fun a : Activation => a.closesOn c) ∘ Activation.mapPoints f = fun a => a.closesOn c := rfl
  simp only [closing, mapPoints, List.takeWhile_map, List.map_map, hcloses]
  exact List.map_congr_left fun a _ => a.mapPoints_closeAt f p

theorem Stack.mapPoints_close (s : Stack) (c : Char) : (s.close c).mapPoints f = (s.mapPoints f).close c := by
  have hcloses : (fun a : Activation => a.closesOn c) ∘ Activation.mapPoints f = fun a => a.closesOn c := rfl
  simp only [close, mapPoints, List.dropWhile_map, hcloses]

end

/-! ## A step -/

namespace Scan

variable {f : Point → Point} {registry : Registry} {trivia : Trivia} {text : Text}

/-- Rules pushed on stacks that look alike, at points that look alike, give activations and stacks that look alike. -/
theorem mapPoints_openAll {p q : Point} (hp : f p = f q) (rules : List Rule) {stack stack' : Stack}
    (hs : stack.mapPoints f = stack'.mapPoints f) :
    (openAll p rules stack).1.map (·.mapPoints f) = (openAll q rules stack').1.map (·.mapPoints f) ∧
      (openAll p rules stack).2.mapPoints f = (openAll q rules stack').2.mapPoints f := by
  induction rules generalizing stack stack' with
  | nil => exact ⟨rfl, hs⟩
  | cons rule rules ih =>
    obtain ⟨hitems, hpushed⟩ := Stack.mk.inj hs
    have hnext : (stack.next rule p).mapPoints f = (stack'.next rule q).mapPoints f := by
      rw [Stack.next, Stack.next, hpushed]
      exact Activation.mapPoints_opening f rule hp _
    have hpush : (stack.push rule p).mapPoints f = (stack'.push rule q).mapPoints f := by
      simp only [Stack.push, Stack.mapPoints, List.map_cons, hnext, hitems, hpushed]
    obtain ⟨hopened, hstack⟩ := ih hpush
    refine ⟨?_, hstack⟩
    simp only [openAll, List.map_cons, hnext, hopened]

/-- Which rules open depends on the closed activations by their rules alone. -/
theorem opening_eq_of_mapPoints {closed closed' : List Activation}
    (h : closed.map (·.mapPoints f) = closed'.map (·.mapPoints f)) (registry : Registry) (c : Char) (index : Nat)
    (text : Text) : opening registry closed c index text = opening registry closed' c index text := by
  have hany : ∀ rule : Rule, closed.any (·.rule.name == rule.name) = closed'.any (·.rule.name == rule.name) := by
    intro rule
    have hmapped : ∀ as : List Activation,
        as.any (·.rule.name == rule.name) = (as.map (·.mapPoints f)).any (·.rule.name == rule.name) := by
      intro as
      rw [List.any_map]
      rfl
    rw [hmapped closed, hmapped closed', h]
  simp only [opening, hany]

end Scan

/-- The two cursors are on the same character and face the same way. If `f` tells any points apart, they have the same point.
-/
structure Cursor.Alike (f : Point → Point) (k k' : Cursor) : Prop where
  index : k.index = k'.index
  direction : k.direction = k'.direction
  point : ¬ Blind f → k.point = k'.point

theorem Cursor.Alike.map_point {f : Point → Point} {k k' : Cursor} (h : k.Alike f k') : f k.point = f k'.point := by
  by_cases hf : Blind f
  · exact hf _ _
  · rw [h.point hf]

/-- Of blanks at points that look alike, `trivia` makes tokens that look alike. -/
def Trivia.BlanksAlike (trivia : Trivia) (f : Point → Point) : Prop :=
  ∀ c p q, f p = f q →
    (trivia.blankToken c (.point p)).map (·.mapPoints f) = (trivia.blankToken c (.point q)).map (·.mapPoints f)

/-- Steps on the same character, with stacks that look alike, look alike, and lead on in the same direction. -/
theorem Scan.mapPoints_step {f : Point → Point} {trivia : Trivia} (hblank : trivia.BlanksAlike f) {k k' : Cursor}
    (hk : k.Alike f k') {stack stack' : Stack} (hs : stack.mapPoints f = stack'.mapPoints f) (registry : Registry) (text : Text)
    (skipped : List Skip) (c : Char) :
    (step registry trivia text skipped c k stack).1.mapPoints f =
        (step registry trivia text skipped c k' stack').1.mapPoints f ∧
      (step registry trivia text skipped c k stack).2.1.mapPoints f =
        (step registry trivia text skipped c k' stack').2.1.mapPoints f ∧
      (step registry trivia text skipped c k stack).2.2 = (step registry trivia text skipped c k' stack').2.2 := by
  have hclosed : (stack.closing c k.point).map (·.mapPoints f) = (stack'.closing c k'.point).map (·.mapPoints f) := by
    rw [Stack.mapPoints_closing, Stack.mapPoints_closing, hs, hk.map_point]
  have hrules : opening registry (stack.closing c k.point) c k.index text =
      opening registry (stack'.closing c k'.point) c k'.index text := by
    rw [hk.index]
    exact opening_eq_of_mapPoints hclosed ..
  have hclose : (stack.close c).mapPoints f = (stack'.close c).mapPoints f := by
    rw [Stack.mapPoints_close, Stack.mapPoints_close, hs]
  obtain ⟨hopened, hstack⟩ :=
    mapPoints_openAll hk.map_point (opening registry (stack'.closing c k'.point) c k'.index text) hclose
  have hlast : ∀ (p : Point) (rules : List Rule) (stack : Stack),
      (openAll p rules stack).1.getLast?.map (·.rule.direction) = rules.getLast?.map (·.direction) := by
    intro p rules stack
    rw [← map_rule_openAll p rules stack, List.getLast?_map, Option.map_map]
    simp only [map_rule_openAll]
    rfl
  refine ⟨?_, ?_, ?_⟩
  · simp only [step, hrules, Step.mapPoints, Step.mk.injEq, true_and]
    refine ⟨hk.index, hk.map_point, hk.direction, ?_, hopened, hclosed⟩
    split
    · exact hblank c _ _ hk.map_point
    · rfl
  · simp only [step, hrules]
    exact hstack
  · simp only [step, hlast, hrules, hk.direction]

/-! ## The moves of the cursor -/

/-- No character from the index `i` to the index `j` is a line feed. -/
def Text.FreeOfLineFeeds (text : Text) (i j : Nat) : Prop := ∀ n, i ≤ n → n ≤ j → text[n]? ≠ some '\n'

theorem Text.FreeOfLineFeeds.mono {text : Text} {i i' j j' : Nat} (h : text.FreeOfLineFeeds i j) (hi : i ≤ i') (hj : j' ≤ j) :
    text.FreeOfLineFeeds i' j' := fun n hin hnj => h n (Nat.le_trans hi hin) (Nat.le_trans hnj hj)

namespace Cursor

theorem arriveRight_point (k : Cursor) (c : Char) :
    (k.arriveRight c).point =
      if c = '\n' then ⟨k.point.line + 1, 0⟩ else ⟨k.point.line, k.point.column + 1⟩ := by
  unfold arriveRight
  split <;> rfl

theorem arriveLeft_point (k : Cursor) {leaving arriving : Char} (hl : leaving ≠ '\n') (ha : arriving ≠ '\n') :
    (k.arriveLeft leaving arriving).point = ⟨k.point.line, pred k.point.column⟩ := by
  unfold arriveLeft
  split
  · rw [if_neg hl]
  · rw [if_neg ha]

/-- Between two characters that are no line feeds, a move to the left goes back by a column with either memory. -/
theorem moveLeft_point {text : Text} {k : Cursor} {i : Nat} (hi : k.index = i + 1) (hlt : i + 1 < text.length)
    (hfree : text.FreeOfLineFeeds i (i + 1)) : (k.moveLeft text).2.point = ⟨k.point.line, pred k.point.column⟩ := by
  have hleaving := List.getElem?_eq_getElem hlt
  have harriving := List.getElem?_eq_getElem (Nat.lt_of_succ_lt hlt)
  unfold moveLeft
  rw [hi]
  simp only [hleaving, harriving]
  refine arriveLeft_point k ?_ ?_
  · exact fun he => hfree (i + 1) (Nat.le_succ i) (Nat.le_refl _) (he ▸ hleaving)
  · exact fun he => hfree i (Nat.le_refl i) (Nat.le_succ i) (he ▸ harriving)

namespace Alike

variable {f : Point → Point} {text : Text} {k k' : Cursor}

theorem enter (f : Point → Point) (memory memory' : ColumnMemory) (text : Text) :
    ((initial memory).enter text).2.Alike f ((initial memory').enter text).2 where
  index := by rw [enter_initial_index, enter_initial_index]
  direction := by rw [enter_initial_direction, enter_initial_direction]
  point := by
    intro _
    unfold Cursor.enter
    split
    · simp only [arriveRight_point]
      rfl
    · rfl

theorem face (h : k.Alike f k') (direction : Direction) : (k.face direction).Alike f (k'.face direction) :=
  ⟨h.index, rfl, h.point⟩

theorem atLeftEdge_eq (h : k.Alike f k') : k.atLeftEdge = k'.atLeftEdge := by
  rw [atLeftEdge, atLeftEdge, h.direction, h.index]

theorem moveRight_fst (h : k.Alike f k') (text : Text) : (k.moveRight text).1 = (k'.moveRight text).1 := by
  rw [Cursor.moveRight_fst, Cursor.moveRight_fst, h.index]

theorem moveRight (h : k.Alike f k') (text : Text) : (k.moveRight text).2.Alike f (k'.moveRight text).2 where
  index := by rw [moveRight_index, moveRight_index, h.index]
  direction := by rw [moveRight_direction, moveRight_direction, h.direction]
  point := by
    intro hf
    unfold Cursor.moveRight
    rw [← h.index]
    split
    · simp only [arriveRight_point, h.point hf]
    · exact h.point hf

/-- A move to the left in the text counts alike, if neither the character left nor the one reached is a line feed. -/
theorem moveLeft (h : k.Alike f k') (hlt : k.index < text.length)
    (hfree : ¬ Blind f → text.FreeOfLineFeeds (k.index - 1) k.index) :
    (k.moveLeft text).2.Alike f (k'.moveLeft text).2 where
  index := by rw [moveLeft_index hlt, moveLeft_index (h.index ▸ hlt), h.index]
  direction := by rw [moveLeft_direction, moveLeft_direction, h.direction]
  point := by
    intro hf
    cases hi : k.index with
    | zero =>
      rw [moveLeft_of_index_zero hi, moveLeft_of_index_zero (h.index ▸ hi)]
      exact h.point hf
    | succ i =>
      rw [hi] at hlt
      have hfree := hfree hf
      rw [hi] at hfree
      rw [moveLeft_point hi hlt hfree, moveLeft_point (h.index ▸ hi) hlt hfree, h.point hf]

theorem advance (h : k.Alike f k') (hlt : k.index < text.length)
    (hfree : ¬ Blind f → k.direction = .left → text.FreeOfLineFeeds (k.index - 1) k.index) :
    (k.advance text).2.Alike f (k'.advance text).2 := by
  cases hd : k.direction with
  | right =>
    rw [Cursor.advance, Cursor.advance, ← h.direction, hd]
    exact h.moveRight text
  | left =>
    rw [Cursor.advance, Cursor.advance, ← h.direction, hd]
    exact h.moveLeft hlt fun hf => hfree hf hd

theorem forward (h : k.Alike f k') (n : Nat) :
    (Cursor.forward text n k).1 = (Cursor.forward text n k').1 ∧
      (Cursor.forward text n k).2.Alike f (Cursor.forward text n k').2 := by
  refine ⟨by rw [forward_fst, forward_fst, h.index], ?_⟩
  induction n generalizing k k' with
  | zero => exact h
  | succ n ih =>
    have hfst := h.moveRight_fst text
    have hsnd := h.moveRight text
    rw [Cursor.forward, Cursor.forward]
    generalize k.moveRight text = moved at hfst hsnd ⊢
    generalize k'.moveRight text = moved' at hfst hsnd ⊢
    obtain ⟨inside, k₁⟩ := moved
    obtain ⟨_, k₁'⟩ := moved'
    cases hfst
    cases inside with
    | false => exact hsnd
    | true => exact ih hsnd

theorem backward (h : k.Alike f k') (hlt : k.index < text.length) (n : Nat)
    (hfree : ¬ Blind f → text.FreeOfLineFeeds (k.index - n) k.index) :
    (Cursor.backward text n k).Alike f (Cursor.backward text n k') := by
  induction n generalizing k k' with
  | zero => exact h
  | succ n ih =>
    have hmoved := h.moveLeft hlt fun hf => (hfree hf).mono (by omega) (Nat.le_refl _)
    rw [Cursor.backward, Cursor.backward]
    cases hi : k.index with
    | zero => rwa [moveLeft_of_index_zero hi, moveLeft_of_index_zero (h.index ▸ hi)] at hmoved ⊢
    | succ i =>
      obtain ⟨k₁, hk₁, hi₁⟩ := moveLeft_of_index_succ hi hlt
      obtain ⟨k₁', hk₁', -⟩ := moveLeft_of_index_succ (h.index ▸ hi) (h.index ▸ hlt)
      rw [hk₁, hk₁'] at hmoved ⊢
      refine ih hmoved (by omega) fun hf => (hfree hf).mono ?_ ?_ <;> omega

end Alike

end Cursor

/-! ## Rounds -/

/-- A jump from two cursors that are alike in a text is the same jump, and leads to cursors that are alike. -/
theorem Scan.jump?_alike {f : Point → Point} (trivia : Trivia) {text : Text} (c : Char) {k k' : Cursor} (h : k.Alike f k')
    (hlt : k.index < text.length)
    (hfree : ¬ Blind f → ∀ skip k₁, jump? trivia text c k = some (skip, true, k₁) → k₁.index < k.index →
      text.FreeOfLineFeeds k₁.index k.index) :
    Option.Rel (fun x y => x.1 = y.1 ∧ x.2.1 = y.2.1 ∧ x.2.2.Alike f y.2.2) (jump? trivia text c k)
      (jump? trivia text c k') := by
  unfold jump? at hfree ⊢
  rw [← h.direction, ← h.index]
  cases hd : k.direction with
  | right =>
    dsimp only
    split
    · refine .some ⟨rfl, ?_⟩
      rw [Cursor.skipTo, Cursor.skipTo, ← h.index]
      exact h.forward _
    · exact .none
  | left =>
    simp only [hd] at hfree
    dsimp only
    split
    · exact .some ⟨rfl, rfl, h⟩
    · next i hstart =>
      split
      · next hi =>
        -- The cursors are in the text, so that they arrive where the jump leads to.
        have hindex := Cursor.backward_index hlt (k.index - i)
        have hlt' : k'.index < text.length := h.index ▸ hlt
        have hback : (Cursor.backward text (k.index - i) k).Alike f (Cursor.backward text (k.index - i) k') := by
          refine h.backward hlt _ fun hf => ?_
          have hclear := hfree hf ⟨.left, k.index, i + 1⟩ (Cursor.backward text (k.index - i) k) (by
            rw [hstart]
            simp only [hi, if_true, Cursor.skipBackTo, hindex]
            rw [show k.index - (k.index - i) = i by omega]
            simp) (by omega)
          rwa [hindex] at hclear
        refine .some ⟨rfl, ?_, ?_⟩
        · simp only [Cursor.skipBackTo, ← h.index, hback.index]
        · simp only [Cursor.skipBackTo, ← h.index]
          exact hback
      · exact .none
    · exact .none

/-- Visits of the same character, in states that are alike, lead to states that are alike. -/
theorem ScanState.visit_alike {f : Point → Point} {trivia : Trivia} (hblank : trivia.BlanksAlike f) {s s' : ScanState}
    {k k' : Cursor} (hk : k.Alike f k') (hstack : s.stack.mapPoints f = s'.stack.mapPoints f)
    (hsteps : s.steps.map (·.mapPoints f) = s'.steps.map (·.mapPoints f)) (registry : Registry) (text : Text)
    (skipped : List Skip) (c : Char) :
    (s.visit registry trivia text skipped c k).cursor.Alike f (s'.visit registry trivia text skipped c k').cursor ∧
      (s.visit registry trivia text skipped c k).stack.mapPoints f =
        (s'.visit registry trivia text skipped c k').stack.mapPoints f ∧
      (s.visit registry trivia text skipped c k).steps.map (·.mapPoints f) =
        (s'.visit registry trivia text skipped c k').steps.map (·.mapPoints f) := by
  obtain ⟨hmade, hafter, hdirection⟩ := Scan.mapPoints_step hblank hk hstack registry text skipped c
  refine ⟨?_, hafter, ?_⟩
  · simp only [visit, hdirection]
    exact hk.face _
  · simp only [visit, Array.map_push, hsteps, hmade]

namespace Round

/-- The two scans stand in their rounds alike: with cursors that are alike, with stacks and steps that look alike, and after
the same jumps. -/
structure Alike (f : Point → Point) (r r' : Round) : Prop where
  cursor : r.state.cursor.Alike f r'.state.cursor
  stack : r.state.stack.mapPoints f = r'.state.stack.mapPoints f
  steps : r.state.steps.map (·.mapPoints f) = r'.state.steps.map (·.mapPoints f)
  skipped : r.skipped = r'.skipped

/-- From the one round to the next the scan passes no line feed to the left: if it goes left, there is none among the
characters from the one that it comes to to the one that it comes from. -/
def PassesClear (text : Text) (r r' : Round) : Prop :=
  r'.state.cursor.index < r.state.cursor.index → text.FreeOfLineFeeds r'.state.cursor.index r.state.cursor.index

variable {f : Point → Point} {registry : Registry} {trivia : Trivia} {text : Text} {budget : Nat}

/-- Scans that stand alike go round alike. -/
theorem Alike.next (hblank : trivia.BlanksAlike f) {r r' : Round} (h : r.Alike f r')
    (hfree : ¬ Blind f → ∀ r₁, r.next registry trivia text budget = .inr r₁ → r.PassesClear text r₁) :
    Sum.LiftRel (fun s s' => s.mapPoints f = s'.mapPoints f) (Alike f) (r.next registry trivia text budget)
      (r'.next registry trivia text budget) := by
  have hsize : r.state.steps.size = r'.state.steps.size := by simpa using congrArg Array.size h.steps
  cases hc : text[r.state.cursor.index]? with
  | none =>
    have hc' := hc
    rw [h.cursor.index] at hc'
    simp only [Round.next, hc, hc']
    refine .inl ?_
    simp only [Scan.mapPoints, h.steps, h.skipped, h.stack]
  | some c =>
    have hc' := hc
    rw [h.cursor.index] at hc'
    obtain ⟨hlt, -⟩ := List.getElem?_eq_some_iff.1 hc
    have hjump := Scan.jump?_alike trivia c h.cursor hlt fun hf skip k₁ hj =>
      hfree hf _ (next_skip hc hj)
    generalize hj : Scan.jump? trivia text c r.state.cursor = jumped at hjump
    generalize hj' : Scan.jump? trivia text c r'.state.cursor = jumped' at hjump
    cases hjump with
    | none =>
      by_cases hb : r.state.steps.size = budget
      · rw [next_cut registry hc hj hb, next_cut registry hc' hj' (hsize ▸ hb)]
        refine .inl ?_
        simp only [Scan.mapPoints, h.steps, h.skipped, h.stack, Option.map_some, Fault.mapPoints, h.cursor.index,
          h.cursor.map_point]
      · have hvisit := next_visit registry hc hj hb
        have hvisit' := next_visit registry hc' hj' (hsize ▸ hb)
        obtain ⟨hcursor, hstack, hsteps⟩ :=
          ScanState.visit_alike hblank h.cursor h.stack h.steps registry text r.skipped c
        rw [← h.skipped] at hvisit'
        have hindex : (r.state.visit registry trivia text r.skipped c r.state.cursor).cursor.index = r.state.cursor.index := rfl
        generalize r.state.visit registry trivia text r.skipped c r.state.cursor = s at *
        generalize r'.state.visit registry trivia text r.skipped c r'.state.cursor = s' at *
        rw [hvisit, hvisit', ← hcursor.atLeftEdge_eq]
        split
        · refine .inl ?_
          simp only [Scan.mapPoints, hsteps, hstack, Option.map_none]
        · next hedge =>
          refine .inr ⟨hcursor.advance (hindex ▸ hlt) fun hf hd => ?_, hstack, hsteps, rfl⟩
          have hpos : s.cursor.index ≠ 0 := by simpa [Cursor.atLeftEdge, hd] using hedge
          have hmoved : (s.move text).cursor.index = s.cursor.index - 1 := Cursor.advance_index_left hd (hindex ▸ hlt)
          have hclear := hfree hf { state := s.move text } (hvisit.trans (if_neg hedge))
          rw [PassesClear, hmoved, ← hindex] at hclear
          exact hclear (by omega)
    | @some x y hxy =>
      obtain ⟨skip, inside, k⟩ := x
      obtain ⟨skip', inside', k'⟩ := y
      obtain ⟨hskip, hinside, hk⟩ := hxy
      dsimp only at hskip hinside hk
      subst hskip hinside
      cases inside with
      | true =>
        rw [next_skip hc hj, next_skip hc' hj']
        exact .inr ⟨hk, h.stack, h.steps, by rw [h.skipped]⟩
      | false =>
        rw [next_leave hc hj, next_leave hc' hj']
        refine .inl ?_
        simp only [Scan.mapPoints, h.steps, h.skipped, h.stack]

/-- Scans that stand alike go round alike any number of times. -/
theorem Alike.iterate (hblank : trivia.BlanksAlike f) {r r' : Round} (h : r.Alike f r')
    (hfree : ¬ Blind f → ∀ n r₁ r₂, iterate registry trivia text budget n r = .inr r₁ →
      r₁.next registry trivia text budget = .inr r₂ → r₁.PassesClear text r₂) (n : Nat) :
    Sum.LiftRel (fun s s' => s.mapPoints f = s'.mapPoints f) (Alike f) (iterate registry trivia text budget n r)
      (iterate registry trivia text budget n r') := by
  induction n generalizing r r' with
  | zero => exact .inr h
  | succ n ih =>
    have hnext := h.next hblank fun hf r₁ hr₁ => hfree hf 0 r r₁ rfl hr₁
    generalize hr : r.next registry trivia text budget = after at hnext
    generalize hr' : r'.next registry trivia text budget = after' at hnext
    cases hnext with
    | inl hs =>
      rw [iterate_succ_of_inl hr, iterate_succ_of_inl hr']
      exact .inl hs
    | inr hround =>
      rw [iterate_succ_of_inr hr, iterate_succ_of_inr hr']
      exact ih hround fun hf m r₁ r₂ hm => hfree hf (m + 1) r₁ r₂ ((iterate_succ_of_inr hr m).trans hm)

end Round

/-- In no round does the scan of the text pass a line feed to the left. -/
def Tokenizer.PassesClear (t : Tokenizer) (text : Text) : Prop :=
  ∀ n r r', Round.iterate t.registry t.trivia text (t.config.budget text.length) n (.first t.config.memory text) = .inr r →
    r.next t.registry t.trivia text (t.config.budget text.length) = .inr r' → r.PassesClear text r'

/-- A text without line feeds is passed clear. -/
theorem Tokenizer.passesClear_of_notMem {text : Text} (h : '\n' ∉ text) (t : Tokenizer) : t.PassesClear text :=
  fun _ _ _ _ _ _ _ _ _ hn => h (List.mem_of_getElem? hn)

/-- Rules that go to the right never send a scan to the left. -/
theorem Tokenizer.passesClear_of_right {t : Tokenizer} (h : ∀ rule ∈ t.registry.rules, rule.direction = .right) (text : Text) :
    t.PassesClear text := by
  intro n r r' hn hnext hlt
  have hright : r.state.cursor.direction = .right := by
    refine Round.iterate_induction (P := fun r => r.state.cursor.direction = .right) ?_ ?_ hn
    · intro r r' hr hnext
      obtain ⟨c, -, ⟨skip, k, hj, rfl⟩ | ⟨-, -, rfl⟩⟩ := Round.next_eq_inr hnext
      · exact (Scan.jump?_direction hj).trans hr
      · exact (Cursor.advance_direction ..).trans (Scan.visit_direction h t.trivia text r.skipped c hr r.state)
    · exact Cursor.enter_initial_direction ..
  obtain ⟨c, hc, ⟨skip, k, hj, rfl⟩ | ⟨-, -, rfl⟩⟩ := Round.next_eq_inr hnext
  · have hbehind := Scan.jump?_isBehind hc hj
    rw [Cursor.IsBehind, hright] at hbehind
    exact absurd hlt (Nat.lt_asymm hbehind)
  · have hmoved : ((r.state.visit t.registry t.trivia text r.skipped c r.state.cursor).move text).cursor.index =
        r.state.cursor.index + 1 :=
      Cursor.advance_index_right (Scan.visit_direction h t.trivia text r.skipped c hright r.state) text
    rw [hmoved] at hlt
    exact absurd hlt (Nat.not_lt_of_lt (Nat.lt_succ_self _))

namespace Scan

variable {f : Point → Point}

/-- Scans that differ in their column memory alone look alike. -/
theorem mapPoints_ofText (registry : Registry) {trivia : Trivia} (hblank : trivia.BlanksAlike f) (maxSteps : Option Nat)
    (text : Text) {memory : ColumnMemory}
    (hfree : ¬ Blind f → Tokenizer.PassesClear { registry, trivia, config := { memory, maxSteps } } text)
    (memory' : ColumnMemory) :
    (ofText registry trivia { memory, maxSteps } text).mapPoints f =
      (ofText registry trivia { memory := memory', maxSteps } text).mapPoints f := by
  obtain ⟨n, -, hn⟩ := Round.iterate_ofText registry trivia { memory, maxSteps } text
  obtain ⟨n', -, hn'⟩ := Round.iterate_ofText registry trivia { memory := memory', maxSteps } text
  have hfirst : (Round.first memory text).Alike f (.first memory' text) := ⟨.enter f memory memory' text, rfl, rfl, rfl⟩
  have halike := hfirst.iterate hblank hfree n
  rw [hn] at halike
  generalize hs : Round.iterate registry trivia text _ n (.first memory' text) = after at halike
  cases halike with
  | inl h =>
    rw [h]
    exact congrArg _ (Round.iterate_inl_unique hs hn')

/-! ## What no coordinate has a part in -/

variable (f) (s : Scan)

theorem tokens_mapPoints : (s.mapPoints f).tokens = s.tokens.map (·.mapPoints f) := by
  have hstep : ∀ step : Step, (step.mapPoints f).tokens = step.tokens.map (·.mapPoints f) := by
    intro step
    simp only [Step.tokens, Step.mapPoints, List.map_append, List.map_map, Option.toList_map]
    rfl
  simp only [tokens, mapPoints, Array.toList_map, List.flatMap_map, List.map_flatMap, hstep]

theorem faults_mapPoints : (s.mapPoints f).faults = s.faults.map (·.mapPoints f) := by
  have hunclosed : ∀ a : Activation, unclosed (a.mapPoints f) = (unclosed a).mapPoints f := by
    intro a
    rw [unclosed, a.origin_mapPoints]
    rfl
  simp only [faults, mapPoints, openActivations, Stack.toList, Stack.mapPoints, List.map_append, ← List.map_reverse,
    List.map_map, Option.toList_map]
  congr 1
  exact List.map_congr_left fun a _ => hunclosed a

/-- The code of an error does not depend on where its faults are. -/
theorem map_code_error?_mapPoints : (s.mapPoints f).error?.map (·.code) = s.error?.map (·.code) := by
  have hcode : ∀ fault : Fault, (fault.mapPoints f).toError.code = fault.toError.code := by
    intro fault
    cases fault with
    | unclosed rule direction origin => cases direction <;> rfl
    | _ => rfl
  have hcombine : ∀ faults : List Fault, (ScanError.combine ((faults.map (·.mapPoints f)).map Fault.toError)).map (·.code) =
      (ScanError.combine (faults.map Fault.toError)).map (·.code) := by
    intro faults
    cases faults with
    | nil => rfl
    | cons fault rest =>
      simp only [List.map_cons, ScanError.combine, Option.map_some, ScanError.code_foldl, List.map_map, hcode]
      congr 2
      exact List.map_congr_left fun x _ => hcode x
  rw [error?, error?, faults_mapPoints]
  exact hcombine s.faults

end Scan

namespace History

def mapPoints (f : Point → Point) (h : History) : History := h.map (·.mapPoints f)

variable (f : Point → Point)

theorem mapPoints_opened (k : Nat) (h : History) (a : Activation) :
    (opened k h a).mapPoints f = opened k (h.mapPoints f) (a.mapPoints f) := Array.map_push

theorem mapPoints_closed (k : Nat) (h : History) (a : Activation) :
    (closed k h a).mapPoints f = closed k (h.mapPoints f) (a.mapPoints f) := by
  refine Array.ext_getElem? fun i => ?_
  have hseq : (a.mapPoints f).seq = a.seq := rfl
  simp only [closed, mapPoints, Array.getElem?_map, Array.getElem?_modify, Option.map_map, hseq]
  split
  · rw [Option.map_map]
    rfl
  · rfl

theorem mapPoints_add (h : History) (k : Nat) (step : Step) :
    (h.add k step).mapPoints f = (h.mapPoints f).add k (step.mapPoints f) := by
  simp only [add, Step.mapPoints, List.foldl_map]
  rw [List.foldl_hom (mapPoints f) fun h a => (mapPoints_opened f k h a).symm,
    List.foldl_hom (mapPoints f) fun h a => (mapPoints_closed f k h a).symm]

theorem mapPoints_addAll (h : History) (k : Nat) (steps : List Step) :
    (h.addAll k steps).mapPoints f = (h.mapPoints f).addAll k (steps.map (·.mapPoints f)) := by
  induction steps generalizing h k with
  | nil => rfl
  | cons step steps ih => rw [addAll, ih, mapPoints_add, List.map_cons, addAll]

end History

/-- The records of the mapped scan are those of the scan, mapped. -/
theorem Scan.history_mapPoints (f : Point → Point) (s : Scan) : (s.mapPoints f).history = s.history.mapPoints f := by
  rw [history, history, History.mapPoints_addAll, History.mapPoints, Array.map_empty, mapPoints, Array.toList_map]

/-! ## Both memories -/

/-- The three sets of categories of a token. -/
def Token.categories (t : Token) : FlagSet SymbolKind × FlagSet ReferentKind × FlagSet ExpressionKind :=
  (t.symbol, t.referent, t.expression)

/-- Whether a blank yields a token, and the categories of the token, do not depend on where the blank is. -/
def Trivia.BlanksUnplaced (trivia : Trivia) : Prop :=
  ∀ c l l', (trivia.blankToken c l).map Token.categories = (trivia.blankToken c l').map Token.categories

theorem Trivia.BlanksUnplaced.alike {trivia : Trivia} (h : trivia.BlanksUnplaced) (p₀ : Point) :
    trivia.BlanksAlike fun _ => p₀ := by
  intro c p q _
  have hcat := congrArg (Option.map fun x => Token.mk (.point p₀) x.1 x.2.1 x.2.2) (h c (.point p) (.point q))
  rw [Option.map_map, Option.map_map] at hcat
  exact hcat

namespace Scan

theorem mapPoints_id (s : Scan) : s.mapPoints id = s := by
  have hactivation : Activation.mapPoints id = id := rfl
  have hstep : Step.mapPoints id = id := by
    funext step
    obtain ⟨skipped, index, char, point, direction, blank, opened, closed⟩ := step
    have htoken : Token.mapPoints id = id := rfl
    simp [Step.mapPoints, hactivation, htoken]
  have hfault : Fault.mapPoints id = id := by
    funext fault
    cases fault <;> rfl
  obtain ⟨steps, skipped, stack, cutOff⟩ := s
  simp [mapPoints, Stack.mapPoints, hactivation, hstep, hfault]

/-- Where the scan with one memory passes no line feed to the left, the scan with any memory is the same. -/
theorem ofText_eq_of_passesClear {registry : Registry} {trivia : Trivia} {maxSteps : Option Nat} {text : Text}
    {memory : ColumnMemory} (h : Tokenizer.PassesClear { registry, trivia, config := { memory, maxSteps } } text)
    (memory' : ColumnMemory) :
    ofText registry trivia { memory, maxSteps } text = ofText registry trivia { memory := memory', maxSteps } text := by
  have hblank : trivia.BlanksAlike id := by
    intro c p q hpq
    rw [show p = q from hpq]
  have hmapped := mapPoints_ofText registry hblank maxSteps text (fun _ => h) memory'
  rwa [mapPoints_id, mapPoints_id] at hmapped

end Scan

/-- Which activation the record is of, and when it was opened and closed. -/
def Record.outline (r : Record) : Rule × Nat × Nat × Option Nat :=
  (r.activation.rule, r.activation.seq, r.openedAt, r.closedAt)

/-- The column memory has no part in what a scan does, whatever the rules, the comments, the number of steps and the text are,
if blanks yield the same tokens everywhere. With either memory the scan visits the same characters, opens and closes the same
activations on the same steps, and finds tokens of the same categories; its error has the same code. But for the points, the
two scans are the same. If a scan passes no line feed to the left, from it or to it, with one memory, the scans are the same
with their points. This is so if all rules go right, and if the text has no line feed. -/
theorem tokenize_memory (registry : Registry) (trivia : Trivia) (maxSteps : Option Nat) (text : Text) :
    let t := fun memory => ({ registry, trivia, config := { memory, maxSteps } } : Tokenizer)
    let s := fun memory => ((t memory).tokenize text).last
    (trivia.BlanksUnplaced →
      (s .everyLine).steps.toList.map (·.index) = (s .lastLine).steps.toList.map (·.index) ∧
      (s .everyLine).history.toList.map Record.outline = (s .lastLine).history.toList.map Record.outline ∧
      (s .everyLine).tokens.map Token.categories = (s .lastLine).tokens.map Token.categories ∧
      (s .everyLine).error?.map (·.code) = (s .lastLine).error?.map (·.code) ∧
      (s .everyLine).mapPoints (fun _ => .unset) = (s .lastLine).mapPoints fun _ => .unset) ∧
    (∀ memory, (t memory).PassesClear text → s .everyLine = s .lastLine) ∧
    ((∀ rule ∈ registry.rules, rule.direction = .right) ∨ '\n' ∉ text → ∀ memory, (t memory).PassesClear text) ∧
    Trivia.none.BlanksUnplaced ∧ ∀ marker, (Trivia.lineComments marker).BlanksUnplaced := by
  intro t s
  refine ⟨fun hblank => ?_, fun memory h => ?_, ?_, fun _ _ _ => rfl, fun _ _ _ _ => rfl⟩
  · have hmapped : (s .everyLine).mapPoints (fun _ => .unset) = (s .lastLine).mapPoints fun _ => .unset :=
      Scan.mapPoints_ofText registry (hblank.alike .unset) maxSteps text (fun h => absurd (fun _ _ => rfl) h) .lastLine
    -- What is read off a scan without its points is read off the mapped scan.
    have hread : ∀ {α : Type} (g : Scan → α), (∀ s, g (s.mapPoints fun _ => .unset) = g s) →
        g (s .everyLine) = g (s .lastLine) := by
      intro α g hg
      rw [← hg (s .everyLine), ← hg (s .lastLine), hmapped]
    refine ⟨hread (fun s => s.steps.toList.map (·.index)) fun s => ?_,
      hread (fun s => s.history.toList.map Record.outline) fun s => ?_,
      hread (fun s => s.tokens.map Token.categories) fun s => ?_,
      hread (fun s => s.error?.map (·.code)) fun s => s.map_code_error?_mapPoints _, hmapped⟩
    · simp only [Scan.mapPoints, Array.toList_map, List.map_map]
      rfl
    · rw [Scan.history_mapPoints, History.mapPoints, Array.toList_map, List.map_map]
      rfl
    · rw [Scan.tokens_mapPoints, List.map_map]
      rfl
  · exact (Scan.ofText_eq_of_passesClear h .everyLine).symm.trans (Scan.ofText_eq_of_passesClear h .lastLine)
  · rintro (h | h) memory
    · exact Tokenizer.passesClear_of_right h text
    · exact Tokenizer.passesClear_of_notMem h (t memory)

/-- In the first text the scans cross the line feed on their way back, and visit the same characters at other points. In the
second text there is none to cross, and they are the same. -/
theorem tokenize_memory_leftward :
    let s := fun memory text => (Tokenizer.tokenize { leftwardFromC with config := { memory } } text).last
    (s .everyLine ['a', '\n', 'b', 'c']).steps.toList.map (·.index) =
      (s .lastLine ['a', '\n', 'b', 'c']).steps.toList.map (·.index) ∧
    (s .everyLine ['a', '\n', 'b', 'c']).steps.toList.map (·.point) ≠
      (s .lastLine ['a', '\n', 'b', 'c']).steps.toList.map (·.point) ∧
    s .everyLine ['a', 'b', 'c'] = s .lastLine ['a', 'b', 'c'] := by
  intro s
  obtain ⟨hsame, -, -, hnone, -⟩ := tokenize_memory leftwardFromC.registry .none none ['a', '\n', 'b', 'c']
  obtain ⟨-, hequal, hclear, -⟩ := tokenize_memory leftwardFromC.registry .none none ['a', 'b', 'c']
  exact ⟨(hsame hnone).1, by decide +kernel, hequal .everyLine (hclear (Or.inr (by decide)) .everyLine)⟩

end RuleScanner
