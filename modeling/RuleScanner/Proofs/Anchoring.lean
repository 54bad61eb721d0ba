import RuleScanner.Proofs.DemoRules
import RuleScanner.Proofs.Progress

/-!
# Patterns between anchors

A word pattern is put between the anchors of the text's two ends, and a group around it, before it is read. Inside of that group the
pattern is read as it is alone, as long as the group is closed by the parenthesis behind it (`Progress.finish?_append`). Two kinds of
texts break that. A text with a parenthesis that closes nothing closes the group itself (`BreaksOut`): it is no pattern, but it may be
one between the anchors, and then these are not around all of it. A pattern that ends in a comment takes the anchor behind it into the
comment (`EndsInComment`), and is refused.

All other texts are word patterns if they are patterns, up to the limits on depth and size, and match words as a whole
(`Matcher.wordPattern_exact`). This holds of every engine that reads the syntax and searches as it should (`Engine.Documented`),
whatever sets it has names for and whatever its limits are.
-/

namespace RuleScanner.Pattern

/-! ## A pattern inside of a group -/

namespace Progress

variable {b b' : Progress} {c : Char} {cs rest r s : List Char} {part : Part}

/-- A brace with nothing behind it is no repetition. -/
theorem finish?_of_dangling (b : Progress) (h : Dangling b.context.mode r) (hs : s = [] ∨ Closes s ∧ '\n' ∉ s) :
    b.finish? (r ++ s) = none := by
  obtain ⟨t, rfl, ht⟩ := h
  have hskip : b.context.mode.skip ('\x7b' :: t ++ s) = '\x7b' :: (t ++ s) := by
    unfold Mode.skip
    split
    · rfl
    · rfl
  have hcloses : b.context.mode.skip (t ++ s) = [] ∨ Closes (b.context.mode.skip (t ++ s)) := by
    rcases hs with rfl | ⟨hs, hline⟩
    · rw [List.append_nil]
      exact Or.inl ht
    · rcases b.context.mode.skip_append t with ⟨hne, -⟩ | ⟨-, happend⟩ | ⟨-, happend⟩
      · exact absurd ht hne
      · rw [happend, Mode.skip_of_closes _ hs]
        exact Or.inr hs
      · rw [happend, Mode.dropBlanks_of_notMem hline]
        exact Or.inl rfl
  have hpiece : piece? b.context '\x7b' (t ++ s) = none := by
    simp only [piece?]
    rw [counts?_of_closes _ hcloses]
    rfl
  rw [finish?_of_skip_cons b hskip, step?, hpiece]
  rfl

/-- Reading on behind a first step, inside of other groups. -/
theorem within_finish? (hb : b.Sound) (hopen : c = ')' → b.outer ≠ []) (hcons : b.context.mode.skip cs = c :: rest)
    (modes : List Mode) (groups : List Group) (s : List Char) :
    (b.within modes groups).finish? (cs ++ s) =
      b.step? c (rest ++ s) >>= fun (b', r) => (b'.within modes groups).finish? r := by
  have hskip : (b.within modes groups).context.mode.skip (cs ++ s) = c :: (rest ++ s) := by
    rcases b.context.mode.skip_append cs with ⟨-, hskip⟩ | ⟨hnil, -⟩ | ⟨hnil, -⟩
    · rw [← List.cons_append, ← hcons]
      exact hskip s
    · cases hnil.symm.trans hcons
    · cases hnil.symm.trans hcons
  rw [finish?_of_skip_cons _ hskip, step?_within hb hopen]
  cases b.step? c (rest ++ s) <;> rfl

/-- A pattern that is read to its end is read to the same end inside of other groups, and then the parenthesis behind it closes the
group around it. But if the pattern ends in a comment, the parenthesis is part of that. -/
theorem finish?_append (hb : b.Sound) (h : b.finish? cs = some part) :
    (∃ b' : Progress, b'.Sound ∧ b'.outer = [] ∧ b'.group.inside = part ∧ ∀ modes groups {s}, Closes s →
        (b.within modes groups).finish? (cs ++ s) = (b'.within modes groups).finish? s) ∨
      ∀ modes groups {s}, Closes s → '\n' ∉ s →
        (b.within modes groups).finish? (cs ++ s) = if groups.isEmpty then some part else none := by
  induction b, cs using step_induction with
  | ending b cs hnil =>
    rw [finish?_of_skip_nil b hnil] at h
    obtain ⟨houter, rfl⟩ : b.outer = [] ∧ b.group.inside = part := by simpa using h
    rcases b.context.mode.skip_append cs with ⟨hne, -⟩ | ⟨-, hskip⟩ | ⟨-, hskip⟩
    · exact absurd hnil hne
    · refine Or.inl ⟨b, hb, houter, rfl, fun modes groups s hs => ?_⟩
      exact finish?_congr (b.within modes groups) (hskip s)
    · refine Or.inr fun modes groups s hs hline => ?_
      rw [finish?_of_skip_nil (b.within modes groups) ((hskip s).trans (Mode.dropBlanks_of_notMem hline))]
      simp [within, houter]
  | step b cs c rest hcons ih =>
    rw [finish?_of_skip_cons b hcons] at h
    obtain ⟨⟨b', r⟩, hstep, h⟩ := Option.bind_eq_some_iff.1 h
    have hopen : c = ')' → b.outer ≠ [] := by
      rintro rfl houter
      cases (step?_close hb houter rest).symm.trans hstep
    have hread := within_finish? hb hopen hcons
    rcases (loose_step? b c).keep hstep with hkept | ⟨rfl, hlost⟩
    · rcases ih b' r hstep (hb.step hstep) h with ⟨b'', hsound, houter, hpart, harrive⟩ | hlost
      · refine Or.inl ⟨b'', hsound, houter, hpart, fun modes groups s hs => ?_⟩
        rw [hread, hkept hs]
        exact harrive modes groups hs
      · refine Or.inr fun modes groups s hs hline => ?_
        rw [hread, hkept hs]
        exact hlost modes groups hs hline
    · refine Or.inr fun modes groups s hs hline => ?_
      obtain ⟨houter, rfl⟩ : b'.outer = [] ∧ b'.group.inside = part := by simpa [finish?_nil] using h
      rw [hread, hlost hs hline]
      simp [finish?_nil, within, houter]

/-- There is a closing parenthesis in the text that closes nothing, and the text before it is read to its end. -/
def BreaksOut (b : Progress) (cs : List Char) : Prop :=
  ∃ q rest, cs = q ++ ')' :: rest ∧ (b.finish? q).isSome ∧ b.finish? (q ++ [')']) = none

theorem breaksOut_of_close (hb : b.Sound) (houter : b.outer = []) (hcons : b.context.mode.skip cs = ')' :: rest) :
    b.BreaksOut cs := by
  obtain ⟨q, hq⟩ := b.context.mode.skip_suffix cs
  rw [hcons] at hq
  subst hq
  obtain ⟨hnil, hclose⟩ := Mode.skip_before_cons hcons []
  refine ⟨q, rest, rfl, ?_, ?_⟩
  · simp [finish?_of_skip_nil b hnil, houter]
  · rw [finish?_of_skip_cons b hclose, step?_close hb houter]
    rfl

/-- A parenthesis that closes nothing after a step closes nothing. -/
theorem BreaksOut.of_step (hcons : b.context.mode.skip cs = c :: rest) (hr : r <:+ rest)
    (hstep : b.step? c (rest ++ s) = some (b', r ++ s)) (h : b'.BreaksOut r) : b.BreaksOut cs := by
  obtain ⟨before, hbefore⟩ := b.context.mode.skip_suffix cs
  rw [hcons] at hbefore
  subst hbefore
  obtain ⟨middle, rfl⟩ := hr
  obtain ⟨q, left, rfl, hsome, hnone⟩ := h
  have hfirm : ¬ Dangling b'.context.mode q := by
    intro hd
    have hread := finish?_of_dangling b' hd (Or.inl rfl)
    rw [List.append_nil] at hread
    simp [hread] at hsome
  -- The step is the same whatever follows the parenthesis.
  have hcut : ∀ {s'}, s' = [] ∨ Closes s' → b.step? c (middle ++ q ++ s') = some (b', q ++ s') := by
    refine (loose_step? b c).cut (closes_cons (left ++ s)) ?_ hfirm
    simpa using hstep
  have hread : ∀ {s'}, s' = [] ∨ Closes s' → b.finish? (before ++ c :: (middle ++ q) ++ s') = b'.finish? (q ++ s') := by
    intro s' hs'
    have hskip := (Mode.skip_before_cons hcons (middle ++ q ++ s')).2
    rw [List.append_assoc, List.cons_append, finish?_of_skip_cons b hskip, hcut hs']
    rfl
  refine ⟨before ++ c :: (middle ++ q), left, by simp, ?_, ?_⟩
  · have hwhole := hread (Or.inl rfl)
    rw [List.append_nil, List.append_nil] at hwhole
    rw [hwhole]
    exact hsome
  · rw [hread (Or.inr (closes_cons []))]
    exact hnone

/-- Inside of a group no text is read to its end if no parenthesis closes. -/
theorem within_finish?_of_notMem {m : Mode} {top : Group} (h : ')' ∉ cs) : (b.within [m] [top]).finish? cs = none := by
  cases hread : (b.within [m] [top]).finish? cs with
  | none => rfl
  | some part => simpa [within] using outer_eq_nil_of_notMem _ h hread

/-- The one parenthesis that closes the group around has no other group to close. -/
theorem outer_eq_nil_of_within {t : List Char} {m : Mode} {top : Group} (ht : ')' ∉ t)
    (h : ((b.within [m] [top]).finish? (')' :: t)).isSome) : b.outer = [] := by
  obtain ⟨whole, h⟩ := Option.isSome_iff_exists.1 h
  rw [finish?_of_skip_cons _ (Mode.skip_of_closes _ rfl)] at h
  obtain ⟨⟨b', r⟩, hstep, h⟩ := Option.bind_eq_some_iff.1 h
  have hr := (loose_step? _ _).suffix hstep
  have houter := outer_eq_nil_of_notMem b' (fun hmem => ht (hr.mem hmem)) h
  rcases step?_cases hstep with ⟨hgroups, -⟩ | ⟨-, o, -, hgroups, -⟩ | ⟨hgroups, -⟩
  · cases houter.symm.trans hgroups
  · rw [houter] at hgroups
    obtain ⟨hnil, -⟩ : b.outer = [] ∧ top = o := by simpa [within, List.append_eq_cons_iff] using hgroups
    exact hnil
  · simp [houter, within] at hgroups

/-- A text that is read to its end inside of a group, with one parenthesis behind it, is read to its end alone, or it closes the group
itself. -/
theorem isSome_of_within {t : List Char} {m : Mode} {top : Group} (ht : ')' ∉ t) (hline : '\n' ∉ t) (hb : b.Sound)
    (h : ((b.within [m] [top]).finish? (cs ++ ')' :: t)).isSome) : (b.finish? cs).isSome ∨ b.BreaksOut cs := by
  have hline' : '\n' ∉ ')' :: t := by simpa using hline
  induction b, cs using step_induction with
  | ending b cs hnil =>
    rcases b.context.mode.skip_append cs with ⟨hne, -⟩ | ⟨-, hskip⟩ | ⟨-, hskip⟩
    · exact absurd hnil hne
    · rw [finish?_congr (b.within [m] [top]) (hskip _)] at h
      exact Or.inl (by simp [finish?_of_skip_nil b hnil, outer_eq_nil_of_within ht h])
    · rw [finish?_of_skip_nil (b.within [m] [top]) ((hskip _).trans (Mode.dropBlanks_of_notMem hline'))] at h
      simp [within] at h
  | step b cs c rest hcons ih =>
    by_cases hopen : c = ')' → b.outer ≠ []
    · rw [within_finish? hb hopen hcons] at h
      obtain ⟨whole, h⟩ := Option.isSome_iff_exists.1 h
      obtain ⟨⟨b', u⟩, hstep, h⟩ := Option.bind_eq_some_iff.1 h
      have hu := (loose_step? b c).suffix hstep
      rcases suffix_append_cases hu with ⟨r, rfl, hr⟩ | hlt
      · by_cases hd : Dangling b'.context.mode r
        · have hnone := finish?_of_dangling (b'.within [m] [top]) hd (Or.inr ⟨closes_cons t, hline'⟩)
          cases hnone.symm.trans h
        · have hcut := (loose_step? b c).cut (closes_cons t) hstep hd (Or.inl rfl)
          rw [List.append_nil, List.append_nil] at hcut
          rcases ih b' r hcut (hb.step hcut) (Option.isSome_iff_exists.2 ⟨whole, h⟩) with hsome | hbreak
          · rw [finish?_of_skip_cons b hcons, hcut]
            exact Or.inl hsome
          · exact Or.inr (hbreak.of_step hcons hr hstep)
      · -- The step takes the parenthesis, and nothing closes the group.
        have hle := List.suffix_of_suffix_length_le hu (List.suffix_append rest (')' :: t)) hlt.le
        have hut : u <:+ t := by
          rcases List.suffix_cons_iff.1 hle with rfl | hut
          · exact absurd hlt (Nat.lt_irrefl _)
          · exact hut
        cases (within_finish?_of_notMem fun hmem => ht (hut.mem hmem)).symm.trans h
    · obtain ⟨rfl, houter⟩ : c = ')' ∧ b.outer = [] := by simpa using hopen
      exact Or.inr (breaksOut_of_close hb houter hcons)

/-- No text is read to its end if a parenthesis in it closes nothing. -/
theorem BreaksOut.finish?_eq_none (hb : b.Sound) (h : b.BreaksOut cs) : b.finish? cs = none := by
  obtain ⟨q, rest, rfl, hsome, hnone⟩ := h
  obtain ⟨part, hq⟩ := Option.isSome_iff_exists.1 hsome
  rcases finish?_append hb hq with ⟨b', hb', houter, -, harrive⟩ | hlost
  · have hread := harrive [] [] (closes_cons rest)
    rw [within_nil, within_nil, finish?_of_skip_cons b' (Mode.skip_of_closes _ (closes_cons rest)), step?_close hb' houter] at hread
    exact hread
  · have hread := hlost [] [] (closes_cons []) (by decide)
    rw [within_nil, hnone] at hread
    cases hread

/-- Behind a pattern that is read to its end its group is closed, and then the end of the text is asked for. -/
theorem within_finish?_end (hb : b.Sound) (houter : b.outer = []) (database : Database) (top : Group) :
    (b.within [(start database).context.mode] [top]).finish? [')', '\\', 'z'] =
      some ((top.add (.part ⟨b.group.inside.regex, b.group.inside.height + 1⟩)).add (.part ⟨.look .textEnd, 0⟩)).inside := by
  have hmodes := hb.outer_eq_nil_iff.2 houter
  have hclose : b.group.close = ⟨b.group.inside.regex, b.group.inside.height + 1⟩ := by
    have hplain := hb.plain
    rw [houter] at hplain
    simp only [List.getLast?_nil, Option.getD_none] at hplain
    rw [Group.close, hplain]
  have hstep : (b.within [(start database).context.mode] [top]).step? ')' ['\\', 'z'] =
      some (⟨{ b.context with mode := { database }, outer := [] }, [], top.add (.part b.group.close)⟩, ['\\', 'z']) := by
    simp [step?, piece?, place?, within, Context.within, paired, hmodes, houter, start, Context.start]
  rw [finish?_of_skip_cons _ (Mode.skip_of_closes _ (closes_cons _)), hstep, hclose]
  rfl

end Progress

end RuleScanner.Pattern

/-! ## Expressions between the ends of a word -/

namespace RuleScanner.Regex

variable {word : List Char} {r s : Regex} {i j : Nat}

/-- A span starts inside of the word. -/
theorem Span.start_le_length (h : r.Span word i j) : i ≤ word.length := by
  induction r generalizing i j with
  | empty => exact h.2
  | set chars =>
    obtain ⟨-, c, hc, -⟩ := h
    obtain ⟨hi, -⟩ := List.getElem?_eq_some_iff.1 hc
    exact Nat.le_of_lt hi
  | look condition => exact h.2.1
  | seq r s ihr _ =>
    obtain ⟨k, hr, -⟩ := h
    exact ihr hr
  | alt r s ihr ihs => exact h.elim ihr ihs
  | times r least most _ => exact h.1
  | group number r ih => exact ih h

theorem isMatch_iff_exists_span : r.isMatch word ↔ ∃ i j, r.Span word i j := by
  rw [isMatch_iff]
  exact exists₂_congr fun i j => and_iff_right_of_imp Span.start_le_length

/-- A span of a chain is a span of its first part and then one of the other. -/
theorem span_append : (r.append s).Span word i j ↔ ∃ k, r.Span word i k ∧ s.Span word k j := by
  fun_induction append r s generalizing i with
  | case1 s =>
    constructor
    · intro h
      exact ⟨i, ⟨rfl, h.start_le_length⟩, h⟩
    · rintro ⟨k, ⟨rfl, -⟩, h⟩
      exact h
  | case2 s r t ih =>
    simp only [Span, ih]
    constructor
    · rintro ⟨k, hr, l, ht, hs⟩
      exact ⟨l, ⟨k, hr, ht⟩, hs⟩
    · rintro ⟨l, ⟨k, hr, ht⟩, hs⟩
      exact ⟨k, hr, l, ht, hs⟩
  | case3 r _ _ =>
    constructor
    · intro h
      exact ⟨j, h, rfl, h.le_length⟩
    · rintro ⟨k, h, rfl, -⟩
      exact h
  | case4 r s _ _ _ => exact Iff.rfl

/-- The expression between the two ends of a text. -/
def whole (r : Regex) : Regex := (look .textStart).append (r.append (look .textEnd))

theorem append_look_ne_empty (r : Regex) (condition : Look) : r.append (look condition) ≠ empty := by
  cases r <;> simp [append]

theorem whole_eq_seq (r : Regex) : r.whole = seq (look .textStart) (r.append (look .textEnd)) := by
  have hne := r.append_look_ne_empty .textEnd
  unfold whole
  generalize r.append (look .textEnd) = s at hne ⊢
  cases s with
  | empty => exact absurd rfl hne
  | _ => rfl

/-- The expression spans the word from its start to its end. -/
def Fills (r : Regex) (word : List Char) : Prop := r.Span word 0 word.length

/-- Between the two ends of a text an expression has a span in the words that it spans as a whole. -/
theorem exists_span_whole : (∃ i j, r.whole.Span word i j) ↔ r.Fills word := by
  rw [← isMatch_iff_exists_span, whole_eq_seq, isMatch_textStart]
  constructor
  · rintro ⟨j, hspan⟩
    obtain ⟨k, hr, hend⟩ := span_append.1 hspan
    obtain rfl := startsAt_textEnd.1 ⟨j, hend⟩
    exact hr
  · intro h
    obtain ⟨j, hend⟩ : (look .textEnd).StartsAt word word.length := startsAt_textEnd.2 rfl
    exact ⟨j, span_append.2 ⟨word.length, h, hend⟩⟩

end RuleScanner.Regex

/-! ## Patterns between the ends of a word -/

namespace RuleScanner.Pattern

/-- A parenthesis of the text closes nothing, and the text before it is a pattern. -/
def BreaksOut (database : Database) (pattern : List Char) : Prop :=
  ∃ q rest, pattern = q ++ ')' :: rest ∧ (parse? database q).isSome ∧ parse? database (q ++ [')']) = none

/-- The text is a pattern, and it would be one with a parenthesis behind it that closes nothing. That is so if the text ends in a
comment, of which the parenthesis is a part. -/
def EndsInComment (database : Database) (pattern : List Char) : Prop :=
  (parse? database pattern).isSome ∧ (parse? database (pattern ++ [')'])).isSome

/-- What is read in front of the group around a word pattern: the start of the text. -/
def startGroup : Group := { items := [.part ⟨.look .textStart, 0⟩] }

section

variable {database : Database} {pattern : List Char} {part : Part}

/-- Between its anchors a pattern is read inside of a group. -/
theorem parse?_anchored (database : Database) (pattern : List Char) :
    parse? database (anchored pattern) =
      ((Progress.start database).within [(Progress.start database).context.mode] [startGroup]).finish?
        (pattern ++ [')', '\\', 'z']) := by
  have hstart : (Progress.start database).step? '\\' ('A' :: '(' :: '?' :: ':' :: (pattern ++ [')', '\\', 'z'])) =
      some ({ Progress.start database with group := startGroup }, '(' :: '?' :: ':' :: (pattern ++ [')', '\\', 'z'])) := rfl
  have hgroup : Progress.step? { Progress.start database with group := startGroup } '('
      ('?' :: ':' :: (pattern ++ [')', '\\', 'z'])) =
      some ((Progress.start database).within [(Progress.start database).context.mode] [startGroup], pattern ++ [')', '\\', 'z']) := rfl
  calc parse? database (anchored pattern)
      = (Progress.start database).finish? ('\\' :: 'A' :: '(' :: '?' :: ':' :: (pattern ++ [')', '\\', 'z'])) := rfl
    _ = Progress.finish? { Progress.start database with group := startGroup }
          ('(' :: '?' :: ':' :: (pattern ++ [')', '\\', 'z'])) := by
        rw [Progress.finish?_of_skip_cons (Progress.start database) rfl, hstart]
        rfl
    _ = _ := by
        rw [Progress.finish?_of_skip_cons { Progress.start database with group := startGroup } rfl, hgroup]
        rfl

theorem sound_start (database : Database) : (Progress.start database).Sound := ⟨rfl, rfl⟩

/-- A text with a parenthesis that closes nothing is no pattern. -/
theorem BreaksOut.parse?_eq_none (h : BreaksOut database pattern) : parse? database pattern = none :=
  Progress.BreaksOut.finish?_eq_none (sound_start database) h

/-- What is read of a pattern between its anchors: its expression between the two ends of the text, two levels deeper. -/
def Part.whole (part : Part) : Part := ⟨part.regex.whole, part.height + 2⟩

theorem inside_startGroup (part : Part) :
    ((startGroup.add (.part ⟨part.regex, part.height + 1⟩)).add (.part ⟨.look .textEnd, 0⟩)).inside = part.whole := by
  have hend : (Regex.look .textEnd).append .empty = .look .textEnd := rfl
  simp [Group.inside, Group.bar, Group.add, Item.sequence, startGroup, Part.whole, Regex.whole, hend]

/-- Between its anchors a pattern has them around it, unless the one behind it is taken for a comment. -/
theorem parse?_anchored_of_parse? (h : parse? database pattern = some part) :
    (¬ EndsInComment database pattern → parse? database (anchored pattern) = some part.whole) ∧
      (EndsInComment database pattern → parse? database (anchored pattern) = none) := by
  rw [parse?_anchored]
  rcases Progress.finish?_append (sound_start database) h with ⟨b, hb, houter, rfl, harrive⟩ | hlost
  · have hnot : ¬ EndsInComment database pattern := by
      rintro ⟨-, hsome⟩
      have hread : parse? database (pattern ++ [')']) = (b.within [] []).finish? [')'] := harrive [] [] (closes_cons [])
      rw [hread, Progress.within_nil, Progress.finish?_of_skip_cons b (Mode.skip_of_closes _ (closes_cons [])),
        Progress.step?_close hb houter] at hsome
      cases hsome
    refine ⟨fun _ => ?_, fun hend => absurd hend hnot⟩
    rw [harrive _ [startGroup] (closes_cons _), Progress.within_finish?_end hb houter, inside_startGroup]
  · have hend : EndsInComment database pattern := by
      have hread : parse? database (pattern ++ [')']) = some part := hlost [] [] (closes_cons []) (by decide)
      exact ⟨Option.isSome_iff_exists.2 ⟨part, h⟩, Option.isSome_iff_exists.2 ⟨part, hread⟩⟩
    refine ⟨fun hnot => absurd hend hnot, fun _ => ?_⟩
    exact hlost _ [startGroup] (closes_cons _) (by decide)

/-- What is a pattern between anchors is one without them, or closes the group around it itself. -/
theorem isSome_parse?_of_anchored (h : (parse? database (anchored pattern)).isSome) :
    (parse? database pattern).isSome ∨ BreaksOut database pattern := by
  rw [parse?_anchored] at h
  exact Progress.isSome_of_within (by decide) (by decide) (sound_start database) h

/-- What a text that does not close the group around it is read as between its anchors. -/
theorem parse?_anchored_eq_some_iff (hbreak : ¬ BreaksOut database pattern) {around : Part} :
    parse? database (anchored pattern) = some around ↔
      ∃ part, parse? database pattern = some part ∧ ¬ EndsInComment database pattern ∧ part.whole = around := by
  constructor
  · intro hparse
    obtain ⟨part, hpart⟩ := Option.isSome_iff_exists.1 <|
      (isSome_parse?_of_anchored (Option.isSome_iff_exists.2 ⟨around, hparse⟩)).resolve_right hbreak
    obtain ⟨hanchored, hcomment⟩ := parse?_anchored_of_parse? hpart
    have hend : ¬ EndsInComment database pattern := by
      intro hend
      cases (hcomment hend).symm.trans hparse
    exact ⟨part, hpart, hend, Option.some.inj ((hanchored hend).symm.trans hparse)⟩
  · rintro ⟨part, hpart, hend, rfl⟩
    exact (parse?_anchored_of_parse? hpart).1 hend

end

/-! ## Engines -/

/-- The engine does what is said of engines. It accepts the texts of the syntax, with the sets of `database`, of which the depth and
the expression are within its limits `fits`; and it finds a pattern in the words that have a span of its expression somewhere. -/
structure Engine.Documented (engine : Engine) (database : Database) (fits : Part → Prop) : Prop where
  accepts : ∀ pattern, (∃ p, engine.compile pattern = .ok p) ↔ ∃ part, parse? database pattern = some part ∧ fits part
  isMatch : ∀ {pattern p part}, engine.compile pattern = .ok p → parse? database pattern = some part →
    ∀ word, p.isMatch word ↔ ∃ i j, part.regex.Span word i j

theorem Engine.compile_standard_eq_ok_iff {pattern : List Char} {p : Compiled} :
    Engine.standard.compile pattern = .ok p ↔
      ∃ part, parse? .standard pattern = some part ∧ part.fits ∧ { isMatch := part.regex.isMatch } = p := by
  cases hparse : parse? .standard pattern with
  | none => simp [standard, hparse]
  | some part =>
    by_cases hdepth : part.height ≤ deepest
    · by_cases hfits : part.fits <;> simp [standard, hparse, Option.filter, hdepth, hfits]
    · simp [standard, hparse, Option.filter, Part.fits, hdepth]

theorem Engine.standard_documented : Engine.standard.Documented .standard fun part => part.fits where
  accepts pattern := by
    simp only [compile_standard_eq_ok_iff]
    constructor
    · rintro ⟨p, part, hpart, hfits, -⟩
      exact ⟨part, hpart, hfits⟩
    · rintro ⟨part, hpart, hfits⟩
      exact ⟨_, part, hpart, hfits, rfl⟩
  isMatch hp hpart word := by
    obtain ⟨part, hpart', -, rfl⟩ := compile_standard_eq_ok_iff.1 hp
    cases hpart.symm.trans hpart'
    exact Regex.isMatch_iff_exists_span

section

variable {engine : Engine} {database : Database} {fits : Part → Prop} {pattern : String} {p : Compiled}

theorem compile_eq_ok_iff : compile pattern engine = .ok p ↔ engine.compile (anchored pattern.toList) = .ok p := by
  unfold compile
  cases engine.compile (anchored pattern.toList) <;> simp [Except.mapError]

/-- Of the texts that do not close the group around them, an engine makes word patterns of the patterns that do not end in a comment
and are within its limits with the anchors around. -/
theorem Engine.Documented.exists_compile_iff (h : engine.Documented database fits) (hbreak : ¬ BreaksOut database pattern.toList) :
    (∃ p, Pattern.compile pattern engine = .ok p) ↔
      ∃ part, parse? database pattern.toList = some part ∧ ¬ EndsInComment database pattern.toList ∧ fits part.whole := by
  simp only [compile_eq_ok_iff, h.accepts, parse?_anchored_eq_some_iff hbreak]
  constructor
  · rintro ⟨_, ⟨part, hpart, hend, rfl⟩, hfits⟩
    exact ⟨part, hpart, hend, hfits⟩
  · rintro ⟨part, hpart, hend, hfits⟩
    exact ⟨_, ⟨part, hpart, hend, rfl⟩, hfits⟩

/-- A word pattern matches the words that the expression of the pattern alone spans as a whole. -/
theorem Engine.Documented.isMatch_iff_fills (h : engine.Documented database fits) (hbreak : ¬ BreaksOut database pattern.toList)
    (hp : Pattern.compile pattern engine = .ok p) :
    ∃ part, parse? database pattern.toList = some part ∧ ∀ word, p.isMatch word ↔ part.regex.Fills word := by
  have hanchored := compile_eq_ok_iff.1 hp
  obtain ⟨around, haround, -⟩ := (h.accepts _).1 ⟨p, hanchored⟩
  obtain ⟨part, hpart, -, rfl⟩ := (parse?_anchored_eq_some_iff hbreak).1 haround
  refine ⟨part, hpart, fun word => ?_⟩
  rw [h.isMatch hanchored haround]
  exact Regex.exists_span_whole

end

end RuleScanner.Pattern

/-! ## Word patterns -/

namespace RuleScanner.Matcher

open Pattern

theorem wordPattern_eq_ok_iff {pattern : String} {engine : Engine} {m : Matcher} :
    wordPattern pattern engine = .ok m ↔ ∃ p, compile pattern engine = .ok p ∧ ofCompiled p = m := by
  unfold wordPattern
  cases compile pattern engine <;> simp [Except.map]

theorem wordPattern_eq_error_iff {pattern : String} {engine : Engine} {fault : Fault} :
    wordPattern pattern engine = .error fault ↔
      ∃ reason, engine.compile (anchored pattern.toList) = .error reason ∧ .invalidPattern pattern reason = fault := by
  unfold wordPattern compile
  cases engine.compile (anchored pattern.toList) <;> simp [Except.map, Except.mapError]

/-- A text that closes the group around it is no pattern, and no engine accepts it alone. Any other text makes a matcher exactly if it
is a pattern that does not end in a comment, and it nests and grows within the limits with the anchors and the group around it. The
matcher then holds at an index exactly if the index lies in a word, a longest run without white space, that the expression of the
pattern spans as a whole. Whatever makes no matcher is an invalid pattern, for the reason that the engine gives. -/
theorem wordPattern_exact {engine : Engine} {database : Database} {fits : Part → Prop} (h : engine.Documented database fits)
    (pattern : String) :
    (BreaksOut database pattern.toList →
        parse? database pattern.toList = none ∧ ∀ p, engine.compile pattern.toList ≠ .ok p) ∧
      (¬ BreaksOut database pattern.toList →
        ((∃ m, wordPattern pattern engine = .ok m) ↔ ∃ part, parse? database pattern.toList = some part ∧
          ¬ EndsInComment database pattern.toList ∧ fits ⟨part.regex.whole, part.height + 2⟩) ∧
        ∀ m, wordPattern pattern engine = .ok m → ∃ part, parse? database pattern.toList = some part ∧ ∀ c index (text : Text),
          m c index text ↔
            ∃ start stop, text.IsWord start stop ∧ start ≤ index ∧ index < stop ∧ part.regex.Fills (text.extract start stop)) ∧
      ∀ fault, wordPattern pattern engine = .error fault → fault.condition = .invalidRule ∧
        ∃ reason, engine.compile (anchored pattern.toList) = .error reason ∧ fault = .invalidPattern pattern reason := by
  refine ⟨fun hbreak => ⟨hbreak.parse?_eq_none, fun p hp => ?_⟩, fun hbreak => ⟨?_, fun m hm => ?_⟩, fun fault hfault => ?_⟩
  · obtain ⟨part, hpart, -⟩ := (h.accepts _).1 ⟨p, hp⟩
    cases hbreak.parse?_eq_none.symm.trans hpart
  · refine Iff.trans ?_ (h.exists_compile_iff hbreak)
    simp only [wordPattern_eq_ok_iff]
    constructor
    · rintro ⟨m, p, hp, -⟩
      exact ⟨p, hp⟩
    · rintro ⟨p, hp⟩
      exact ⟨_, p, hp, rfl⟩
  · obtain ⟨p, hp, rfl⟩ := wordPattern_eq_ok_iff.1 hm
    obtain ⟨part, hpart, hmatch⟩ := h.isMatch_iff_fills hbreak hp
    refine ⟨part, hpart, fun c index text => ?_⟩
    rw [Text.IsWord.exists_mem_iff, ofCompiled, Bool.and_eq_true, hmatch]
  · obtain ⟨reason, hreason, rfl⟩ := wordPattern_eq_error_iff.1 hfault
    exact ⟨rfl, reason, hreason, rfl⟩

/-- A choice is a pattern of words: whichever branch matches, it matches the whole word. -/
theorem wordPattern_exact_choice :
    Engine.standard.Documented .standard (fun part => part.fits) ∧ ¬ BreaksOut .standard "a|ab".toList ∧
      ∃ m, wordPattern "a|ab" = .ok m ∧ ∃ part, parse? .standard "a|ab".toList = some part ∧
        ∀ c index (text : Text), m c index text ↔
          ∃ start stop, text.IsWord start stop ∧ start ≤ index ∧ index < stop ∧ part.regex.Fills (text.extract start stop) := by
  have hbreak : ¬ BreaksOut .standard "a|ab".toList := by
    rintro ⟨q, rest, hq, -⟩
    have hmem : ')' ∈ "a|ab".toList := by
      rw [hq]
      simp
    exact absurd hmem (by decide)
  obtain ⟨m, hm⟩ : ∃ m, wordPattern "a|ab" = .ok m := ⟨_, rfl⟩
  exact ⟨Engine.standard_documented, hbreak, m, hm, ((wordPattern_exact Engine.standard_documented "a|ab").2.1 hbreak).2 m hm⟩

/-- A parenthesis that closes nothing leaves the two anchors in different branches: what is no pattern matches words that only start
as it says. A comment at the end of a pattern takes in the anchor behind it. -/
theorem wordPattern_breaks_out :
    Engine.standard.Documented .standard (fun part => part.fits) ∧
      (Engine.standard.compile "a)|(b".toList = .error "regex parse error" ∧
        ∃ m, wordPattern "a)|(b" = .ok m ∧ m 'a' 0 "ax".toList) ∧
      (∃ p, Engine.standard.compile "(?x)a#c".toList = .ok p) ∧
        wordPattern "(?x)a#c" = .error (.invalidPattern "(?x)a#c" "regex parse error") := by
  exact ⟨Engine.standard_documented, ⟨rfl, _, rfl, by decide +kernel⟩, ⟨_, rfl⟩, rfl⟩

end RuleScanner.Matcher
