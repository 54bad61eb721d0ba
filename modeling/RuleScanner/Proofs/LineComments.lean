import RuleScanner.Proofs.Rounds

/-!
# Line comments

A line comment runs from a marker to the end of its line. A scan to the right knows of it only what it finds under the cursor, a
marker or none; a scan to the left asks for the first marker of the line. Both mean the same characters: those that a comment
covers (`Text.Covers`). A scan never stands in the midst of a comment without having been told so (`Cursor.Enters`), so that it
finds the next character on its way that no comment covers (`Scan.settle_right`, `Scan.settle_left`). A run that is never turned
to the left therefore visits all such characters, one after the other (`Scan.run_indices`).
-/

namespace RuleScanner

/-- No comment covers the index. -/
def Trivia.spares (trivia : Trivia) (text : Text) (index : Nat) : Bool := (trivia.commentStart? index text).isNone

namespace Text

/-! ## Lines -/

/-- The line of an index starts at or before `n` exactly if no line feed stands from `n` on before the index. -/
theorem lineStart_le_iff (text : Text) (index n : Nat) :
    text.lineStart index ≤ n ↔ ∀ m, n ≤ m → m < index → text[m]? ≠ some '\n' := by
  induction index with
  | zero => simp [lineStart]
  | succ index ih =>
    rw [lineStart]
    split
    · next hfeed =>
      constructor
      · intro hle m hnm hm
        omega
      · intro hall
        refine Nat.lt_of_not_le fun hle => ?_
        exact hall index hle (Nat.lt_succ_self index) hfeed
    · next hfeed =>
      rw [ih]
      constructor
      · intro hall m hnm hm
        rcases Nat.lt_succ_iff_lt_or_eq.1 hm with hlt | rfl
        · exact hall m hnm hlt
        · exact hfeed
      · intro hall m hnm hm
        exact hall m hnm (Nat.lt_succ_of_lt hm)

/-- The line of an index ends at the first line feed from there on, or at the end of the text. -/
theorem lineEnd_spec (text : Text) {index : Nat} (h : index ≤ text.length) :
    index ≤ text.lineEnd index ∧ text.lineEnd index ≤ text.length ∧
      (∀ n, index ≤ n → n < text.lineEnd index → text[n]? ≠ some '\n') ∧
      (text.lineEnd index < text.length → text[text.lineEnd index]? = some '\n') := by
  unfold lineEnd
  split
  · next offset hfind =>
    obtain ⟨hlt, hfeed, hbefore⟩ := List.findIdx?_eq_some_iff_getElem.1 hfind
    rw [List.length_drop] at hlt
    refine ⟨by omega, by omega, fun n hn hno => ?_, fun _ => ?_⟩
    · have hne := hbefore (n - index) (by omega)
      rw [List.getElem_drop] at hne
      rw [List.getElem?_eq_getElem (by omega)]
      simpa [show index + (n - index) = n by omega] using hne
    · rw [List.getElem_drop] at hfeed
      rw [List.getElem?_eq_getElem (by omega)]
      simpa using hfeed
  · next hfind =>
    refine ⟨h, Nat.le_refl _, fun n hn hlt hfeed => ?_, fun hlt => absurd hlt (Nat.lt_irrefl _)⟩
    rw [List.findIdx?_eq_none_iff] at hfind
    have hmem : '\n' ∈ text.drop index := by
      rw [List.mem_iff_getElem?]
      exact ⟨n - index, by rw [List.getElem?_drop, show index + (n - index) = n by omega, hfeed]⟩
    simpa using hfind '\n' hmem

/-! ## Comments -/

/-- The comment that starts with the marker at `start` covers `index`: no line feed stands from the one to the other. -/
structure Covers (text marker : Text) (start index : Nat) : Prop where
  ne_nil : marker ≠ []
  marked : text.hasMarkerAt marker start
  le : start ≤ index
  lt : index < text.length
  sameLine : ∀ n, start ≤ n → n ≤ index → text[n]? ≠ some '\n'

/-- A comment covers the index. -/
def IsCovered (text marker : Text) (index : Nat) : Prop := ∃ start, text.Covers marker start index

variable {text marker : Text} {start index : Nat}

/-- A comment covers all characters from its marker up to one that it covers. -/
theorem Covers.of_le (h : text.Covers marker start index) {n : Nat} (hs : start ≤ n) (hn : n ≤ index) :
    text.Covers marker start n where
  ne_nil := h.ne_nil
  marked := h.marked
  le := hs
  lt := Nat.lt_of_le_of_lt hn h.lt
  sameLine m hm hmn := h.sameLine m hm (Nat.le_trans hmn hn)

/-- A comment that covers a character covers the next one, unless that is a line feed. -/
theorem Covers.succ (h : text.Covers marker start index) {c : Char} (hc : text[index + 1]? = some c) (hne : c ≠ '\n') :
    text.Covers marker start (index + 1) where
  ne_nil := h.ne_nil
  marked := h.marked
  le := Nat.le_succ_of_le h.le
  lt := (List.getElem?_eq_some_iff.1 hc).1
  sameLine m hm hmi := by
    rcases Nat.lt_or_eq_of_le hmi with hlt | rfl
    · exact h.sameLine m hm (Nat.le_of_lt_succ hlt)
    · rw [hc]
      simpa using hne

theorem not_isCovered_of_lineFeed (h : text[index]? = some '\n') : ¬ text.IsCovered marker index := by
  rintro ⟨start, hs⟩
  exact hs.sameLine index hs.le (Nat.le_refl index) h

/-- On a character that is no line feed a comment starts at any marker of the line that is not beyond it. -/
theorem covers_iff (hm : marker ≠ []) {c : Char} (hc : text[index]? = some c) (hne : c ≠ '\n') :
    text.Covers marker start index ↔
      text.hasMarkerAt marker start ∧ text.lineStart index ≤ start ∧ start ≤ index := by
  rw [lineStart_le_iff]
  constructor
  · intro h
    exact ⟨h.marked, fun n hn hni => h.sameLine n hn (Nat.le_of_lt hni), h.le⟩
  · rintro ⟨hmarked, hline, hle⟩
    refine ⟨hm, hmarked, hle, (List.getElem?_eq_some_iff.1 hc).1, fun n hn hni => ?_⟩
    rcases Nat.lt_or_eq_of_le hni with hlt | rfl
    · exact hline n hn hlt
    · rw [hc]
      simpa using hne

/-- Where there is no character, or a line feed, or for an empty marker, there is no comment. -/
theorem isCovered_cases (text marker : Text) (index : Nat) :
    ((Trivia.lineComments marker).commentStart? index text = none ∧ ¬ text.IsCovered marker index) ∨
    marker ≠ [] ∧ (∃ c, text[index]? = some c ∧ c ≠ '\n') ∧
      (Trivia.lineComments marker).commentStart? index text =
        (List.range' (text.lineStart index) (index + 1 - text.lineStart index)).find? (text.hasMarkerAt marker ·) := by
  by_cases hm : marker = []
  · left
    exact ⟨by simp [Trivia.lineComments, hm], fun ⟨start, hs⟩ => hs.ne_nil hm⟩
  cases hc : text[index]? with
  | none =>
    left
    refine ⟨by simp [Trivia.lineComments, hc], fun ⟨start, hs⟩ => ?_⟩
    exact absurd hs.lt (Nat.not_lt_of_le (List.getElem?_eq_none_iff.1 hc))
  | some c =>
    by_cases hne : c = '\n'
    · left
      subst hne
      exact ⟨by simp [Trivia.lineComments, hc], not_isCovered_of_lineFeed hc⟩
    · right
      exact ⟨hm, ⟨c, rfl, hne⟩, by simp [Trivia.lineComments, Trivia.firstMarker?, hm, hc, hne]⟩

theorem lineStart_le (text : Text) (index : Nat) : text.lineStart index ≤ index :=
  (text.lineStart_le_iff index index).2 fun _ hle hlt => absurd hle (Nat.not_le_of_lt hlt)

/-- The comment that covers an index starts at the first of all markers that could start it. -/
theorem commentStart?_eq_some_iff :
    (Trivia.lineComments marker).commentStart? index text = some start ↔
      text.Covers marker start index ∧ ∀ other, text.Covers marker other index → start ≤ other := by
  rcases isCovered_cases text marker index with ⟨hnone, hnot⟩ | ⟨hm, ⟨c, hc, hne⟩, hfind⟩
  · rw [hnone]
    exact ⟨nofun, fun h => absurd ⟨start, h.1⟩ hnot⟩
  have hline := text.lineStart_le index
  simp only [hfind, covers_iff hm hc hne, List.find?_range'_eq_some, List.mem_range'_1]
  constructor
  · rintro ⟨hmarked, ⟨hle, hlt⟩, hfirst⟩
    refine ⟨⟨hmarked, hle, by omega⟩, fun other ⟨homarked, hole, _⟩ => Nat.le_of_not_lt fun hlt' => ?_⟩
    simpa [homarked] using hfirst other hole hlt'
  · rintro ⟨⟨hmarked, hle, hlt⟩, hleast⟩
    refine ⟨hmarked, ⟨hle, by omega⟩, fun other hole hlt' => ?_⟩
    cases homarked : text.hasMarkerAt marker other with
    | false => rfl
    | true => exact absurd (hleast other ⟨homarked, hole, by omega⟩) (Nat.not_le_of_lt hlt')

theorem commentStart?_eq_none_iff :
    (Trivia.lineComments marker).commentStart? index text = none ↔ ¬ text.IsCovered marker index := by
  rcases isCovered_cases text marker index with ⟨hnone, hnot⟩ | ⟨hm, ⟨c, hc, hne⟩, hfind⟩
  · exact iff_of_true hnone hnot
  have hline := text.lineStart_le index
  simp only [hfind, IsCovered, covers_iff hm hc hne, List.find?_range'_eq_none]
  constructor
  · rintro hall ⟨start, hmarked, hle, hlt⟩
    simpa [hmarked] using hall start hle (by omega)
  · intro hnot start hle hlt
    cases hmarked : text.hasMarkerAt marker start with
    | false => rfl
    | true => exact absurd ⟨start, hmarked, hle, by omega⟩ hnot

theorem spares_iff : (Trivia.lineComments marker).spares text index ↔ ¬ text.IsCovered marker index := by
  rw [Trivia.spares, Option.isNone_iff_eq_none, commentStart?_eq_none_iff]

/-- A comment covers all characters from its marker to the end of the line. -/
theorem covers_of_lt_lineEnd (hm : marker ≠ []) (hmarked : text.hasMarkerAt marker start) (hstart : start ≤ text.length)
    (hle : start ≤ index) (hlt : index < text.lineEnd start) : text.Covers marker start index := by
  obtain ⟨-, hlen, hline, -⟩ := text.lineEnd_spec hstart
  exact ⟨hm, hmarked, hle, Nat.lt_of_lt_of_le hlt hlen, fun n hn hni => hline n hn (Nat.lt_of_le_of_lt hni hlt)⟩

/-- A comment covers no character beyond the end of the line. -/
theorem Covers.lt_lineEnd (h : text.Covers marker start index) : index < text.lineEnd start := by
  obtain ⟨hle, -, -, hfeed⟩ := text.lineEnd_spec (Nat.le_trans h.le (Nat.le_of_lt h.lt))
  refine Nat.lt_of_not_le fun hend => ?_
  exact h.sameLine _ hle hend (hfeed (Nat.lt_of_le_of_lt hend h.lt))

end Text

/-! ## The way of a scan -/

/-- A cursor that faces right stands on a character that a comment covers only if a marker is there. -/
def Cursor.Enters (text marker : Text) (k : Cursor) : Prop :=
  k.direction = .right → text.IsCovered marker k.index → text.Covers marker k.index k.index

namespace Scan

open Text

variable {text marker : Text} {c : Char} {k k' : Cursor} {skip : Skip} {inside : Bool}

/-- To the right a comment is skipped from its marker. -/
theorem skips_right_iff (hd : k.direction = .right) (hlt : k.index < text.length) :
    (Trivia.lineComments marker).Skips text c k ↔ text.Covers marker k.index k.index := by
  simp only [Trivia.Skips, hd, Trivia.lineComments, Bool.and_eq_true, Bool.not_eq_true', List.isEmpty_eq_false_iff]
  constructor
  · rintro ⟨⟨hm, hmarked⟩, hend⟩
    exact covers_of_lt_lineEnd hm hmarked (Nat.le_of_lt hlt) (Nat.le_refl _) hend
  · intro h
    exact ⟨⟨h.ne_nil, h.marked⟩, h.lt_lineEnd⟩

/-- To the left a comment is skipped from any character that it covers. -/
theorem skips_left_iff (hd : k.direction = .left) :
    (Trivia.lineComments marker).Skips text c k ↔ text.IsCovered marker k.index := by
  simp only [Trivia.Skips, hd]
  constructor
  · rintro ⟨start, hstart, -⟩
    exact ⟨start, (commentStart?_eq_some_iff.1 hstart).1⟩
  · intro h
    cases hs : (Trivia.lineComments marker).commentStart? k.index text with
    | none => exact absurd h (commentStart?_eq_none_iff.1 hs)
    | some start => exact ⟨start, rfl, (commentStart?_eq_some_iff.1 hs).1.le⟩

/-- A jump to the right goes from a marker to the end of the line. -/
theorem jump?_right (hd : k.direction = .right) (hc : text[k.index]? = some c)
    (h : jump? (.lineComments marker) text c k = some (skip, inside, k')) :
    text.Covers marker k.index k.index ∧ k.skipTo text (text.lineEnd k.index) = (inside, k') := by
  constructor
  · rw [← skips_right_iff hd (List.getElem?_eq_some_iff.1 hc).1]
    refine Classical.not_not.1 fun hskips => ?_
    rw [jump?_eq_none_iff.2 hskips] at h
    cases h
  · simp only [jump?, hd, Option.ite_none_right_eq_some, Option.some.injEq, Prod.mk.injEq] at h
    exact h.2.2

/-- A jump to the left goes to the character before the comment, if there is one. -/
theorem jump?_left (hd : k.direction = .left) (h : jump? (.lineComments marker) text c k = some (skip, inside, k')) :
    ∃ start, text.Covers marker start k.index ∧
      match start with
      | 0 => inside = false
      | i + 1 => inside = true ∧ k'.index = i := by
  simp only [jump?, hd] at h
  split at h
  · next hs =>
    simp only [Option.some.injEq, Prod.mk.injEq] at h
    exact ⟨0, (commentStart?_eq_some_iff.1 hs).1, h.2.1.symm⟩
  · next i hs =>
    have hcovers := (commentStart?_eq_some_iff.1 hs).1
    simp only [Option.ite_none_right_eq_some, Option.some.injEq, Prod.mk.injEq] at h
    obtain ⟨hi, -, hskip⟩ := h
    have hindex := Cursor.backward_index hcovers.lt (k.index - i)
    have hback : k.index - (k.index - i) = i := by omega
    simp only [Cursor.skipBackTo, Prod.mk.injEq, hindex, hback, beq_self_eq_true] at hskip
    exact ⟨i + 1, hcovers, hskip.1.symm, by rw [← hskip.2, hindex, hback]⟩
  · cases h

theorem settle_direction {trivia : Trivia} {skips : List Skip} {visit : Option Char}
    (h : settle trivia text k = (skips, visit, k')) : k'.direction = k.direction := by
  have hk : (settle trivia text k).2.2.direction = k.direction :=
    settle_induction (P := fun x => x.direction = k.direction) (fun x hx => (x.moveRight_direction text).trans hx)
      (fun x hx => (x.moveLeft_direction text).trans hx) k rfl
  rwa [h] at hk

/-- A scan to the right visits the first character that no comment covers, if there is one. -/
theorem settle_right {skips : List Skip} {visit : Option Char} (hd : k.direction = .right) (hk : k.Enters text marker)
    (h : settle (.lineComments marker) text k = (skips, visit, k')) :
    (visit.isSome → k.index ≤ k'.index ∧ ¬ text.IsCovered marker k'.index ∧
      ∀ n, k.index ≤ n → n < k'.index → text.IsCovered marker n) ∧
    (visit = none → ∀ n, k.index ≤ n → n < text.length → text.IsCovered marker n) := by
  fun_induction settle (.lineComments marker) text k generalizing skips with
  | case1 k hc =>
    cases h
    constructor
    · intro hvisit
      cases hvisit
    · intro _ n hn hlt
      have hlen := List.getElem?_eq_none_iff.1 hc
      omega
  | case2 k c hc hj =>
    cases h
    have hlt := (List.getElem?_eq_some_iff.1 hc).1
    constructor
    · intro _
      refine ⟨Nat.le_refl _, fun hcovered => ?_, fun n hn hlt => absurd hn (Nat.not_le_of_lt hlt)⟩
      exact jump?_eq_none_iff.1 hj ((skips_right_iff hd hlt).2 (hk hd hcovered))
    · intro hvisit
      cases hvisit
  | case3 k c hc skip k₁ hj =>
    cases h
    obtain ⟨hcovers, hskip⟩ := jump?_right hd hc hj
    have hfst := Cursor.forward_fst text (text.lineEnd k.index - k.index) k
    rw [← Cursor.skipTo, hskip, false_eq_decide_iff] at hfst
    constructor
    · intro hvisit
      cases hvisit
    · intro _ n hn hlt
      exact ⟨k.index, covers_of_lt_lineEnd hcovers.ne_nil hcovers.marked (Nat.le_of_lt hcovers.lt) hn (by omega)⟩
  | case4 k c hc skip k₁ hj skips' visit' k₂ e ih =>
    cases h
    obtain ⟨hcovers, hskip⟩ := jump?_right hd hc hj
    have hbefore : ∀ n, k.index ≤ n → n < text.lineEnd k.index → text.IsCovered marker n := fun n hn hlt =>
      ⟨k.index, covers_of_lt_lineEnd hcovers.ne_nil hcovers.marked (Nat.le_of_lt hcovers.lt) hn hlt⟩
    have hend := hcovers.lt_lineEnd
    obtain ⟨hindex, hinside⟩ := Cursor.forward_index hskip
    have hline : k₁.index = text.lineEnd k.index := by omega
    -- The jump has stopped on a line feed, which no comment covers, so that the cursor is in the midst of none.
    have hfeed : text[k₁.index]? = some '\n' := by
      rw [hline]
      exact (text.lineEnd_spec (Nat.le_of_lt hcovers.lt)).2.2.2 (hline ▸ hinside (by omega))
    obtain ⟨hsome, hnone⟩ :=
      ih ((jump?_direction hj).trans hd) (fun _ hcov => absurd hcov (not_isCovered_of_lineFeed hfeed)) e
    have hjoin : ∀ m, (∀ n, k₁.index ≤ n → n < m → text.IsCovered marker n) →
        ∀ n, k.index ≤ n → n < m → text.IsCovered marker n := by
      intro m hm n hn hnm
      rcases Nat.lt_or_ge n (text.lineEnd k.index) with hlt | hge
      · exact hbefore n hn hlt
      · exact hm n (hline ▸ hge) hnm
    refine ⟨fun hvisit => ?_, fun hvisit => hjoin _ (hnone hvisit)⟩
    obtain ⟨hle, hfree, hbetween⟩ := hsome hvisit
    exact ⟨by omega, hfree, hjoin _ hbetween⟩

/-- A scan to the left visits the last character before it, or its own, that no comment covers, if there is one. -/
theorem settle_left {skips : List Skip} {visit : Option Char} (hd : k.direction = .left) (hlt : k.index < text.length)
    (h : settle (.lineComments marker) text k = (skips, visit, k')) :
    (visit.isSome → k'.index ≤ k.index ∧ ¬ text.IsCovered marker k'.index ∧
      ∀ n, k'.index < n → n ≤ k.index → text.IsCovered marker n) ∧
    (visit = none → ∀ n, n ≤ k.index → text.IsCovered marker n) := by
  fun_induction settle (.lineComments marker) text k generalizing skips with
  | case1 k hc => exact absurd hlt (Nat.not_lt_of_le (List.getElem?_eq_none_iff.1 hc))
  | case2 k c hc hj =>
    cases h
    constructor
    · intro _
      refine ⟨Nat.le_refl _, fun hcovered => ?_, fun n hn hnk => absurd hn (Nat.not_lt_of_le hnk)⟩
      exact jump?_eq_none_iff.1 hj ((skips_left_iff hd).2 hcovered)
    · intro hvisit
      cases hvisit
  | case3 k c hc skip k₁ hj =>
    cases h
    obtain ⟨_ | i, hcovers, hinside⟩ := jump?_left hd hj
    · constructor
      · intro hvisit
        cases hvisit
      · intro _ n hn
        exact ⟨0, hcovers.of_le (Nat.zero_le n) hn⟩
    · cases hinside.1
  | case4 k c hc skip k₁ hj skips' visit' k₂ e ih =>
    cases h
    obtain ⟨_ | i, hcovers, hinside⟩ := jump?_left hd hj
    · cases hinside
    · obtain ⟨-, hindex⟩ := hinside
      have hle := hcovers.le
      obtain ⟨hsome, hnone⟩ := ih ((jump?_direction hj).trans hd) (by omega) e
      -- What the jump has passed over is covered by the comment, and what comes before it is left to the jumps that follow.
      have hjoin : ∀ n, n ≤ k.index → (n ≤ k₁.index → text.IsCovered marker n) → text.IsCovered marker n := by
        intro n hnk hn
        rcases Nat.lt_or_ge k₁.index n with hlt | hge
        · exact ⟨i + 1, hcovers.of_le (by omega) hnk⟩
        · exact hn hge
      refine ⟨fun hvisit => ?_, fun hvisit n hnk => hjoin n hnk (hnone hvisit n)⟩
      obtain ⟨hle', hfree, hbetween⟩ := hsome hvisit
      exact ⟨by omega, hfree, fun n hn hnk => hjoin n hnk (hbetween n hn)⟩

theorem settle_of_none {trivia : Trivia} (h : text[k.index]? = none) : settle trivia text k = ([], none, k) := by
  fun_cases settle trivia text k <;> simp_all

/-- A scan visits only characters that no comment covers. -/
theorem settle_not_isCovered {skips : List Skip} (hk : k.Enters text marker)
    (h : settle (.lineComments marker) text k = (skips, some c, k')) : ¬ text.IsCovered marker k'.index := by
  cases hd : k.direction with
  | right => exact ((settle_right hd hk h).1 rfl).2.1
  | left =>
    rcases Nat.lt_or_ge k.index text.length with hlt | hge
    · exact ((settle_left hd hlt h).1 rfl).2.1
    · rw [settle_of_none (List.getElem?_eq_none_iff.2 hge)] at h
      cases h

end Scan

namespace Cursor

/-- The first character is in the midst of no comment. -/
theorem enters_enter (memory : ColumnMemory) (text marker : Text) : ((initial memory).enter text).2.Enters text marker := by
  rintro - ⟨start, hs⟩
  rw [enter_initial_index] at hs ⊢
  rwa [Nat.le_zero.1 hs.le] at hs

/-- After a character that no comment covers comes a marker, or no comment. -/
theorem enters_advance {text marker : Text} {k : Cursor} (h : ¬ text.IsCovered marker k.index) :
    (k.advance text).2.Enters text marker := by
  rintro hd ⟨start, hs⟩
  rw [advance_direction] at hd
  rw [advance_index_right hd] at hs ⊢
  rcases Nat.lt_or_eq_of_le hs.le with hlt | rfl
  · exact absurd ⟨start, hs.of_le (Nat.le_of_lt_succ hlt) (Nat.le_succ _)⟩ h
  · exact hs

end Cursor

namespace Scan

open Text

/-- No step of a scan is on a character that a comment covers. -/
theorem ofText_not_isCovered (registry : Registry) (config : Config) (marker text : Text) :
    ∀ step ∈ (ofText registry (.lineComments marker) config text).steps, ¬ text.IsCovered marker step.index := by
  obtain ⟨s, hs, hsteps, -⟩ := @run_induction registry (.lineComments marker) text
    (fun s => s.cursor.Enters text marker ∧ ∀ step ∈ s.steps, ¬ text.IsCovered marker step.index)
    (fun s => ¬ text.IsCovered marker s.cursor.index ∧ ∀ step ∈ s.steps, ¬ text.IsCovered marker step.index)
    (by
      rintro s skipped c k ⟨hk, hs⟩ he
      have hfree := settle_not_isCovered hk he
      refine ⟨hfree, fun step hstep => ?_⟩
      rcases Array.mem_push.1 hstep with hstep | rfl
      · exact hs step hstep
      · exact hfree)
    (fun s hs _ => ⟨Cursor.enters_advance hs.1, hs.2⟩) (config.budget text.length) (config.budget text.length)
    { cursor := ((Cursor.initial config.memory).enter text).2 } ⟨Cursor.enters_enter config.memory text marker, by simp⟩
  rw [ofText, hsteps]
  exact hs.elim (·.2) (·.2)

/-- The indices from `i` on of which `p` holds begin with `m`, if `p` holds of `m` and of none before. -/
theorem filter_range'_eq_cons {p : Nat → Bool} {i m len : Nat} (him : i ≤ m) (hm : m < len) (hp : p m)
    (hbefore : ∀ n, i ≤ n → n < m → p n = false) :
    (List.range' i (len - i)).filter p = m :: (List.range' (m + 1) (len - (m + 1))).filter p := by
  have hsplit : List.range' i (len - i) = List.range' i (m - i) ++ m :: List.range' (m + 1) (len - (m + 1)) := by
    rw [← List.range'_succ, show len - (m + 1) + 1 = len - m by omega, show len - i = (m - i) + (len - m) by omega,
      ← List.range'_append_1, show i + (m - i) = m by omega]
  have hnil : (List.range' i (m - i)).filter p = [] := by
    rw [List.filter_eq_nil_iff]
    intro n hn
    have hmem := List.mem_range'_1.1 hn
    simp [hbefore n hmem.1 (by omega)]
  rw [hsplit, List.filter_append, hnil, List.nil_append, List.filter_cons_of_pos hp]

/-- A run of rules that all go right visits, with steps enough, all characters in front of it that no comment covers. -/
theorem run_indices {registry : Registry} (hrules : ∀ rule ∈ registry.rules, rule.direction = .right) {marker text : Text}
    (budget left : Nat) (s : ScanState) (hk : s.cursor.Enters text marker) (hd : s.cursor.direction = .right)
    (hleft : text.length - s.cursor.index ≤ left) :
    (run registry (.lineComments marker) text budget left s).steps.toList.map (·.index) =
      s.steps.toList.map (·.index) ++
        (List.range' s.cursor.index (text.length - s.cursor.index)).filter ((Trivia.lineComments marker).spares text) := by
  induction left generalizing s with
  | zero =>
    have hend : text.length - s.cursor.index = 0 := by omega
    rw [run_over (settle_of_none (List.getElem?_eq_none_iff.2 (by omega))), hend]
    simp
  | succ left ih =>
    rcases hs : settle (.lineComments marker) text s.cursor with ⟨skipped, _ | c, k⟩
    · have hall := (settle_right hd hk hs).2 rfl
      have hnil : (List.range' s.cursor.index (text.length - s.cursor.index)).filter
          ((Trivia.lineComments marker).spares text) = [] := by
        rw [List.filter_eq_nil_iff]
        intro n hn
        have hmem := List.mem_range'_1.1 hn
        rw [spares_iff]
        exact fun hfree => hfree (hall n hmem.1 (by omega))
      rw [run_over hs, hnil, List.append_nil]
    · obtain ⟨hle, hfree, hbetween⟩ := (settle_right hd hk hs).1 rfl
      have hlt := (List.getElem?_eq_some_iff.1 (settle_char hs)).1
      have hright := visit_direction hrules (.lineComments marker) text skipped c ((settle_direction hs).trans hd) s
      have henters := Cursor.enters_advance (k := (s.visit registry (.lineComments marker) text skipped c k).cursor) hfree
      have hindex : ((s.visit registry (.lineComments marker) text skipped c k).move text).cursor.index = k.index + 1 :=
        Cursor.advance_index_right hright text
      have hfirst := filter_range'_eq_cons (p := (Trivia.lineComments marker).spares text) hle hlt (spares_iff.2 hfree)
        fun n hn hnk => by
          rw [← Bool.not_eq_true, spares_iff]
          exact fun h => h (hbetween n hn hnk)
      rw [run_succ hs, if_neg (by simp [Cursor.atLeftEdge, hright]), hfirst]
      refine (ih _ henters ((Cursor.advance_direction ..).trans hright) (by omega)).trans ?_
      rw [hindex]
      simp [ScanState.move, ScanState.visit, step]

end Scan

/-- No rule ever sees a character of a comment: whatever the marker, the rules, the configuration and the text are, no step is
on a character that a comment covers. If all rules go right and the budget is the usual one, no other character is left out: the
steps are on all characters that no comment covers, in the order of the text. -/
theorem tokenize_comments_unseen (registry : Registry) (marker : Text) (config : Config) (text : Text) :
    let trivia := Trivia.lineComments marker
    let s := (Tokenizer.tokenize { registry, trivia, config } text).last
    (∀ step ∈ s.steps, trivia.commentStart? step.index text = none) ∧
    ((∀ rule ∈ registry.rules, rule.direction = .right) → config.maxSteps = none →
      s.steps.toList.map (·.index) =
        (List.range text.length).filter fun i => (trivia.commentStart? i text).isNone) := by
  intro trivia s
  constructor
  · intro step hstep
    rw [Text.commentStart?_eq_none_iff]
    exact Scan.ofText_not_isCovered registry config marker text step hstep
  · intro hrules hmax
    have hbudget : text.length ≤ config.budget text.length := by
      rw [Config.budget, hmax, Option.getD_none]
      omega
    have hall := Scan.run_indices hrules (config.budget text.length)
      (config.budget text.length) { cursor := ((Cursor.initial config.memory).enter text).2 }
      (Cursor.enters_enter config.memory text marker) (Cursor.enter_initial_direction ..) (by simpa using hbudget)
    rw [Cursor.enter_initial_index, ← List.range_eq_range'] at hall
    exact hall

/-- In this text the three slashes start one comment, with two markers in it. The scan goes past it to the end of the line, and
the single slash on the next line is no comment. -/
theorem tokenize_comments_unseen_slashes :
    let registry : Registry := { rules := [{ name := "round", symbol := "(", terminator := ")" }] }
    let trivia := Trivia.lineComments ['/', '/']
    let text := ['(', '/', '/', '/', ')', '\n', '/', ')']
    (∀ rule ∈ registry.rules, rule.direction = .right) ∧
    trivia.commentStart? 4 text = some 1 ∧
    (Tokenizer.tokenize { registry, trivia } text).last.steps.toList.map (·.index) = [0, 5, 6, 7] := by
  intro registry trivia text
  have hrules : ∀ rule ∈ registry.rules, rule.direction = .right := by simp [registry]
  refine ⟨hrules, by decide, ?_⟩
  exact ((tokenize_comments_unseen registry ['/', '/'] {} text).2 hrules rfl).trans (by decide)

end RuleScanner
