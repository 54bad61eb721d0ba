import RuleScanner.Proofs.LineComments

/-!
# The two views of a line comment

A scan to the right is told that a comment starts wherever a marker stands, and that it ends with the line. A scan to the left is
told, on any character of a comment, where the comment starts, and that is at the first marker of the line. So a comment with
several markers in it has several starts on the way right, and a single one on the way left. Both mean the same characters: from the
first marker to the end of the line all characters have the same start (`Text.commentStart?_of_lt_lineEnd`), and from each of them
the comment ends at the same place (`Text.Covers.lineEnd_eq`).
-/

namespace RuleScanner

namespace Text

variable {text marker : Text} {start index : Nat}

/-- The comment from `start` covers `index` if neither that character nor one between the two is a line feed. -/
theorem covers_iff_startsComment (hi : index < text.length) (c : Char) :
    text.Covers marker start index ↔
      text[index]? ≠ some '\n' ∧ start ≤ index ∧ (∀ n, start ≤ n → n < index → text[n]? ≠ some '\n') ∧
        (Trivia.lineComments marker).startsComment c start text := by
  simp only [Trivia.lineComments, Bool.and_eq_true, Bool.not_eq_true', List.isEmpty_eq_false_iff]
  constructor
  · intro h
    exact ⟨h.sameLine index h.le (Nat.le_refl index), h.le, fun n hn hlt => h.sameLine n hn (Nat.le_of_lt hlt), h.ne_nil, h.marked⟩
  · rintro ⟨hno, hle, hline, hne, hmarked⟩
    refine ⟨hne, hmarked, hle, hi, fun n hn hni => ?_⟩
    rcases Nat.lt_or_eq_of_le hni with hlt | rfl
    · exact hline n hn hlt
    · exact hno

/-- A comment that reaches into another one goes on as far as that one does. -/
theorem Covers.extend {other i j : Nat} (h : text.Covers marker start i) (ho : text.Covers marker other j) (hj : start ≤ j)
    (hi : other ≤ i) : text.Covers marker other i where
  ne_nil := h.ne_nil
  marked := ho.marked
  le := hi
  lt := h.lt
  sameLine n hn hni := by
    rcases Nat.le_total n j with hle | hge
    · exact ho.sameLine n hn hle
    · exact h.sameLine n (Nat.le_trans hj hge) hni

/-- From the start of a comment to the end of the line all characters have that start. -/
theorem commentStart?_of_lt_lineEnd (h : (Trivia.lineComments marker).commentStart? index text = some start) {j : Nat}
    (hj : start ≤ j) (hlt : j < text.lineEnd start) : (Trivia.lineComments marker).commentStart? j text = some start := by
  obtain ⟨hcovers, hleast⟩ := commentStart?_eq_some_iff.1 h
  have hstart : start ≤ text.length := Nat.le_trans hcovers.le (Nat.le_of_lt hcovers.lt)
  refine commentStart?_eq_some_iff.2 ⟨covers_of_lt_lineEnd hcovers.ne_nil hcovers.marked hstart hj hlt, fun other ho => ?_⟩
  -- A marker before `start` on the line of `j` would have been found from `index`.
  rcases Nat.le_total start other with hle | hge
  · exact hle
  · exact hleast other (hcovers.extend ho hj (Nat.le_trans hge hcovers.le))

/-- A comment ends at the same place from each of the characters that it covers. -/
theorem Covers.lineEnd_eq (h : text.Covers marker start index) : text.lineEnd index = text.lineEnd start := by
  have hlen := Nat.le_of_lt h.lt
  have hend := h.lt_lineEnd
  obtain ⟨-, hle, hline, hfeed⟩ := text.lineEnd_spec (Nat.le_trans h.le hlen)
  obtain ⟨hge', hle', hline', hfeed'⟩ := text.lineEnd_spec hlen
  rcases Nat.lt_trichotomy (text.lineEnd index) (text.lineEnd start) with hlt | heq | hgt
  · exact absurd (hfeed' (Nat.lt_of_lt_of_le hlt hle)) (hline _ (Nat.le_trans h.le hge') hlt)
  · exact heq
  · exact absurd (hfeed (Nat.lt_of_lt_of_le hgt hle')) (hline' _ (Nat.le_of_lt hend) hgt)

end Text

/-- The view of a line comment from the right and that from the left describe the same ranges, whatever the marker is. A comment that
covers the character at `i` starts at `s` exactly if that character is no line feed, and `s` is the first of all markers up to `i`
from which there is no line feed to `i`. The character at `i` lies before the end of that comment, and all characters from `s` to
there have the same start. Conversely, where a comment starts that is not empty, the character is in a comment that may start
before, and ends at the same place. -/
theorem comment_ranges (marker text : Text) (c : Char) (i : Nat) (hi : i < text.length) :
    let comments := Trivia.lineComments marker
    let Opens (s : Nat) := s ≤ i ∧ (∀ n, s ≤ n → n < i → text[n]? ≠ some '\n') ∧ comments.startsComment c s text
    (∀ s, comments.commentStart? i text = some s ↔
      text[i]? ≠ some '\n' ∧ Opens s ∧ ∀ other, Opens other → s ≤ other) ∧
    (∀ s, comments.commentStart? i text = some s →
      s ≤ i ∧ i < comments.commentEnd s text ∧
        ∀ j, s ≤ j → j < comments.commentEnd s text → comments.commentStart? j text = some s) ∧
    (comments.startsComment c i text → i < comments.commentEnd i text →
      ∃ s, s ≤ i ∧ comments.commentStart? i text = some s ∧ comments.commentEnd s text = comments.commentEnd i text) := by
  intro comments Opens
  have hcovers : ∀ s, text.Covers marker s i ↔ text[i]? ≠ some '\n' ∧ Opens s := fun s => Text.covers_iff_startsComment hi c
  refine ⟨fun s => ?_, fun s hs => ?_, fun hstarts hend => ?_⟩
  · rw [Text.commentStart?_eq_some_iff]
    simp only [hcovers]
    constructor
    · rintro ⟨⟨hno, hs⟩, hleast⟩
      exact ⟨hno, hs, fun other ho => hleast other ⟨hno, ho⟩⟩
    · rintro ⟨hno, hs, hleast⟩
      exact ⟨⟨hno, hs⟩, fun other ho => hleast other ho.2⟩
  · have hc := (Text.commentStart?_eq_some_iff.1 hs).1
    exact ⟨hc.le, hc.lt_lineEnd, fun j hj hlt => Text.commentStart?_of_lt_lineEnd hs hj hlt⟩
  · have hno : text[i]? ≠ some '\n' := (text.lineEnd_spec (Nat.le_of_lt hi)).2.2.1 i (Nat.le_refl i) hend
    have hself : text.Covers marker i i :=
      (hcovers i).2 ⟨hno, Nat.le_refl i, fun n hn hlt => absurd hn (Nat.not_le_of_lt hlt), hstarts⟩
    cases hs : comments.commentStart? i text with
    | none => exact absurd ⟨i, hself⟩ (Text.commentStart?_eq_none_iff.1 hs)
    | some s =>
      have hc := (Text.commentStart?_eq_some_iff.1 hs).1
      exact ⟨s, hc.le, rfl, hc.lineEnd_eq.symm⟩

/-- Of these three slashes the first two are a marker, and so are the last two. The `b` is in the comment that starts at the first
slash, as all up to the line feed are. A comment starts at the second slash as well, and that one ends at the same place. -/
theorem comment_ranges_slashes :
    let comments := Trivia.lineComments ['/', '/']
    let text : Text := ['a', '/', '/', '/', 'b', '\n', 'c']
    comments.commentStart? 4 text = some 1 ∧ 4 < comments.commentEnd 1 text ∧
      (∀ j, 1 ≤ j → j < comments.commentEnd 1 text → comments.commentStart? j text = some 1) ∧
    comments.startsComment '/' 2 text ∧
      ∃ s, s ≤ 2 ∧ comments.commentStart? 2 text = some s ∧ comments.commentEnd s text = comments.commentEnd 2 text := by
  intro comments text
  have hstart : comments.commentStart? 4 text = some 1 := by decide
  have hsecond : comments.startsComment '/' 2 text := by decide
  obtain ⟨-, hranges, -⟩ := comment_ranges ['/', '/'] text '/' 4 (by decide)
  obtain ⟨-, -, hconverse⟩ := comment_ranges ['/', '/'] text '/' 2 (by decide)
  obtain ⟨-, hend, hall⟩ := hranges 1 hstart
  exact ⟨hstart, hend, hall, hsecond, hconverse hsecond (by decide)⟩

end RuleScanner
