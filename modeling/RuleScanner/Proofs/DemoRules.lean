import Mathlib.Data.List.Nodup
import RuleScanner.Demo
import RuleScanner.CharSet.Lemmas
import RuleScanner.Pattern.SpansLemmas
import RuleScanner.Proofs.Openings
import RuleScanner.Proofs.Words

/-!
# The rules of the demonstration language

The rules of the language are one for quoted literals and one for each kind of word. A pattern that stands between the two ends of
a text describes words as a whole, and what it describes can be said without expressions (`Demo.WordKind.isMatch_regex`). A rule
for words opens where a word starts that it describes (`Demo.WordKind.accepts_iff`). The first character of a word tells of which
kind it is, and no word that is of a kind starts with a quotation mark. So the rules never compete for a character
(`Demo.neverCompete`).
-/

namespace RuleScanner

/-! ## Expressions that reach the end of a word -/

namespace Regex

/-- There is a span of the expression from the place `i` of a word on. -/
def StartsAt (word : List Char) (i : Nat) (r : Regex) : Prop := ∃ j, r.Span word i j

variable {word : List Char} {i : Nat} {chars : CharSet} {r : Regex}

/-- An expression behind the start of the text matches a word if it has a span from there on. -/
theorem isMatch_textStart : (seq (look .textStart) r).isMatch word ↔ r.StartsAt word 0 := by
  have hstart : ∀ i k, (look .textStart).Span word i k → i = 0 ∧ k = 0 := by
    rintro i k ⟨rfl, hle, hlook⟩
    cases i with
    | zero => exact ⟨rfl, rfl⟩
    | succ i =>
      have hi : i < word.length := hle
      simp [Look.holds, hi] at hlook
  rw [isMatch_iff]
  constructor
  · rintro ⟨i, j, -, k, hk, hspan⟩
    obtain ⟨-, rfl⟩ := hstart i k hk
    exact ⟨j, hspan⟩
  · rintro ⟨j, hspan⟩
    exact ⟨0, j, Nat.zero_le _, 0, ⟨rfl, Nat.zero_le _, rfl⟩, hspan⟩

theorem startsAt_set :
    (seq (set chars) r).StartsAt word i ↔ ∃ c, word[i]? = some c ∧ chars.contains c ∧ r.StartsAt word (i + 1) := by
  constructor
  · rintro ⟨j, k, ⟨rfl, c, hc, hin⟩, hspan⟩
    exact ⟨c, hc, hin, j, hspan⟩
  · rintro ⟨c, hc, hin, j, hspan⟩
    exact ⟨j, i + 1, ⟨rfl, c, hc, hin⟩, hspan⟩

theorem startsAt_textEnd : (look .textEnd).StartsAt word i ↔ i = word.length := by
  constructor
  · rintro ⟨j, -, hle, hlook⟩
    have hnone : word.length ≤ i := by simpa [Look.holds] using hlook
    exact Nat.le_antisymm hle hnone
  · rintro rfl
    exact ⟨word.length, rfl, Nat.le_refl _, by simp [Look.holds]⟩

/-- Spans of one character in a row. -/
theorem steps_set {n k : Nat} :
    Steps ((set chars).Span word) n i k ↔
      k = i + n ∧ ∀ j, i ≤ j → j < i + n → ∃ c, word[j]? = some c ∧ chars.contains c := by
  induction n generalizing i with
  | zero =>
    constructor
    · rintro rfl
      exact ⟨rfl, fun j hle hlt => absurd hlt (Nat.not_lt_of_le hle)⟩
    · rintro ⟨rfl, -⟩
      rfl
  | succ n ih =>
    constructor
    · rintro ⟨m, ⟨rfl, hfirst⟩, hrest⟩
      obtain ⟨rfl, hall⟩ := ih.1 hrest
      refine ⟨by omega, fun j hle hlt => ?_⟩
      rcases Nat.lt_or_eq_of_le hle with hlater | rfl
      · exact hall j hlater (by omega)
      · exact hfirst
    · rintro ⟨rfl, hall⟩
      refine ⟨i + 1, ⟨rfl, hall i (Nat.le_refl i) (by omega)⟩, ih.2 ⟨by omega, fun j hle hlt => ?_⟩⟩
      exact hall j (by omega) (by omega)

/-- A row of characters of a set up to the end of the word: all that is left is in the set, and it is not too little. -/
theorem startsAt_times {least : Nat} (hi : i ≤ word.length) :
    (seq (times (set chars) least none) (look .textEnd)).StartsAt word i ↔
      i + least ≤ word.length ∧ ∀ c ∈ word.drop i, chars.contains c := by
  constructor
  · rintro ⟨j, k, ⟨-, n, hn, -, hsteps⟩, hend⟩
    obtain rfl : k = word.length := startsAt_textEnd.1 ⟨j, hend⟩
    obtain ⟨hlen, hall⟩ := steps_set.1 hsteps
    refine ⟨by omega, fun c hc => ?_⟩
    obtain ⟨m, hm⟩ := List.mem_iff_getElem?.1 hc
    rw [List.getElem?_drop] at hm
    have hlt := (List.getElem?_eq_some_iff.1 hm).1
    obtain ⟨c', hc', hin⟩ := hall (i + m) (by omega) (by omega)
    cases hm.symm.trans hc'
    exact hin
  · rintro ⟨hleast, hall⟩
    obtain ⟨j, hend⟩ : (look .textEnd).StartsAt word word.length := startsAt_textEnd.2 rfl
    refine ⟨j, word.length, ⟨hi, word.length - i, by omega, nofun, steps_set.2 ⟨by omega, fun m hle hlt => ?_⟩⟩, hend⟩
    have hm : m < word.length := by omega
    refine ⟨word[m], List.getElem?_eq_getElem hm, hall _ (List.mem_iff_getElem?.2 ⟨m - i, ?_⟩)⟩
    rw [List.getElem?_drop, Nat.add_sub_cancel' hle, List.getElem?_eq_getElem hm]

/-- The characters in a row, up to the end of the text. -/
def exactly : List Char → Regex
  | [] => look .textEnd
  | c :: cs => seq (set (.single c)) (exactly cs)

theorem startsAt_exactly {cs : List Char} (hi : i ≤ word.length) : (exactly cs).StartsAt word i ↔ word.drop i = cs := by
  induction cs generalizing i with
  | nil =>
    rw [exactly, startsAt_textEnd, List.drop_eq_nil_iff]
    omega
  | cons c cs ih =>
    rw [exactly, startsAt_set]
    rcases Nat.lt_or_eq_of_le hi with hlt | rfl
    · rw [List.drop_eq_getElem_cons hlt, List.cons.injEq, List.getElem?_eq_getElem hlt, ih hlt]
      simp
    · simp

end Regex

/-! ## Characters of words -/

theorem le_and_le_iff (a c : Char) : a ≤ c ∧ c ≤ a ↔ c = a := by
  constructor
  · rintro ⟨hle, hge⟩
    exact Char.le_antisymm hge hle
  · rintro rfl
    exact ⟨Char.le_refl c, Char.le_refl c⟩

/-- A character is in a union of ranges if it lies between the ends of one of them. -/
theorem CharSet.contains_ofRanges (ranges : List (Char × Char)) (c : Char) :
    (ofRanges ranges).contains c ↔ ∃ r ∈ ranges, r.1 ≤ c ∧ c ≤ r.2 := by
  induction ranges with
  | nil => simp [ofRanges, unions]
  | cons r ranges ih =>
    have hcons : ofRanges (r :: ranges) = (range r.1 r.2).union (ofRanges ranges) := rfl
    simp [hcons, ih]

theorem isAlpha_iff (c : Char) : c.isAlpha ↔ 'A' ≤ c ∧ c ≤ 'Z' ∨ 'a' ≤ c ∧ c ≤ 'z' := by
  show (decide ('A' ≤ c ∧ c ≤ 'Z') || (decide ('a' ≤ c) && decide (c ≤ 'z'))) = true ↔ _
  simp

theorem isDigit_iff (c : Char) : c.isDigit ↔ '0' ≤ c ∧ c ≤ '9' := by
  simp [Char.isDigit, Char.le_def]

theorem Pattern.contains_asciiDigits (c : Char) : asciiDigits.contains c = c.isDigit := by
  rw [Bool.eq_iff_iff, isDigit_iff]
  simp [asciiDigits]

theorem Pattern.contains_asciiWordChars (c : Char) : asciiWordChars.contains c = (c.isAlphanum || c == '_') := by
  rw [Bool.eq_iff_iff, asciiWordChars, CharSet.contains_ofRanges]
  simp [le_and_le_iff, Char.isAlphanum, isAlpha_iff, isDigit_iff]
  tauto

namespace Demo

/-! ## The kinds of words -/

/-- The kinds of words of the language. -/
inductive WordKind where
  | identifier
  | value
  | declaration
  | assignment
  | returning
  deriving DecidableEq, Repr

namespace WordKind

/-- All kinds, in the order of their rules. -/
def all : List WordKind := [.identifier, .value, .declaration, .assignment, .returning]

/-- The name of the rule for words of the kind. -/
def name : WordKind → String
  | .identifier => "identifier"
  | .value => "value"
  | .declaration => "declaration"
  | .assignment => "assignment"
  | .returning => "return"

/-- The word is of the kind: a name of letters, digits and underscores that does not start with a digit, a row of digits, or one
of three signs. Letters and digits are those of ASCII. -/
def describes : WordKind → (word : List Char) → Bool
  | .identifier, word =>
    word.head?.any (fun c => c.isAlpha || c == '_') && word.tail.all fun c => c.isAlphanum || c == '_'
  | .value, word => !word.isEmpty && word.all Char.isDigit
  | .declaration, word => word == [':', ':']
  | .assignment, word => word == ['=']
  | .returning, word => word == ['<', '-']

/-- The pattern of the words of the kind. -/
def pattern : WordKind → String
  | .identifier => "[A-Za-z_][A-Za-z0-9_]*"
  | .value => "[0-9]+"
  | .declaration => "::"
  | .assignment => "="
  | .returning => "<-"

/-- The letters of ASCII and the underscore. -/
def letters : CharSet := .ofRanges [('A', 'Z'), ('_', '_'), ('a', 'z')]

/-- The expression of the kind, but for the start of the text. -/
def body : WordKind → Regex
  | .identifier => .seq (.set letters) (.seq (.times (.set Pattern.asciiWordChars) 0 none) (.look .textEnd))
  | .value => .seq (.times (.set Pattern.asciiDigits) 1 none) (.look .textEnd)
  | .declaration => .exactly [':', ':']
  | .assignment => .exactly ['=']
  | .returning => .exactly ['<', '-']

/-- The expression of the kind. -/
def regex (kind : WordKind) : Regex := .seq (.look .textStart) kind.body

/-- The rule for words of the kind. -/
def rule (kind : WordKind) : Rule where
  name := kind.name
  symbol := match kind with
    | .identifier | .value => ""
    | .declaration => ":"
    | .assignment => "="
    | .returning => "<"
  terminator := " "
  matcher := some (.both .wordStart (.ofCompiled { isMatch := kind.regex.isMatch }))
  labels := match kind with
    | .identifier | .value => {}
    | .declaration => { symbol := some "decl_keyword" }
    | .assignment => { referent := some "token" }
    | .returning => { symbol := some "return_keyword", referent := some "token" }

end WordKind

/-- The rule for quoted literals. -/
def literal : Rule := { name := "literal", symbol := "\"", terminator := "\"", labels := { referent := some "literal" } }

/-- The tokenizer of the language, with its rules written out. -/
def scanner : Tokenizer where
  registry := { rules := literal :: WordKind.all.map WordKind.rule }
  trivia := .lineComments commentMarker.toList

/-- All patterns can be read. -/
theorem rules_eq : rules = .ok scanner.registry.rules := rfl

/-- All rules are accepted. -/
theorem tokenizer_eq : tokenizer = .ok scanner := rfl

namespace WordKind

theorem contains_letters (c : Char) : letters.contains c = (c.isAlpha || c == '_') := by
  rw [Bool.eq_iff_iff, letters, CharSet.contains_ofRanges]
  simp [le_and_le_iff, isAlpha_iff]
  tauto

/-- The pattern of a kind is read as its expression. -/
theorem compile_pattern (kind : WordKind) : Pattern.compile kind.pattern = .ok { isMatch := kind.regex.isMatch } := by
  cases kind <;> rfl

/-- The expression of a kind matches the words of the kind. -/
theorem isMatch_regex (kind : WordKind) (word : List Char) : kind.regex.isMatch word = kind.describes word := by
  have hsign : ∀ cs, (Regex.exactly cs).StartsAt word 0 ↔ word = cs := fun _ => Regex.startsAt_exactly (Nat.zero_le _)
  rw [Bool.eq_iff_iff, regex, Regex.isMatch_textStart]
  cases kind with
  | identifier =>
    rw [body, Regex.startsAt_set]
    cases word with
    | nil => simp [describes]
    | cons c word => simp [Regex.startsAt_times, contains_letters, Pattern.contains_asciiWordChars, describes]
  | value =>
    rw [body, Regex.startsAt_times (Nat.zero_le _)]
    cases word <;> simp [describes, Pattern.contains_asciiDigits]
  | declaration | assignment | returning => rw [body, hsign, describes, beq_iff_eq]

/-- The kind of the words that start with a character, if there are any. -/
def ofFirst? (c : Char) : Option WordKind :=
  if c.isAlpha || c == '_' then some .identifier
  else if c.isDigit then some .value
  else if c == ':' then some .declaration
  else if c == '=' then some .assignment
  else if c == '<' then some .returning
  else none

/-- The first character of a word tells of which kind it is. -/
theorem ofFirst?_of_describes {kind : WordKind} {word : List Char} (h : kind.describes word) :
    word.head?.bind ofFirst? = some kind := by
  cases kind with
  | identifier =>
    simp only [describes, Bool.and_eq_true, Option.any_eq_true] at h
    obtain ⟨⟨c, hc, hfirst⟩, -⟩ := h
    rw [hc, Option.bind_some, ofFirst?, if_pos hfirst]
  | value =>
    cases word with
    | nil => cases h
    | cons c word =>
      simp only [describes, List.all_cons, Bool.and_eq_true] at h
      have hdigit : c.isDigit := h.2.1
      have hrange : 48 ≤ c.toNat ∧ c.toNat ≤ 57 := by simpa [Char.isDigit, UInt32.le_iff_toNat_le] using hdigit
      have hunderscore : c ≠ '_' := by
        rintro rfl
        exact absurd hrange (by decide)
      have hletter : (c.isAlpha || c == '_') = false := by
        rw [Bool.eq_false_iff, ne_eq, Bool.or_eq_true, beq_iff_eq, isAlpha_iff]
        simp [Char.le_def, UInt32.le_iff_toNat_le, hunderscore]
        omega
      rw [List.head?_cons, Option.bind_some, ofFirst?, hletter, hdigit]
      rfl
  | declaration | assignment | returning =>
    rw [describes, beq_iff_eq] at h
    rw [h]
    rfl

end WordKind

/-! ## Where the rules open -/

section

variable {text : Text} {c : Char} {i : Nat}

theorem literal_accepts_iff : literal.accepts c i text ↔ c = '"' := by
  show ((some '"').all (· == c) && true) = true ↔ c = '"'
  rw [Option.all_some, Bool.and_true, beq_iff_eq, eq_comm]

/-- The words of a kind start with the character that opens its rule, if there is one. -/
theorem WordKind.trigger_all {kind : WordKind} {word : List Char} (h : kind.describes word) (hc : word.head? = some c) :
    kind.rule.trigger.all (· == c) := by
  cases kind with
  | identifier | value => rfl
  | declaration | assignment | returning =>
    rw [describes, beq_iff_eq] at h
    cases h
    cases hc
    rfl

/-- A rule for words opens on the first character of each word of its kind. -/
theorem WordKind.accepts_iff (kind : WordKind) (hc : text[i]? = some c) :
    kind.rule.accepts c i text ↔ ∃ stop, text.IsWord i stop ∧ kind.describes (text.extract i stop) := by
  have hmatcher : kind.rule.matcher.all (· c i text) =
      (text.isWordStart i && (text.inWord i && kind.describes (text.wordAt i))) := by
    rw [← isMatch_regex]
    rfl
  rw [Rule.accepts, hmatcher, Bool.and_eq_true, Bool.and_eq_true, Bool.and_eq_true, Text.isWordStart_iff]
  constructor
  · rintro ⟨-, ⟨stop, hword⟩, -, hkind⟩
    rw [hword.wordAt_eq] at hkind
    exact ⟨stop, hword, hkind⟩
  · rintro ⟨stop, hword, hkind⟩
    refine ⟨trigger_all hkind (hword.head?_extract.trans hc), ⟨stop, hword⟩, hword.inside i (Nat.le_refl i) hword.lt, ?_⟩
    rw [hword.wordAt_eq]
    exact hkind

theorem WordKind.ofFirst?_of_accepts {kind : WordKind} (hc : text[i]? = some c) (h : kind.rule.accepts c i text) :
    ofFirst? c = some kind := by
  obtain ⟨stop, hword, hkind⟩ := (kind.accepts_iff hc).1 h
  have hfirst := ofFirst?_of_describes hkind
  rwa [hword.head?_extract, hc, Option.bind_some] at hfirst

theorem mem_rules_iff {rule : Rule} : rule ∈ scanner.registry.rules ↔ rule = literal ∨ ∃ kind : WordKind, rule = kind.rule := by
  have hall : ∀ kind, kind ∈ WordKind.all := by
    intro kind
    cases kind <;> decide
  show rule ∈ literal :: WordKind.all.map WordKind.rule ↔ _
  rw [List.mem_cons, List.mem_map]
  refine or_congr_right ⟨?_, ?_⟩
  · rintro ⟨kind, -, rfl⟩
    exact ⟨kind, rfl⟩
  · rintro ⟨kind, rfl⟩
    exact ⟨kind, hall kind, rfl⟩

theorem nodup_names : (scanner.registry.rules.map (·.name)).Nodup := by decide

/-- A rule is told by its name. -/
theorem WordKind.rule_eq_of_name {kind : WordKind} {rule : Rule} (hrule : rule ∈ scanner.registry.rules)
    (hname : rule.name = kind.name) : rule = kind.rule :=
  List.inj_on_of_nodup_map nodup_names hrule (mem_rules_iff.2 (Or.inr ⟨kind, rfl⟩)) hname

/-- No two rules open on one character. -/
theorem eq_of_accepts (hc : text[i]? = some c) {r r' : Rule} (hr : r ∈ scanner.registry.rules)
    (hr' : r' ∈ scanner.registry.rules) (h : r.accepts c i text) (h' : r'.accepts c i text) : r = r' := by
  have hquote : WordKind.ofFirst? '"' = none := by decide
  rcases mem_rules_iff.1 hr with rfl | ⟨kind, rfl⟩
  · rcases mem_rules_iff.1 hr' with rfl | ⟨kind', rfl⟩
    · rfl
    · have hkind := WordKind.ofFirst?_of_accepts hc h'
      rw [literal_accepts_iff.1 h, hquote] at hkind
      cases hkind
  · have hkind := WordKind.ofFirst?_of_accepts hc h
    rcases mem_rules_iff.1 hr' with rfl | ⟨kind', rfl⟩
    · rw [literal_accepts_iff.1 h', hquote] at hkind
      cases hkind
    · rw [WordKind.ofFirst?_of_accepts hc h'] at hkind
      cases hkind
      rfl

/-- On each character of a text at most one rule opens. -/
theorem neverCompete (text : Text) : Rule.NeverCompete scanner.registry.rules text := by
  intro i c hc
  have hnodup := nodup_names.of_map.filter (·.accepts c i text)
  have hsame : ∀ r ∈ scanner.registry.rules.filter (·.accepts c i text),
      ∀ r' ∈ scanner.registry.rules.filter (·.accepts c i text), r = r' := by
    intro r hr r' hr'
    obtain ⟨hmem, haccepts⟩ := List.mem_filter.1 hr
    obtain ⟨hmem', haccepts'⟩ := List.mem_filter.1 hr'
    exact eq_of_accepts hc hmem hmem' haccepts haccepts'
  generalize scanner.registry.rules.filter (·.accepts c i text) = opening at hnodup hsame
  rcases opening with _ | ⟨r, _ | ⟨r', rest⟩⟩
  · exact Nat.zero_le 1
  · exact Nat.le_refl 1
  · rw [hsame r (by simp) r' (by simp)] at hnodup
    simp at hnodup

end

end Demo

end RuleScanner
