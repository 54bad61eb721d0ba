import RuleScanner.Command.Basic
import RuleScanner.Proofs.Combination

/-!
# Printed tokens can be told apart

The text of a token is a row of parts of no fixed length: three sets of flags, each a row of names and perhaps a number, and four
numbers. No part says in advance how long it is, and blanks stand between the parts as well as within them. Still nothing is lost,
since each part ends where a sign first comes that it cannot hold. A printer is self-delimiting if its text tells the value and
where the text ends, whatever follows (`SelfDelimiting`). Sets of flags are printed so (`FlagSet.selfDelimiting_render`), if the
names of the family are legible, and so are locations and tokens. Therefore a list of tokens, printed line by line, can be told too.
-/

namespace RuleScanner

/-- The text of a value tells the value and where the text ends, whatever follows. -/
def SelfDelimiting {α : Type} (print : α → String) : Prop :=
  ∀ ⦃a b : α⦄ ⦃x y : List Char⦄, (print a).toList ++ x = (print b).toList ++ y → a = b ∧ x = y

theorem SelfDelimiting.injective {α : Type} {print : α → String} (h : SelfDelimiting print) : Function.Injective print := by
  intro a b hab
  have hrow : (print a).toList ++ [] = (print b).toList ++ [] := by rw [hab]
  exact (h hrow).1

/-! ## Rows of characters -/

/-- A row that ends with the first sign of a kind ends at one place only. -/
theorem cut_at {c : Char} {a b x y : List Char} (ha : c ∉ a) (hb : c ∉ b) (h : a ++ c :: x = b ++ c :: y) : a = b ∧ x = y := by
  induction a generalizing b with
  | nil =>
    cases b with
    | nil => exact ⟨rfl, (List.cons.inj h).2⟩
    | cons d b => exact absurd (List.cons.inj h).1 (List.ne_of_not_mem_cons hb)
  | cons d a ih =>
    cases b with
    | nil => exact absurd (List.cons.inj h).1.symm (List.ne_of_not_mem_cons ha)
    | cons e b =>
      obtain ⟨rfl, hrow⟩ := List.cons.inj h
      obtain ⟨rfl, hrest⟩ := ih (List.not_mem_of_not_mem_cons ha) (List.not_mem_of_not_mem_cons hb) hrow
      exact ⟨rfl, hrest⟩

/-- A sign that stands neither in the words nor in the separator does not stand in their row. -/
theorem notMem_intercalate {c : Char} {separator : List Char} {xs : List (List Char)} (hs : c ∉ separator)
    (hx : ∀ w ∈ xs, c ∉ w) : c ∉ separator.intercalate xs := by
  induction xs with
  | nil => simp
  | cons w xs ih =>
    have hrest := ih fun v hv => hx v (List.mem_cons_of_mem w hv)
    cases xs with
    | nil => simpa using hx w
    | cons v xs => simp [hx w, hs, hrest]

/-- Words that are not empty, and do not hold the sign with which the separator begins, can be told from their row. -/
theorem intercalate_inj {c : Char} {separator : List Char} {xs ys : List (List Char)} (hx : ∀ w ∈ xs, w ≠ [] ∧ c ∉ w)
    (hy : ∀ w ∈ ys, w ≠ [] ∧ c ∉ w) (h : (c :: separator).intercalate xs = (c :: separator).intercalate ys) : xs = ys := by
  induction xs generalizing ys with
  | nil =>
    cases ys with
    | nil => rfl
    | cons v ys => cases ys <;> simp [hy v] at h
  | cons w xs ih =>
    cases ys with
    | nil => cases xs <;> simp [hx w] at h
    | cons v ys =>
      have hw := (hx w (List.mem_cons_self ..)).2
      have hv := (hy v (List.mem_cons_self ..)).2
      cases xs with
      | nil =>
        cases ys with
        | nil => simpa using h
        | cons v' ys =>
          -- The only word of the one row would hold the separator of the other.
          rw [List.intercalate_singleton, List.intercalate_cons_cons] at h
          rw [h] at hw
          simp at hw
      | cons w' xs =>
        cases ys with
        | nil =>
          rw [List.intercalate_singleton, List.intercalate_cons_cons] at h
          rw [← h] at hv
          simp at hv
        | cons v' ys =>
          simp only [List.intercalate_cons_cons, List.append_assoc, List.cons_append] at h
          obtain ⟨rfl, hrow⟩ := cut_at hw hv h
          have hrest := ih (fun u hu => hx u (List.mem_cons_of_mem w hu)) (fun u hu => hy u (List.mem_cons_of_mem w hu))
            (List.append_cancel_left hrow)
          rw [hrest]

/-! ## Numbers -/

section

variable {b : Nat}

/-- A sign that is no digit does not stand in a number. -/
theorem notMem_toDigits (hb : 1 < b) (hb16 : b ≤ 16) (n : Nat) {c : Char} (hc : ∀ d < 16, c ≠ Nat.digitChar d) :
    c ∉ Nat.toDigits b n := by
  induction n using Nat.strongRecOn with
  | ind n ih =>
    by_cases hn : n < b
    · rw [Nat.toDigits_of_lt_base hn, List.mem_singleton]
      exact hc n (by omega)
    · have hmod : n % b < b := Nat.mod_lt n (by omega)
      rw [Nat.toDigits_of_base_le hb (by omega), List.mem_append, List.mem_singleton, not_or]
      exact ⟨ih (n / b) (Nat.div_lt_self (by omega) hb), hc (n % b) (by omega)⟩

theorem digitChar_inj : ∀ d < 16, ∀ e < 16, Nat.digitChar d = Nat.digitChar e → d = e := by
  decide

/-- A number can be told from its digits. -/
theorem toDigits_inj (hb : 1 < b) (hb16 : b ≤ 16) {m n : Nat} (h : Nat.toDigits b m = Nat.toDigits b n) : m = n := by
  induction m using Nat.strongRecOn generalizing n with
  | ind m ih =>
    rcases Nat.lt_or_ge m b with hm | hm
    · rw [Nat.toDigits_of_lt_base hm] at h
      rcases Nat.lt_or_ge n b with hn | hn
      · rw [Nat.toDigits_of_lt_base hn, List.cons_eq_cons] at h
        exact digitChar_inj m (by omega) n (by omega) h.1
      · -- One digit is not two or more.
        rw [Nat.toDigits_of_base_le hb hn] at h
        exact absurd (List.append_eq_singleton_iff.1 h.symm) (by simp [Nat.toDigits_ne_nil])
    · rw [Nat.toDigits_of_base_le hb hm] at h
      rcases Nat.lt_or_ge n b with hn | hn
      · rw [Nat.toDigits_of_lt_base hn] at h
        exact absurd (List.append_eq_singleton_iff.1 h) (by simp [Nat.toDigits_ne_nil])
      · rw [Nat.toDigits_of_base_le hb hn] at h
        have hmodm : m % b < b := Nat.mod_lt m (by omega)
        have hmodn : n % b < b := Nat.mod_lt n (by omega)
        obtain ⟨hfront, hlast⟩ := List.append_inj' h rfl
        have hdiv := ih (m / b) (Nat.div_lt_self (by omega) hb) hfront
        have hmod := digitChar_inj (m % b) (by omega) (n % b) (by omega) (List.cons.inj hlast).1
        rw [← Nat.div_add_mod m b, hdiv, hmod, Nat.div_add_mod]

/-- A word can be told from its digits. -/
theorem toDigits_toNat_inj (hb : 1 < b) (hb16 : b ≤ 16) {v w : UInt32} (h : Nat.toDigits b v.toNat = Nat.toDigits b w.toNat) :
    v = w := UInt32.toNat_inj.1 (toDigits_inj hb hb16 h)

end

theorem toList_toString (w : UInt32) : (toString w).toList = Nat.toDigits 10 w.toNat := by
  show (Nat.repr w.toNat).toList = _
  rw [Nat.repr_eq_ofList_toDigits, String.toList_ofList]

/-! ## Points and locations -/

theorem Point.toList_render (p : Point) :
    p.render.toList = Nat.toDigits 10 p.line.toNat ++ ':' :: Nat.toDigits 10 p.column.toNat := by
  have htext : p.render = toString p.line ++ ":" ++ toString p.column := rfl
  simp [htext, toList_toString]

/-- A point can be told from its text if a parenthesis follows. -/
theorem Point.render_append_inj {p q : Point} {x y : List Char} (h : p.render.toList ++ ')' :: x = q.render.toList ++ ')' :: y) :
    p = q ∧ x = y := by
  simp only [toList_render, List.append_assoc, List.cons_append] at h
  have hdigits : ∀ c : Char, (∀ d < 16, c ≠ Nat.digitChar d) → ∀ n, c ∉ Nat.toDigits 10 n := by
    intro c hc n
    exact notMem_toDigits (by decide) (by decide) n hc
  have hcolon := hdigits ':' (by decide)
  have hclose := hdigits ')' (by decide)
  obtain ⟨hline, hrow⟩ := cut_at (hcolon _) (hcolon _) h
  obtain ⟨hcolumn, hrest⟩ := cut_at (hclose _) (hclose _) hrow
  have hp : p = q := by
    cases p
    cases q
    rw [Point.mk.injEq]
    exact ⟨toDigits_toNat_inj (by decide) (by decide) hline, toDigits_toNat_inj (by decide) (by decide) hcolumn⟩
  exact ⟨hp, hrest⟩

theorem Location.toList_render (l : Location) :
    l.render.toList = '(' :: (l.start.render.toList ++ [')', '-', '('] ++ l.stop.render.toList ++ [')']) := by
  have htext : l.render = "(" ++ l.start.render ++ ")-(" ++ l.stop.render ++ ")" := rfl
  simp [htext]

theorem Location.selfDelimiting_render : SelfDelimiting Location.render := by
  intro l m x y h
  simp only [toList_render, List.append_assoc, List.cons_append, List.nil_append] at h
  obtain ⟨hstart, hrow⟩ := Point.render_append_inj (List.cons.inj h).2
  simp only [List.cons.injEq, true_and] at hrow
  obtain ⟨hstop, hrest⟩ := Point.render_append_inj hrow
  have hl : l = m := by
    cases l
    cases m
    rw [Location.mk.injEq]
    exact ⟨hstart, hstop⟩
  exact ⟨hl, hrest⟩

/-! ## Sets of flags -/

/-- The names of a family can be told apart: each flag has a bit and a name of its own, and names are made of capital letters and low
lines, so that a name is no number, and ends where a blank or a parenthesis comes. -/
class Flag.Legible (α : Type) [Flag α] : Prop where
  position_lt : ∀ a ∈ (Flag.members : List α), Flag.position a < 32 := by decide
  name_inj : ∀ a ∈ (Flag.members : List α), ∀ b ∈ (Flag.members : List α), Flag.name a = Flag.name b → a = b := by decide
  name_ne : ∀ a ∈ (Flag.members : List α), Flag.name a ≠ "" := by decide
  isUpper_name : ∀ a ∈ (Flag.members : List α), (Flag.name a).toList.all fun c => c.isUpper || c == '_' := by decide

instance : Flag.Legible SymbolKind where

instance : Flag.Legible ReferentKind where

instance : Flag.Legible ExpressionKind where

namespace FlagSet

/-! ### Bits without a name -/

theorem toList_hex (w : UInt32) : (hex w).toList = '0' :: 'x' :: Nat.toDigits 16 w.toNat := by
  simp [hex]

theorem hex_inj {v w : UInt32} (h : hex v = hex w) : v = w := by
  have hrow := congrArg String.toList h
  simp only [toList_hex, List.cons.injEq, true_and] at hrow
  exact toDigits_toNat_inj (by decide) (by decide) hrow

variable {α : Type} [Flag α]

theorem testBit_all [Flag.Legible α] (i : Nat) :
    (all : FlagSet α).bits.toNat.testBit i ↔ ∃ a ∈ (Flag.members : List α), Flag.position a = i := by
  have hall : (all : FlagSet α) = (Flag.members.map single).foldl (· ∪ ·) ∅ := by rw [all, List.foldl_map]
  have hempty : (∅ : FlagSet α).bits.toNat.testBit i = false := Nat.zero_testBit i
  rw [hall, testBit_foldl_union, List.any_cons, hempty, Bool.false_or, List.any_map, List.any_eq_true]
  refine exists_congr fun a => and_congr_right fun ha => ?_
  rw [Function.comp_apply, testBit_bits_single (Flag.Legible.position_lt a ha), decide_eq_true_eq]

theorem testBit_unnamed (s : FlagSet α) {i : Nat} (hi : i < 32) :
    s.unnamed.toNat.testBit i = (s.bits.toNat.testBit i && !(all : FlagSet α).bits.toNat.testBit i) := by
  have hnot : (~~~(all : FlagSet α).bits).toNat.testBit i = !(all : FlagSet α).bits.toNat.testBit i := by
    rw [← UInt32.toNat_toBitVec, UInt32.toBitVec_not, BitVec.testBit_toNat, BitVec.getLsbD_not, decide_eq_true hi, Bool.true_and]
    rfl
  rw [unnamed, UInt32.toNat_and, Nat.testBit_and, hnot]

/-- A set is told by its members and its bits without a name. -/
theorem eq_of_mem_toList_iff [Flag.Legible α] {s t : FlagSet α}
    (hmembers : ∀ a ∈ (Flag.members : List α), a ∈ s.toList ↔ a ∈ t.toList) (hunnamed : s.unnamed = t.unnamed) : s = t := by
  refine ext_testBit fun i => ?_
  by_cases hi : ∃ a ∈ (Flag.members : List α), Flag.position a = i
  · obtain ⟨a, ha, rfl⟩ := hi
    have hlt := Flag.Legible.position_lt a ha
    have hmem := hmembers a ha
    simp only [toList, List.mem_filter, ha, true_and, contains_single_iff _ hlt] at hmem
    exact Bool.eq_iff_iff.2 hmem
  · rcases Nat.lt_or_ge i 32 with hlt | hge
    · have hall : (all : FlagSet α).bits.toNat.testBit i = false := Bool.eq_false_iff.2 (mt (testBit_all i).1 hi)
      have hbit := congrArg (·.toNat.testBit i) hunnamed
      simpa [testBit_unnamed _ hlt, hall] using hbit
    · have hbound : ∀ w : UInt32, w.toNat.testBit i = false := fun w =>
        Nat.testBit_lt_two_pow (Nat.lt_of_lt_of_le w.toNat_lt (Nat.pow_le_pow_right (by decide) hge))
      rw [hbound, hbound]

/-! ### Words -/

/-- The words in the text of a set: its parts, or a zero for no flags. -/
def words (s : FlagSet α) : List String := if s.isEmpty then [hex 0] else s.parts

theorem toList_render (s : FlagSet α) :
    s.render.toList = (Flag.title α).toList ++ '(' :: ([' ', '|', ' '].intercalate (s.words.map String.toList) ++ [')']) := by
  have htext : s.render = Flag.title α ++ "(" ++ " | ".intercalate s.words ++ ")" := by
    unfold render words
    cases s.isEmpty <;> simp [toString]
  simp [htext]

theorem mem_members_of_mem_toList {s : FlagSet α} {a : α} (ha : a ∈ s.toList) : a ∈ (Flag.members : List α) :=
  (List.mem_filter.1 ha).1

/-- A word in the text of a set is the name of a member or the number of the bits without a name. -/
theorem eq_of_mem_words {s : FlagSet α} {w : String} (h : w ∈ s.words) :
    (∃ a ∈ s.toList, Flag.name a = w) ∨ w = hex s.unnamed := by
  unfold words at h
  split at h
  · next hempty =>
    have hbits : s.bits = 0 := by simpa [isEmpty] using hempty
    have hunnamed : s.unnamed = 0 := by rw [unnamed, hbits, UInt32.zero_and]
    rw [hunnamed]
    exact Or.inr (List.mem_singleton.1 h)
  · rcases List.mem_append.1 h with h | h
    · exact Or.inl (List.mem_map.1 h)
    · split at h
      · cases h
      · exact Or.inr (List.mem_singleton.1 h)

theorem mem_words_of_mem_parts {s : FlagSet α} {w : String} (hne : s ≠ ∅) (h : w ∈ s.parts) : w ∈ s.words := by
  have hempty : s.isEmpty = false := by
    rw [isEmpty, beq_eq_false_iff_ne]
    exact fun hbits => hne (ext hbits)
  simpa [words, hempty] using h

variable [Flag.Legible α]

/-- A name is no number. -/
theorem name_ne_hex {a : α} (ha : a ∈ (Flag.members : List α)) (w : UInt32) : Flag.name a ≠ hex w := by
  intro h
  have hzero : '0' ∈ (Flag.name a).toList := by simp [h, toList_hex]
  exact absurd (List.all_eq_true.1 (Flag.Legible.isUpper_name a ha) '0' hzero) (by decide)

/-- A flag is in a set if its name is a word in the text of the set. -/
theorem name_mem_words {s : FlagSet α} {a : α} (ha : a ∈ (Flag.members : List α)) : Flag.name a ∈ s.words ↔ a ∈ s.toList := by
  constructor
  · intro h
    rcases eq_of_mem_words h with ⟨b, hb, hname⟩ | hhex
    · rwa [← Flag.Legible.name_inj b (mem_members_of_mem_toList hb) a ha hname]
    · exact absurd hhex (name_ne_hex ha _)
  · intro h
    refine mem_words_of_mem_parts ?_ (List.mem_append_left _ (List.mem_map_of_mem h))
    rintro rfl
    have hbit := (contains_single_iff _ (Flag.Legible.position_lt a ha)).1 (List.mem_filter.1 h).2
    exact absurd hbit (by simp [EmptyCollection.emptyCollection, empty])

/-- The words in the text of a set tell the number of its bits without a name. -/
theorem unnamed_eq_of_words_eq {s t : FlagSet α} (h : s.words = t.words) (hs : s.unnamed ≠ 0) : s.unnamed = t.unnamed := by
  have hmem : hex s.unnamed ∈ s.words := by
    refine mem_words_of_mem_parts ?_ (List.mem_append_right _ (by simp [hs]))
    rintro rfl
    exact hs UInt32.zero_and
  rw [h] at hmem
  rcases eq_of_mem_words hmem with ⟨a, ha, hname⟩ | hhex
  · exact absurd hname (name_ne_hex (mem_members_of_mem_toList ha) _)
  · exact hex_inj hhex

theorem words_inj {s t : FlagSet α} (h : s.words = t.words) : s = t := by
  refine eq_of_mem_toList_iff (fun a ha => ?_) ?_
  · rw [← name_mem_words ha, h, name_mem_words ha]
  · by_cases hs : s.unnamed = 0
    · by_cases ht : t.unnamed = 0
      · rw [hs, ht]
      · exact (unnamed_eq_of_words_eq h.symm ht).symm
    · exact unnamed_eq_of_words_eq h hs

/-- No word in the text of a set is empty, and none holds a blank or a parenthesis. -/
theorem plain_of_mem_words {s : FlagSet α} {w : String} (h : w ∈ s.words) :
    w.toList ≠ [] ∧ ' ' ∉ w.toList ∧ ')' ∉ w.toList := by
  rcases eq_of_mem_words h with ⟨a, ha, rfl⟩ | rfl
  · have hmem := mem_members_of_mem_toList ha
    have hplain : ∀ c : Char, c.isUpper = false → c ≠ '_' → c ∉ (Flag.name a).toList := by
      intro c hupper hlow hc
      simpa [hupper, hlow] using List.all_eq_true.1 (Flag.Legible.isUpper_name a hmem) c hc
    refine ⟨?_, hplain ' ' (by decide) (by decide), hplain ')' (by decide) (by decide)⟩
    simpa using Flag.Legible.name_ne a hmem
  · have hdigits : ∀ c : Char, (∀ d < 16, c ≠ Nat.digitChar d) → c ∉ Nat.toDigits 16 s.unnamed.toNat := by
      intro c hc
      exact notMem_toDigits (by decide) (by decide) _ hc
    simp [toList_hex, hdigits ' ' (by decide), hdigits ')' (by decide)]

theorem selfDelimiting_render : SelfDelimiting (render : FlagSet α → String) := by
  intro s t x y h
  simp only [toList_render, List.append_assoc, List.cons_append, List.nil_append] at h
  have hrow := (List.cons.inj (List.append_cancel_left h)).2
  have hclose : ∀ u : FlagSet α, ')' ∉ [' ', '|', ' '].intercalate (u.words.map String.toList) := by
    intro u
    refine notMem_intercalate (by decide) ?_
    simp only [List.forall_mem_map]
    exact fun w hw => (plain_of_mem_words hw).2.2
  obtain ⟨hwords, hrest⟩ := cut_at (hclose s) (hclose t) hrow
  have hplain : ∀ u : FlagSet α, ∀ w ∈ u.words.map String.toList, w ≠ [] ∧ ' ' ∉ w := by
    intro u
    simp only [List.forall_mem_map]
    exact fun w hw => ⟨(plain_of_mem_words hw).1, (plain_of_mem_words hw).2.1⟩
  have hmap := intercalate_inj (hplain s) (hplain t) hwords
  exact ⟨words_inj ((List.map_inj_right fun _ _ => String.toList_inj.1).1 hmap), hrest⟩

end FlagSet

/-! ## Tokens -/

namespace Token

theorem toList_render (t : Token) :
    t.render.toList = t.symbol.render.toList ++ ' ' :: (t.referent.render.toList ++ ' ' :: (t.expression.render.toList ++
      [' ', '@', ' '] ++ t.location.render.toList)) := by
  have htext : t.render = t.symbol.render ++ " " ++ t.referent.render ++ " " ++ t.expression.render ++ " @ " ++ t.location.render :=
    rfl
  simp [htext]

theorem selfDelimiting_render : SelfDelimiting Token.render := by
  intro s t x y h
  simp only [toList_render, List.append_assoc, List.cons_append, List.nil_append] at h
  obtain ⟨hsymbol, h₁⟩ := FlagSet.selfDelimiting_render h
  obtain ⟨hreferent, h₂⟩ := FlagSet.selfDelimiting_render (List.cons.inj h₁).2
  obtain ⟨hexpression, h₃⟩ := FlagSet.selfDelimiting_render (List.cons.inj h₂).2
  simp only [List.cons.injEq, true_and] at h₃
  obtain ⟨hlocation, hrest⟩ := Location.selfDelimiting_render h₃
  have hst : s = t := by
    cases s
    cases t
    rw [Token.mk.injEq]
    exact ⟨hlocation, hsymbol, hreferent, hexpression⟩
  exact ⟨hst, hrest⟩

end Token

/-- Values that are printed on a line each, after the same indentation, can be told from all lines together. -/
theorem SelfDelimiting.lines_injective {α : Type} {print : α → String} (h : SelfDelimiting print) (indentation : String) :
    Function.Injective fun values : List α => Command.lines (values.map fun a => indentation ++ print a) := by
  have hcons : ∀ (a : α) (values : List α), (Command.lines ((a :: values).map fun a => indentation ++ print a)).toList =
      indentation.toList ++ ((print a).toList ++ '\n' :: (Command.lines (values.map fun a => indentation ++ print a)).toList) := by
    intro a values
    simp [Command.lines]
  intro s t hlines
  replace hlines := congrArg String.toList hlines
  dsimp only at hlines
  induction s generalizing t with
  | nil =>
    cases t with
    | nil => rfl
    | cons b t =>
      rw [hcons] at hlines
      simp [Command.lines] at hlines
  | cons a s ih =>
    cases t with
    | nil =>
      rw [hcons] at hlines
      simp [Command.lines] at hlines
    | cons b t =>
      rw [hcons, hcons] at hlines
      obtain ⟨rfl, hrest⟩ := h (List.append_cancel_left hlines)
      rw [ih (List.cons.inj hrest).2]

/-- Printed tokens lose nothing, whatever bits their sets and whatever numbers their locations hold. Two tokens with the same text
are the same token, and two locations with the same text are the same location. The lines on which a list of tokens is printed tell
the whole list. -/
theorem tokens_told_apart :
    Function.Injective Token.render ∧ Function.Injective Location.render ∧
    Function.Injective fun tokens : List Token => Command.lines (tokens.map fun token => "  " ++ token.render) :=
  ⟨Token.selfDelimiting_render.injective, Location.selfDelimiting_render.injective,
    Token.selfDelimiting_render.lines_injective "  "⟩

-- Bits with and without names, a set of no flags, and an end that is not known yet.
example : Token.render { location := ⟨⟨1, 4294967295⟩, .unset⟩, symbol := ⟨9⟩, referent := ⟨32⟩ } =
    "Symbol(DECL_KEYWORD | 0x8) IdentifierType(0x20) ExpressionType(0x0) @ (1:4294967295)-(0:0)" := by
  decide +kernel

end RuleScanner
