import RuleScanner.Pattern.Basic

/-!
# What a reader of a pattern looks at

The parts of a pattern are read from its start on: a reader takes something off the start of a text and leaves a rest. What it takes
does not depend on what follows, if that starts with a closing parenthesis (`Local`). None of the readers looks ahead for such a
parenthesis, so a text that is read to some place is read to the same place whether or not a parenthesis follows.

Blanks and comments make an exception. A comment goes on to the end of its line, and if the text ends before, it goes on in what
follows. So a reader that passes over blanks last may lose the parenthesis (`Loose`).
-/

namespace RuleScanner.Pattern

/-! ## Readers -/

/-- The text starts with a closing parenthesis. -/
def Closes (s : List Char) : Prop := s.head? = some ')'

theorem closes_cons (t : List Char) : Closes (')' :: t) := rfl

theorem Closes.exists_cons {s : List Char} (h : Closes s) : ∃ t, s = ')' :: t := by
  cases s with
  | nil => cases h
  | cons c t => exact ⟨t, congrArg (· :: t) (Option.some.inj h)⟩

/-- An end of a text with something behind it either has all of that or is less. -/
theorem suffix_append_cases {cs s r : List Char} (h : r <:+ cs ++ s) : (∃ r', r = r' ++ s ∧ r' <:+ cs) ∨ r.length < s.length := by
  rcases Nat.lt_or_ge r.length s.length with hlt | hge
  · exact Or.inr hlt
  · obtain ⟨r', hr'⟩ := List.suffix_of_suffix_length_le (List.suffix_append cs s) h hge
    subst hr'
    exact Or.inl ⟨r', rfl, ((List.suffix_append_inj_of_length_eq rfl).1 h).1⟩

/-- A text behind which another one is left is no shorter end of that. -/
theorem eq_nil_of_append_suffix {r s : List Char} (h : r ++ s <:+ s) : r = [] := by
  have hlength := h.length_le
  rw [List.length_append] at hlength
  exact List.length_eq_zero_iff.1 (by omega)

/-- A run of characters at the start of a text ends in the text, and then it is the same if something follows, or it goes on in that. -/
theorem takeWhile_dropWhile_append (p : Char → Bool) (cs s : List Char) :
    (cs.dropWhile p ≠ [] ∧ (cs ++ s).takeWhile p = cs.takeWhile p ∧ (cs ++ s).dropWhile p = cs.dropWhile p ++ s) ∨
      cs.dropWhile p = [] ∧ (cs ++ s).takeWhile p = cs ++ s.takeWhile p ∧ (cs ++ s).dropWhile p = s.dropWhile p := by
  induction cs with
  | nil => exact Or.inr ⟨rfl, rfl, rfl⟩
  | cons c rest ih =>
    by_cases hc : p c
    · simpa [hc] using ih
    · simp [hc]

/-- A reader takes something off the start of a text, and leaves a rest. -/
abbrev Reader (α : Type) : Type := List Char → Option (α × List Char)

/-- The reader leaves an end of the text. What it takes and leaves is the same if a closing parenthesis follows, as far as the two
are related by `P`. -/
structure LocalOn {α : Type} (P : α → List Char → Prop) (f : Reader α) : Prop where
  suffix : ∀ {cs a r}, f cs = some (a, r) → r <:+ cs
  append : ∀ {s}, Closes s → ∀ {cs a r}, P a r → (f (cs ++ s) = some (a, r ++ s) ↔ f cs = some (a, r))

/-- The reader leaves an end of the text, and takes the same if a closing parenthesis follows. -/
abbrev Local {α : Type} (f : Reader α) : Prop := LocalOn (fun _ _ => True) f

namespace LocalOn

variable {α β : Type} {P : α → List Char → Prop} {f g : Reader α}

theorem none : LocalOn P fun _ => (Option.none : Option (α × List Char)) := ⟨nofun, fun _ _ _ _ _ => Iff.rfl.trans (by simp)⟩

theorem pure (a : α) : LocalOn P fun cs => some (a, cs) where
  suffix h := by
    cases h
    exact List.suffix_refl _
  append hs _ _ _ _ := by simp

theorem mono {Q : α → List Char → Prop} (h : LocalOn P f) (hQ : ∀ a r, Q a r → P a r) : LocalOn Q f :=
  ⟨h.suffix, fun hs _ _ _ hr => h.append hs (hQ _ _ hr)⟩

/-- One reader after another. The first need not be local where the second would fail. -/
theorem bindOn {Q : β → List Char → Prop} {k : α × List Char → Option (β × List Char)} (hf : LocalOn P f)
    (hk : ∀ a, LocalOn Q fun r => k (a, r)) (hP : ∀ {a t b r}, k (a, t) = some (b, r) → Q b r → P a t) :
    LocalOn Q fun cs => f cs >>= k where
  suffix h := by
    obtain ⟨⟨a, t⟩, hfirst, hthen⟩ := Option.bind_eq_some_iff.1 h
    exact ((hk a).suffix hthen).trans (hf.suffix hfirst)
  append {s} hs {cs b r} hr := by
    simp only [Option.bind_eq_bind, Option.bind_eq_some_iff]
    constructor
    · rintro ⟨⟨a, t⟩, hfirst, hthen⟩
      -- The second reader leaves what follows, and so does the first.
      rcases suffix_append_cases (hf.suffix hfirst) with ⟨t, rfl, -⟩ | hlt
      · have hthen := ((hk a).append hs hr).1 hthen
        exact ⟨(a, t), (hf.append hs (hP hthen hr)).1 hfirst, hthen⟩
      · have hle := ((hk a).suffix hthen).length_le
        rw [List.length_append] at hle
        omega
    · rintro ⟨⟨a, t⟩, hfirst, hthen⟩
      exact ⟨(a, t ++ s), (hf.append hs (hP hthen hr)).2 hfirst, ((hk a).append hs hr).2 hthen⟩

theorem bind {Q : β → List Char → Prop} {k : α × List Char → Option (β × List Char)} (hf : Local f)
    (hk : ∀ a, LocalOn Q fun r => k (a, r)) : LocalOn Q fun cs => f cs >>= k := hf.bindOn hk fun _ _ => trivial

/-- A choice between readers that does not depend on the text. -/
theorem cond {C : Prop} [Decidable C] (hf : C → LocalOn P f) (hg : ¬ C → LocalOn P g) :
    LocalOn P fun cs => if C then f cs else g cs := by
  by_cases h : C
  · simpa only [if_pos h] using hf h
  · simpa only [if_neg h] using hg h

/-- A reader for each value that is given. -/
theorem given {γ : Type} {k : γ → Reader α} (o : Option γ) (h : ∀ x, LocalOn P (k x)) : LocalOn P fun cs => o >>= (k · cs) := by
  cases o with
  | none => exact none
  | some x => exact h x

/-- A value that does not depend on the text. -/
theorem const {γ : Type} (o : Option γ) (value : γ → α) : LocalOn P fun cs => o.map fun x => (value x, cs) := by
  cases o with
  | none => exact none
  | some x => exact pure (value x)

/-- A choice between readers that a closing parenthesis behind the text does not change. -/
theorem ite {C : List Char → Prop} [DecidablePred C] (hC : ∀ {s}, Closes s → ∀ cs, C (cs ++ s) ↔ C cs) (hf : LocalOn P f)
    (hg : LocalOn P g) : LocalOn P fun cs => if C cs then f cs else g cs where
  suffix h := by
    split at h
    · exact hf.suffix h
    · exact hg.suffix h
  append hs cs a r hr := by
    by_cases h : C cs
    · rw [if_pos h, if_pos ((hC hs cs).2 h)]
      exact hf.append hs hr
    · rw [if_neg h, if_neg (mt (hC hs cs).1 h)]
      exact hg.append hs hr

/-- A reader that needs a character. -/
theorem uncons (hnil : f [] = Option.none) (h : ∀ c, LocalOn P fun rest => f (c :: rest)) : LocalOn P f where
  suffix {cs a r} hf := by
    cases cs with
    | nil => cases hnil.symm.trans hf
    | cons c rest => exact ((h c).suffix hf).trans (List.suffix_cons c rest)
  append {s} hs {cs a r} hr := by
    cases cs with
    | nil =>
      obtain ⟨t, rfl⟩ := hs.exists_cons
      simp only [hnil, reduceCtorEq, iff_false]
      intro hf
      have hle := ((h ')').suffix hf).length_le
      rw [List.length_append, List.length_cons] at hle
      omega
    | cons c rest => exact (h c).append hs hr

/-- A reader that needs a character in front of what it leaves. -/
theorem ofCons (hg : LocalOn P g) (hP : ∀ a, ¬ P a []) (hnil : f [] = Option.none) (h : ∀ c rest, f (c :: rest) = g (c :: rest)) :
    LocalOn P f where
  suffix {cs a r} hf := by
    cases cs with
    | nil => cases hnil.symm.trans hf
    | cons c rest => exact hg.suffix ((h c rest).symm.trans hf)
  append {s} hs {cs a r} hr := by
    cases cs with
    | nil =>
      obtain ⟨t, rfl⟩ := hs.exists_cons
      simp only [hnil, reduceCtorEq, iff_false]
      intro hf
      obtain rfl := eq_nil_of_append_suffix (hg.suffix ((h _ _).symm.trans hf))
      exact hP a hr
    | cons c rest =>
      rw [List.cons_append, h, h, ← List.cons_append]
      exact hg.append hs hr

/-- A reader that does something else if the text starts with one of some characters, of which a closing parenthesis is none. -/
theorem onHead (p : Char → Prop) (hp : ¬ p ')') (h : ∀ c, p c → LocalOn P fun rest => f (c :: rest)) (hg : LocalOn P g)
    (hother : ∀ cs, (∀ c ∈ cs.head?, ¬ p c) → f cs = g cs) : LocalOn P f where
  suffix {cs a r} hf := by
    cases cs with
    | nil => exact hg.suffix ((hother [] (by simp)).symm.trans hf)
    | cons c rest =>
      by_cases hc : p c
      · exact ((h c hc).suffix hf).trans (List.suffix_cons c rest)
      · exact hg.suffix ((hother (c :: rest) (by simpa using hc)).symm.trans hf)
  append {s} hs {cs a r} hr := by
    cases cs with
    | nil =>
      obtain ⟨t, rfl⟩ := hs.exists_cons
      rw [hother [] (by simp), hother ([] ++ ')' :: t) (by simpa using hp)]
      exact hg.append hs hr
    | cons c rest =>
      by_cases hc : p c
      · exact (h c hc).append hs hr
      · rw [hother (c :: rest) (by simpa using hc), hother (c :: rest ++ s) (by simpa using hc)]
        exact hg.append hs hr

end LocalOn

/-! ## Blanks and comments -/

namespace Mode

theorem dropBlanks_suffix (inComment : Bool) (cs : List Char) : dropBlanks inComment cs <:+ cs := by
  fun_induction dropBlanks inComment cs with
  | case1 => exact List.suffix_refl _
  | case2 c rest ih => exact ih.trans (List.suffix_cons c rest)
  | case3 c rest _ ih => exact ih.trans (List.suffix_cons c rest)
  | case4 rest _ ih => exact ih.trans (List.suffix_cons _ rest)
  | case5 => exact List.suffix_refl _

/-- Behind a text of blanks and comments only, more of them may follow. -/
theorem dropBlanks_append (inComment : Bool) (cs : List Char) :
    (dropBlanks inComment cs ≠ [] ∧ ∀ s, dropBlanks inComment (cs ++ s) = dropBlanks inComment cs ++ s) ∨
      dropBlanks inComment cs = [] ∧ ∃ stillIn, ∀ s, dropBlanks inComment (cs ++ s) = dropBlanks stillIn s := by
  fun_induction dropBlanks inComment cs with
  | case1 inComment => exact Or.inr ⟨rfl, inComment, fun _ => rfl⟩
  | case2 c rest ih => exact ih
  | case3 c rest hc ih => simpa [dropBlanks, hc] using ih
  | case4 rest hc ih => simpa [dropBlanks, hc] using ih
  | case5 c rest hc hne => exact Or.inl ⟨by simp, by simp [dropBlanks, hc, hne]⟩

/-- A comment takes something of every text. -/
theorem length_dropBlanks_lt {s : List Char} (h : s ≠ []) : (dropBlanks true s).length < s.length := by
  cases s with
  | nil => cases h rfl
  | cons c rest => exact Nat.lt_succ_of_le (dropBlanks_suffix _ rest).length_le

/-- A comment takes all of a line. -/
theorem dropBlanks_of_notMem {s : List Char} (h : '\n' ∉ s) : dropBlanks true s = [] := by
  induction s with
  | nil => rfl
  | cons c rest ih =>
    obtain ⟨hc, hrest⟩ := not_or.1 (mt List.mem_cons.2 h)
    rw [dropBlanks, bne_iff_ne.2 (Ne.symm hc), ih hrest]

theorem skip_suffix (m : Mode) (cs : List Char) : m.skip cs <:+ cs := by
  unfold skip
  split
  · exact dropBlanks_suffix _ _
  · exact List.suffix_refl _

/-- Blanks are passed over once. -/
theorem skip_skip (m : Mode) (cs : List Char) : m.skip (m.skip cs) = m.skip cs := by
  have hdrop : ∀ inComment, dropBlanks false (dropBlanks inComment cs) = dropBlanks inComment cs := by
    intro inComment
    fun_induction dropBlanks inComment cs with
    | case1 => rfl
    | case2 _ _ ih => exact ih
    | case3 _ _ _ ih => exact ih
    | case4 _ _ ih => exact ih
    | case5 c rest hc hne => simp [dropBlanks, hc, hne]
  unfold skip
  split
  · exact hdrop false
  · rfl

/-- A character that counts is not passed over, whatever follows it. -/
theorem skip_cons_of_skip_eq {m : Mode} {cs rest : List Char} {c : Char} (h : m.skip cs = c :: rest) (t : List Char) :
    m.skip (c :: t) = c :: t := by
  have hfixed := m.skip_skip cs
  rw [h] at hfixed
  unfold skip at hfixed ⊢
  by_cases hx : m.extended
  · rw [if_pos hx] at hfixed ⊢
    have hdrop : ∀ inComment, dropBlanks inComment rest ≠ c :: rest := by
      intro inComment heq
      have hle := (dropBlanks_suffix inComment rest).length_le
      rw [heq, List.length_cons] at hle
      omega
    rw [dropBlanks] at hfixed ⊢
    split at hfixed
    · exact absurd hfixed (hdrop false)
    · split at hfixed
      · exact absurd hfixed (hdrop true)
      · next hblank hsign => rw [if_neg hblank, if_neg hsign]
  · rw [if_neg hx]

/-- A closing parenthesis counts. -/
theorem skip_of_closes (m : Mode) {s : List Char} (hs : Closes s) : m.skip s = s := by
  obtain ⟨t, rfl⟩ := hs.exists_cons
  unfold skip
  split
  · rfl
  · rfl

/-- What is left behind blanks and comments, if something follows: the same with that behind it, or what is left of that, or what a
comment that is still open leaves of it. -/
theorem skip_append (m : Mode) (cs : List Char) :
    (m.skip cs ≠ [] ∧ ∀ s, m.skip (cs ++ s) = m.skip cs ++ s) ∨
      (m.skip cs = [] ∧ ∀ s, m.skip (cs ++ s) = m.skip s) ∨
      m.skip cs = [] ∧ ∀ s, m.skip (cs ++ s) = dropBlanks true s := by
  unfold skip
  by_cases hx : m.extended
  · simp only [hx, if_true]
    rcases dropBlanks_append false cs with h | ⟨hnil, stillIn, h⟩
    · exact Or.inl h
    · cases stillIn with
      | true => exact Or.inr (Or.inr ⟨hnil, h⟩)
      | false => exact Or.inr (Or.inl ⟨hnil, h⟩)
  · simp only [hx]
    cases cs with
    | nil => exact Or.inr (Or.inl ⟨rfl, fun _ => rfl⟩)
    | cons c rest => exact Or.inl ⟨by simp, by simp⟩

/-- Where blanks and comments end does not depend on what follows the character that ends them. -/
theorem skip_before_cons {m : Mode} {before rest : List Char} {c : Char} (h : m.skip (before ++ c :: rest) = c :: rest)
    (t : List Char) : m.skip before = [] ∧ m.skip (before ++ c :: t) = c :: t := by
  rcases m.skip_append before with ⟨hne, hskip⟩ | ⟨hnil, hskip⟩ | ⟨-, hskip⟩
  · rw [hskip] at h
    exact absurd (List.append_left_eq_self.1 h) hne
  · refine ⟨hnil, ?_⟩
    rw [hskip] at h ⊢
    exact skip_cons_of_skip_eq h t
  · have hlt := length_dropBlanks_lt (s := c :: rest) (by simp)
    rw [← hskip, h] at hlt
    omega

end Mode

namespace LocalOn

variable {α : Type} {P : α → List Char → Prop} {f : Reader α}

/-- A reader that passes over blanks first, and then needs a character. -/
theorem skip (m : Mode) (hf : LocalOn P f) (hnil : ∀ a, P a [] → f [] ≠ some (a, [])) : LocalOn P fun cs => f (m.skip cs) where
  suffix h := (hf.suffix h).trans (m.skip_suffix _)
  append {s} hs {cs a r} hr := by
    rcases m.skip_append cs with ⟨-, h⟩ | ⟨hskip, h⟩ | ⟨hskip, h⟩
    · rw [h]
      exact hf.append hs hr
    · rw [h, m.skip_of_closes hs, hskip, ← hf.append hs hr]
      rfl
    · rw [h, hskip]
      constructor
      · intro hread
        have hle := (hf.suffix hread).length_le
        have hlt := Mode.length_dropBlanks_lt (s := s) (by rintro rfl; cases hs)
        rw [List.length_append] at hle
        omega
      · intro hread
        obtain rfl : r = [] := List.suffix_nil.1 (hf.suffix hread)
        exact absurd hread (hnil a hr)

/-- A reader that passes over blanks first, in the form of what it does with each character that counts. -/
theorem counting (m : Mode) (hskip : ∀ cs, f (m.skip cs) = f cs) (hnil : f [] = Option.none)
    (h : ∀ c, (∀ rest, m.skip (c :: rest) = c :: rest) → LocalOn P fun rest => f (c :: rest)) : LocalOn P f := by
  classical
  have hg : LocalOn P fun cs => if ∀ c ∈ cs.head?, ∀ rest, m.skip (c :: rest) = c :: rest then f cs else Option.none := by
    refine uncons ?_ fun c => ?_
    · simp [hnil]
    · simpa using cond (h c) fun _ => none
  have heq : f = fun cs => if ∀ c ∈ (m.skip cs).head?, ∀ rest, m.skip (c :: rest) = c :: rest then f (m.skip cs) else Option.none := by
    funext cs
    rw [if_pos, hskip]
    intro c hc
    obtain ⟨rest, hrest⟩ := List.head?_eq_some_iff.1 hc
    exact Mode.skip_cons_of_skip_eq hrest
  rw [heq]
  exact hg.skip m fun _ _ => by simp [hnil]

/-- A reader that takes the first character that counts. -/
theorem next {k : Char × List Char → Option (α × List Char)} (m : Mode) (h : ∀ c, LocalOn P fun rest => k (c, rest)) :
    LocalOn P fun cs => m.next? cs >>= k := by
  have hf : LocalOn P fun cs => Mode.next? {} cs >>= k := uncons rfl h
  exact hf.skip m fun _ _ => nofun

end LocalOn

/-! ## Readers with a bound -/

/-- A bound that grows beyond the length of the text makes no difference, if one more makes none. -/
theorem eq_of_length_le {β : Type} {F : Nat → List Char → β} (hmore : ∀ n cs, cs.length ≤ n → F (n + 1) cs = F n cs) {n : Nat}
    {cs : List Char} (hn : cs.length ≤ n) : F n cs = F cs.length cs := by
  induction hn with
  | refl => rfl
  | @step n hn ih => rw [hmore n cs hn, ih]

/-- A reader that is bounded by the length of the text. -/
theorem LocalOn.bounded {α : Type} {P : α → List Char → Prop} (F : Nat → Reader α) (hF : ∀ n, LocalOn P (F n))
    (hmore : ∀ n cs, cs.length ≤ n → F (n + 1) cs = F n cs) : LocalOn P fun cs => F cs.length cs where
  suffix h := (hF _).suffix h
  append {s} hs {cs a r} hr := by
    have hle : cs.length ≤ (cs ++ s).length := by simp
    rw [(hF (cs ++ s).length).append hs hr, eq_of_length_le hmore hle]

end RuleScanner.Pattern
