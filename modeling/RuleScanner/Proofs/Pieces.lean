import RuleScanner.Proofs.Readers

/-!
# The reader of pieces

Groups and repetitions are read by local readers, as escapes and classes are. A piece as a whole is not local, for two reasons. What
follows an opening parenthesis or a repetition is read behind blanks, and a comment there takes in whatever comes on its line. And a
boundary `\b` looks behind a brace for a name: with nothing after the brace it fails, with a parenthesis after it the brace is left.
`Loose` says what still holds, and `loose_piece?` says it of every piece.
-/

namespace RuleScanner.Pattern

/-! ## Groups -/

/-- A reading as a value and a rest. -/
def paired (reading : Reading) : (Piece × Context) × List Char := ((reading.1, reading.2.1), reading.2.2)

theorem modeLetters_suffix {m m' : Mode} {seen cs r : List Char} {on dangling empty : Bool} {c : Char}
    (h : modeLetters m seen on dangling cs = some (m', empty, c, r)) : r <:+ cs := by
  fun_induction modeLetters m seen on dangling cs with
  | case1 => cases h
  | case2 => cases h
  | case3 m seen on dangling c rest =>
    cases h
    exact List.suffix_cons _ _
  | case4 m seen dangling rest _ ih => exact (ih h).trans (List.suffix_cons _ _)
  | case5 => cases h
  | case6 => cases h
  | case7 m seen on dangling c rest _ _ _ m' hset ih => exact (ih h).trans (List.suffix_cons _ _)
  | case8 => cases h

theorem local_modeLetters (m : Mode) (seen : List Char) (on dangling : Bool) :
    Local fun cs => (modeLetters m seen on dangling cs).map fun (m, empty, c, r) => ((m, empty, c), r) where
  suffix h := by
    obtain ⟨⟨m', empty, c, r⟩, hletters, hr⟩ := Option.map_eq_some_iff.1 h
    cases hr
    exact modeLetters_suffix hletters
  append {s} hs {cs a r} _ := by
    induction cs generalizing m seen on dangling with
    | nil =>
      obtain ⟨t, rfl⟩ := hs.exists_cons
      have hparen : modeLetters m seen on dangling (')' :: t) = if dangling then none else some (m, seen.isEmpty, ')', t) := rfl
      rw [List.nil_append, hparen]
      simp only [modeLetters, Option.map_none, reduceCtorEq, iff_false]
      split
      · simp
      · intro h
        have heq : t = r ++ ')' :: t := (Prod.mk.inj (Option.some.inj h)).2
        have hlength := congrArg List.length heq
        rw [List.length_append, List.length_cons] at hlength
        omega
    | cons c rest ih =>
      simp only [List.cons_append, modeLetters]
      split
      · split <;> simp
      · split
        · split
          · exact ih ..
          · simp
        · split
          · simp
          · split
            · exact ih ..
            · simp

/-- The piece of a mode change whose letters have been read. -/
def ofLetters? (x : Context) (letters : Mode × Bool × Char) (rest : List Char) : Option ((Piece × Context) × List Char) :=
  if letters.2.2 = ':' then some ((.groupStart none, x.enter letters.1), rest)
  else if letters.2.1 then none
  else some ((.modeChange, { x with mode := letters.1 }), rest)

/-- The context after the name of a group. -/
def Context.name? (x : Context) (name : List Char) : Option Context :=
  match name with
  | [] => none
  | first :: others =>
    if isNameChar true first && others.all (isNameChar false) && !x.names.contains name then
      some { x with names := name :: x.names }
    else none

theorem groupName?_eq (x : Context) (cs : List Char) :
    groupName? x cs = x.name? (cs.takeWhile (· != '>')) >>= fun x =>
      match cs.dropWhile (· != '>') with
      | [] => none
      | _ :: rest => some (x.enterNumbered rest) := by
  unfold groupName? Context.name?
  rcases cs.takeWhile (· != '>') with _ | ⟨first, others⟩
  · rfl
  · rcases cs.dropWhile (· != '>') with _ | ⟨c, rest⟩
    · simp
    · simp only
      split <;> rfl

theorem local_groupName? (x : Context) : Local fun cs => (groupName? x cs).map paired := by
  -- A name that is not ended would go on behind the parenthesis, and more than that would be taken.
  simp only [groupName?_eq]
  constructor
  · intro cs a r h
    obtain ⟨reading, hname, hr⟩ := Option.map_eq_some_iff.1 h
    obtain ⟨x', -, hrest⟩ := Option.bind_eq_some_iff.1 hname
    split at hrest
    · cases hrest
    · next heq =>
      cases hrest
      cases hr
      exact (List.suffix_cons _ _).trans (heq ▸ List.dropWhile_suffix _)
  · intro s hs cs a r _
    rcases takeWhile_dropWhile_append (· != '>') cs s with ⟨hne, htake, hdrop⟩ | ⟨hnil, -, hdrop⟩
    · obtain ⟨c, rest, hcons⟩ := List.exists_cons_of_ne_nil hne
      rw [htake, hdrop, hcons]
      cases x.name? (cs.takeWhile (· != '>')) with
      | none => simp
      | some x' => simp [paired, Context.enterNumbered]
    · have hnone : ((x.name? (cs.takeWhile (· != '>'))).bind fun _ => (none : Option Reading)) = none := by simp
      simp only [hnil, hdrop, Option.bind_eq_bind, hnone, Option.map_none, reduceCtorEq, iff_false]
      intro h
      obtain ⟨reading, hname, hr⟩ := Option.map_eq_some_iff.1 h
      obtain ⟨x', -, hrest⟩ := Option.bind_eq_some_iff.1 hname
      split at hrest
      · cases hrest
      · next rest heq =>
        cases hrest
        have hle := (List.dropWhile_suffix (l := s) (· != '>')).length_le
        have heq' : rest = r ++ s := (Prod.mk.inj hr).2
        rw [heq, heq', List.length_cons, List.length_append] at hle
        omega

theorem skip_mark (m : Mode) (cs : List Char) : m.skip ('?' :: cs) = '?' :: cs := by
  have hdrop : Mode.dropBlanks false ('?' :: cs) = '?' :: cs := rfl
  unfold Mode.skip
  split
  · exact hdrop
  · rfl

theorem group?_letters (x : Context) {cs : List Char} (h : ∀ c ∈ cs.head?, ¬ (c = '=' ∨ c = '!' ∨ c = '<' ∨ c = 'P')) :
    (group? x ('?' :: cs)).map paired =
      (modeLetters x.mode [] true false cs).map (fun (m, empty, c, r) => ((m, empty, c), r)) >>= fun (letters, rest) =>
        ofLetters? x letters rest := by
  unfold group?
  rw [skip_mark]
  rcases cs with _ | ⟨c, rest⟩
  · rfl
  · have hc := h c rfl
    simp only [not_or] at hc
    obtain ⟨h1, h2, h3, h4⟩ := hc
    rcases hletters : modeLetters x.mode [] true false (c :: rest) with _ | ⟨m, empty, d, r⟩
    · simp [h1, h2, h3, h4, hletters]
    · by_cases hd : d = ':'
      · simp [h1, h2, h3, h4, hletters, hd, ofLetters?, paired]
      · cases empty <;> simp [h1, h2, h3, h4, hletters, hd, ofLetters?, paired]

/-- What follows the question mark of a group. -/
theorem local_group?_mark (x : Context) : Local fun cs => (group? x ('?' :: cs)).map paired := by
  have hletters : Local fun cs =>
      (modeLetters x.mode [] true false cs).map (fun (m, empty, c, r) => ((m, empty, c), r)) >>= fun (letters, rest) =>
        ofLetters? x letters rest := by
    refine .bind (local_modeLetters ..) fun letters => ?_
    exact .cond (fun _ => .pure _) fun _ => .cond (fun _ => .none) fun _ => .pure _
  refine .onHead (fun c => c = '=' ∨ c = '!' ∨ c = '<' ∨ c = 'P') (by decide) ?_ hletters ?_
  · rintro c (rfl | rfl | rfl | rfl)
    · simpa [group?, skip_mark] using LocalOn.none
    · simpa [group?, skip_mark] using LocalOn.none
    · refine .onHead (fun c => c = '=' ∨ c = '!') (by decide) ?_ (local_groupName? x) ?_
      · rintro c (rfl | rfl)
        · simpa [group?, skip_mark] using LocalOn.none
        · simpa [group?, skip_mark] using LocalOn.none
      · intro cs hcs
        rcases cs with _ | ⟨c, rest⟩
        · simp [group?, skip_mark]
        · have hc := hcs c rfl
          rw [not_or] at hc
          simp [group?, skip_mark, hc.1, hc.2]
    · refine .onHead (· = '<') (by decide) ?_ .none ?_
      · rintro c rfl
        simpa [group?, skip_mark] using local_groupName? x
      · intro cs hcs
        rcases cs with _ | ⟨c, rest⟩
        · simp [group?, skip_mark, modeLetters, Mode.set?]
        · have hc := hcs c rfl
          simp [group?, skip_mark, hc, modeLetters, Mode.set?]
  · intro cs hcs
    exact group?_letters x hcs

/-! ## Repetitions -/

/-- White space in front of what is read, if it is passed over whatever the mode. -/
theorem LocalOn.dropWhile {α : Type} {P : α → List Char → Prop} {f : Reader α} (hf : LocalOn P f) :
    LocalOn P fun cs => f (cs.dropWhile Unicode.isWhiteSpace) where
  suffix h := (hf.suffix h).trans (List.dropWhile_suffix _)
  append hs cs a r hr := by
    rw [dropWhile_isWhiteSpace_append hs]
    exact hf.append hs hr

/-- Reads decimal digits from the first character that counts. -/
def digitsFrom (m : Mode) (n : Nat) (value : Option Nat) : List Char → Option Nat × List Char
  | c :: rest => if c.isDigit then decimalDigits m n (some (10 * value.getD 0 + (c.toNat - '0'.toNat))) rest else (value, c :: rest)
  | [] => (value, [])

/-- Digits are read to their end only if something follows: blanks behind them are passed over. -/
theorem local_decimalDigits (m : Mode) (value : Option Nat) :
    LocalOn (fun _ r => r ≠ []) fun cs => some (decimalDigits m cs.length value cs) := by
  refine .bounded (fun n cs => some (decimalDigits m n value cs)) (fun n => ?_) (fun n cs hn => ?_)
  · induction n generalizing value with
    | zero => exact .pure value
    | succ n ih =>
      have hdigit : LocalOn (fun _ r => r ≠ []) fun cs => some (digitsFrom m n value cs) := by
        refine .onHead (·.isDigit = true) (by decide) ?_ (.pure value) ?_
        · intro c hc
          simpa [digitsFrom, hc] using ih _
        · intro cs hcs
          rcases cs with _ | ⟨c, rest⟩
          · rfl
          · simp [digitsFrom, hcs c rfl]
      exact hdigit.skip m fun _ h => absurd rfl h
  · induction n generalizing value cs with
    | zero =>
      obtain rfl := List.length_eq_zero_iff.1 (Nat.le_zero.1 hn)
      simp [decimalDigits, Mode.skip, Mode.dropBlanks]
    | succ n ih =>
      rw [decimalDigits, decimalDigits]
      rcases hskip : m.skip cs with _ | ⟨c, rest⟩
      · rfl
      · have hle := (m.skip_suffix cs).length_le
        rw [hskip, List.length_cons] at hle
        have hrest := ih (some (10 * value.getD 0 + (c.toNat - '0'.toNat))) rest (by omega)
        simp only [Option.some.injEq] at hrest ⊢
        rw [hrest]

/-- A number is read to its end only if something follows. -/
theorem local_number? (m : Mode) : LocalOn (fun _ r => r ≠ []) (number? m) := by
  have heq : number? m = fun cs => some (decimalDigits m ((m.skip cs).dropWhile Unicode.isWhiteSpace).length none
      ((m.skip cs).dropWhile Unicode.isWhiteSpace)) >>= fun (value, rest) => value >>= fun n =>
        if n < UInt32.size then some (n, rest.dropWhile Unicode.isWhiteSpace) else none := by
    funext cs
    simp only [number?]
    rcases decimalDigits m ((m.skip cs).dropWhile Unicode.isWhiteSpace).length none
      ((m.skip cs).dropWhile Unicode.isWhiteSpace) with ⟨_ | n, rest⟩ <;> rfl
  rw [heq]
  refine (((local_decimalDigits m none).dropWhile).skip m fun _ h => absurd rfl h).bindOn (fun value => ?_) ?_
  · refine .given value fun n => .cond (fun _ => ?_) fun _ => .none
    exact (LocalOn.pure n).dropWhile
  · rintro value t n r h hr rfl
    cases value with
    | none => cases h
    | some value =>
      simp only [Option.bind_eq_bind, Option.bind_some, List.dropWhile_nil, Option.ite_none_right_eq_some, Option.some.injEq,
        Prod.mk.injEq] at h
      exact hr h.2.2.symm

/-- Reads a closing brace. -/
def brace? {α : Type} (value : α) (cs : List Char) : Option (α × List Char) :=
  if cs.head? = some '\x7d' then some (value, cs.tail) else none

/-- Reads what follows the comma of a repetition, from the first character that counts. -/
def upTo? (m : Mode) (least : Nat) (cs : List Char) : Option ((Nat × Option Nat) × List Char) :=
  if cs.head? = some '\x7d' then some ((least, none), cs.tail)
  else number? m cs >>= fun (most, rest) => if least ≤ most then brace? (least, some most) rest else none

/-- Reads what follows the least number of a repetition. -/
def afterLeast? (m : Mode) (least : Nat) (cs : List Char) : Option ((Nat × Option Nat) × List Char) :=
  if cs.head? = some ',' then upTo? m least (m.skip cs.tail) else brace? (least, some least) cs

theorem number?_nil (m : Mode) : number? m [] = none := by
  simp [number?, Mode.skip, Mode.dropBlanks, decimalDigits]

theorem counts?_eq (m : Mode) (cs : List Char) :
    (counts? m cs).map (fun (least, most, rest) => ((least, most), rest)) =
      number? m cs >>= fun (least, rest) => afterLeast? m least rest := by
  unfold counts?
  cases number? m cs with
  | none => rfl
  | some y =>
    obtain ⟨least, rest⟩ := y
    simp only [Option.bind_eq_bind, Option.bind_some]
    rcases rest with _ | ⟨c, rest⟩
    · rfl
    · by_cases hc : c = '\x7d'
      · simp [hc, afterLeast?, brace?]
      · by_cases hcomma : c = ','
        · subst hcomma
          rcases hskip : m.skip rest with _ | ⟨d, t⟩
          · simp [hskip, afterLeast?, upTo?, number?_nil]
          · by_cases hd : d = '\x7d'
            · simp [hskip, hd, afterLeast?, upTo?]
            · rcases hnumber : number? m (d :: t) with _ | ⟨most, _ | ⟨e, left⟩⟩
              · simp [hskip, hd, hnumber, afterLeast?, upTo?]
              · simp [hskip, hd, hnumber, afterLeast?, upTo?, brace?]
              · by_cases he : e = '\x7d' <;> simp [hskip, hd, hnumber, he, afterLeast?, upTo?, brace?]
        · simp [hc, hcomma, afterLeast?, brace?]

theorem local_brace? {α : Type} (value : α) : Local (brace? value) := by
  refine .onHead (· = '\x7d') (by decide) ?_ .none ?_
  · intro c hc
    simpa [brace?, hc] using LocalOn.pure value
  · intro cs hcs
    exact if_neg fun h => hcs _ h rfl

theorem local_upTo? (m : Mode) (least : Nat) : Local (upTo? m least) := by
  have hmost : Local fun cs => number? m cs >>= fun (most, rest) =>
      if least ≤ most then brace? (least, some most) rest else none := by
    refine (local_number? m).bindOn (fun most => .cond (fun _ => local_brace? _) fun _ => .none) ?_
    rintro most t counts r h - rfl
    simp [brace?] at h
  refine .onHead (· = '\x7d') (by decide) ?_ hmost ?_
  · intro c hc
    simpa [upTo?, hc] using LocalOn.pure _
  · intro cs hcs
    exact if_neg fun h => hcs _ h rfl

theorem local_afterLeast? (m : Mode) (least : Nat) : Local (afterLeast? m least) := by
  refine .onHead (· = ',') (by decide) ?_ (local_brace? (least, some least)) ?_
  · intro c hc
    have hskip := (local_upTo? m least).skip m (by simp [upTo?, number?_nil])
    simpa [afterLeast?, hc] using hskip
  · intro cs hcs
    exact if_neg fun h => hcs _ h rfl

theorem local_counts? (m : Mode) : Local fun cs => (counts? m cs).map fun (least, most, rest) => ((least, most), rest) := by
  rw [funext (counts?_eq m)]
  refine (local_number? m).bindOn (local_afterLeast? m) ?_
  rintro least t counts r h - rfl
  simp [afterLeast?, brace?] at h

theorem number?_of_closes (m : Mode) {cs : List Char} (h : m.skip cs = [] ∨ Closes (m.skip cs)) : number? m cs = none := by
  unfold number?
  rcases h with h | h
  · rw [h]
    rfl
  · have hskip := m.skip_of_closes h
    obtain ⟨t, ht⟩ := h.exists_cons
    rw [ht] at hskip ⊢
    have hdrop : (')' :: t).dropWhile Unicode.isWhiteSpace = ')' :: t := List.dropWhile_cons_of_neg (by decide)
    simp only [hdrop, List.length_cons, decimalDigits, hskip]
    rfl

theorem counts?_of_closes (m : Mode) {cs : List Char} (h : m.skip cs = [] ∨ Closes (m.skip cs)) : counts? m cs = none := by
  rw [counts?, number?_of_closes m h]
  rfl

/-! ## Pieces -/

/-- The reader leaves an end of the text. What it takes does not depend on what follows, if that is nothing or starts with a closing
parenthesis, with two exceptions. What it takes and leaves may be related by `D`, and then it may fail if nothing follows. It may also
end in a comment, and then it leaves nothing of what follows on the same line. -/
structure Loose {α : Type} (D : α → List Char → Prop) (f : Reader α) : Prop where
  suffix : ∀ {cs a r}, f cs = some (a, r) → r <:+ cs
  cut : ∀ {s}, Closes s → ∀ {cs a r}, f (cs ++ s) = some (a, r ++ s) → ¬ D a r →
    ∀ {s'}, s' = [] ∨ Closes s' → f (cs ++ s') = some (a, r ++ s')
  keep : ∀ {cs a r}, f cs = some (a, r) →
    (∀ {s}, Closes s → f (cs ++ s) = some (a, r ++ s)) ∨ r = [] ∧ ∀ {s}, Closes s → '\n' ∉ s → f (cs ++ s) = some (a, [])

namespace Loose

variable {α β : Type} {D : α → List Char → Prop} {f : Reader α}

/-- A reader that is local, if it leaves what it is to leave. -/
theorem ofLocalOn {P : α → List Char → Prop} (hf : LocalOn P f) (hP : ∀ {a r}, ¬ D a r → P a r)
    (hread : ∀ {cs a r}, f cs = some (a, r) → P a r) : Loose D f where
  suffix := hf.suffix
  cut hs cs a r h hD s' hs' := by
    have hcut := (hf.append hs (hP hD)).1 h
    rcases hs' with rfl | hs'
    · simpa using hcut
    · exact (hf.append hs' (hP hD)).2 hcut
  keep h := Or.inl fun hs => (hf.append hs (hread h)).2 h

theorem ofLocal (hf : Local f) : Loose D f := ofLocalOn hf (fun _ => trivial) fun _ => trivial

/-- A reader that passes over blanks first. -/
theorem skip (m : Mode) (hf : Local f) : Loose D fun cs => f (m.skip cs) where
  suffix h := (hf.suffix h).trans (m.skip_suffix _)
  cut {s} hs {cs a r} h _ {s'} hs' := by
    have hextend : ∀ {t}, f t = some (a, r) → f (t ++ s') = some (a, r ++ s') := by
      intro t ht
      rcases hs' with rfl | hs'
      · simpa using ht
      · exact (hf.append hs' trivial).2 ht
    rcases m.skip_append cs with ⟨-, hskip⟩ | ⟨hnil, hskip⟩ | ⟨hnil, hskip⟩
    · rw [hskip] at h ⊢
      exact hextend ((hf.append hs trivial).1 h)
    · have hread : f [] = some (a, r) := by
        rw [hskip, m.skip_of_closes hs] at h
        exact (hf.append hs trivial).1 h
      have hskip' : m.skip (cs ++ s') = [] ++ s' := by
        rcases hs' with rfl | hs'
        · rw [List.append_nil, hnil]
          rfl
        · rw [hskip, m.skip_of_closes hs']
          rfl
      rw [hskip']
      exact hextend hread
    · have hle := (hf.suffix h).length_le
      have hlt := Mode.length_dropBlanks_lt (s := s) (by rintro rfl; cases hs)
      rw [hskip, List.length_append] at hle
      omega
  keep {cs a r} h := by
    rcases m.skip_append cs with ⟨-, hskip⟩ | ⟨hnil, hskip⟩ | ⟨hnil, hskip⟩
    · refine Or.inl fun hs => ?_
      rw [hskip]
      exact (hf.append hs trivial).2 h
    · refine Or.inl fun {s} hs => ?_
      rw [hskip, m.skip_of_closes hs]
      rw [hnil] at h
      exact (hf.append hs trivial).2 h
    · -- The comment goes on to the end of the line.
      rw [hnil] at h
      obtain rfl := List.suffix_nil.1 (hf.suffix h)
      refine Or.inr ⟨rfl, fun _ hline => ?_⟩
      rw [hskip, Mode.dropBlanks_of_notMem hline]
      exact h

/-- A local reader and then another one. -/
theorem bind {E : β → List Char → Prop} {k : α × List Char → Option (β × List Char)} (hf : Local f)
    (hk : ∀ a, Loose E fun r => k (a, r)) : Loose E fun cs => f cs >>= k where
  suffix h := by
    obtain ⟨⟨a, t⟩, hfirst, hthen⟩ := Option.bind_eq_some_iff.1 h
    exact ((hk a).suffix hthen).trans (hf.suffix hfirst)
  cut {s} hs {cs b r} h hE {s'} hs' := by
    obtain ⟨⟨a, t⟩, hfirst, hthen⟩ := Option.bind_eq_some_iff.1 h
    rcases suffix_append_cases (hf.suffix hfirst) with ⟨t, rfl, -⟩ | hlt
    · refine Option.bind_eq_some_iff.2 ⟨(a, t ++ s'), ?_, (hk a).cut hs hthen hE hs'⟩
      exact (ofLocal hf : Loose (fun _ _ => False) f).cut hs hfirst id hs'
    · have hle := ((hk a).suffix hthen).length_le
      rw [List.length_append] at hle
      omega
  keep {cs b r} h := by
    obtain ⟨⟨a, t⟩, hfirst, hthen⟩ := Option.bind_eq_some_iff.1 h
    have hfirst' : ∀ {s}, Closes s → f (cs ++ s) = some (a, t ++ s) := fun hs => (hf.append hs trivial).2 hfirst
    rcases (hk a).keep hthen with hkept | ⟨rfl, hlost⟩
    · exact Or.inl fun hs => Option.bind_eq_some_iff.2 ⟨_, hfirst' hs, hkept hs⟩
    · exact Or.inr ⟨rfl, fun hs hline => Option.bind_eq_some_iff.2 ⟨_, hfirst' hs, hlost hs hline⟩⟩

/-- A reader that needs a character. -/
theorem uncons (hnil : f [] = none) (h : ∀ c, Loose D fun rest => f (c :: rest)) : Loose D f where
  suffix {cs a r} hf := by
    cases cs with
    | nil => cases hnil.symm.trans hf
    | cons c rest => exact ((h c).suffix hf).trans (List.suffix_cons c rest)
  cut {s} hs {cs a r} hf hD {s'} hs' := by
    cases cs with
    | nil =>
      obtain ⟨t, rfl⟩ := hs.exists_cons
      have hle := ((h ')').suffix hf).length_le
      rw [List.length_append, List.length_cons] at hle
      omega
    | cons c rest => exact (h c).cut hs hf hD hs'
  keep {cs a r} hf := by
    cases cs with
    | nil => cases hnil.symm.trans hf
    | cons c rest => exact (h c).keep hf

/-- A reader and then a value that need not be given for all that is read. -/
theorem filterMap {E : β → List Char → Prop} (value : α → Option β) (hf : Loose D f)
    (hE : ∀ {a b r}, value a = some b → D a r → E b r) : Loose E fun cs => f cs >>= fun (a, r) => (value a).map (·, r) where
  suffix h := by
    obtain ⟨⟨a, t⟩, hread, h⟩ := Option.bind_eq_some_iff.1 h
    obtain ⟨b, -, heq⟩ := Option.map_eq_some_iff.1 h
    cases heq
    exact hf.suffix hread
  cut hs cs b r h hD s' hs' := by
    obtain ⟨⟨a, t⟩, hread, h⟩ := Option.bind_eq_some_iff.1 h
    obtain ⟨b, hvalue, heq⟩ := Option.map_eq_some_iff.1 h
    obtain ⟨rfl, rfl⟩ := Prod.mk.inj heq
    refine Option.bind_eq_some_iff.2 ⟨_, hf.cut hs hread (mt (hE hvalue) hD) hs', ?_⟩
    simp [hvalue]
  keep h := by
    obtain ⟨⟨a, t⟩, hread, h⟩ := Option.bind_eq_some_iff.1 h
    obtain ⟨b, hvalue, heq⟩ := Option.map_eq_some_iff.1 h
    obtain ⟨rfl, rfl⟩ := Prod.mk.inj heq
    have hgiven : ∀ r : List Char, (value a).map (·, r) = some (b, r) := fun r => by simp [hvalue]
    rcases hf.keep hread with hkept | ⟨hnil, hlost⟩
    · exact Or.inl fun hs => Option.bind_eq_some_iff.2 ⟨_, hkept hs, hgiven _⟩
    · exact Or.inr ⟨hnil, fun hs hline => Option.bind_eq_some_iff.2 ⟨_, hlost hs hline, hgiven _⟩⟩

end Loose

/-- A boundary without a name leaves no brace that has nothing behind it. -/
theorem settled_of_boundary? {m : Mode} {cs r : List Char} {e : Escape} (h : boundary? m cs = some (e, r)) : Settled m e r := by
  rintro rfl ⟨t, rfl, hnil⟩
  by_cases hc : cs.head? = some '\x7b'
  · obtain ⟨rest, rfl⟩ := List.head?_eq_some_iff.1 hc
    rw [boundary?_brace] at h
    obtain ⟨⟨c, u⟩, hnext, h⟩ := Option.bind_eq_some_iff.1 h
    dsimp only at h
    split at h
    · cases h
      cases (Mode.next?_of_skip_eq_nil hnil).symm.trans hnext
    · unfold bracedBoundary? at h
      obtain ⟨⟨name, u⟩, -, h⟩ := Option.bind_eq_some_iff.1 h
      dsimp only at h
      split at h
      · obtain ⟨condition, hnamed, h⟩ := Option.bind_eq_some_iff.1 h
        cases h
        unfold namedBoundary? at hnamed
        split at hnamed <;> cases hnamed
      · cases h
  · rw [boundary?_of_head?_ne hc] at h
    cases h
    exact hc rfl

theorem loose_escape? (m : Mode) : Loose (fun _ r => Dangling m r) (escape? m) := by
  refine .uncons rfl fun c => ?_
  by_cases hb : c = 'b'
  · subst hb
    exact .ofLocalOn (local_boundary? m) (fun h _ => h) settled_of_boundary?
  · exact .ofLocal (local_escape?_cons m hb)

/-- What is left after the piece is a brace with nothing but blanks behind it. -/
def DanglingAfter (y : Piece × Context) (r : List Char) : Prop := Dangling y.2.mode r

theorem loose_group? (x : Context) : Loose DanglingAfter fun cs => (group? x cs).map paired := by
  have hgroup : Local fun cs => if cs.head? = some '?' then (group? x cs).map paired else some (paired (x.enterNumbered cs)) := by
    refine .onHead (· = '?') (by decide) ?_ (.pure (.groupStart (some x.groups), { x.enter x.mode with groups := x.groups + 1 })) ?_
    · intro c hc
      simpa [hc] using local_group?_mark x
    · intro cs hcs
      exact if_neg fun h => hcs _ h rfl
  have heq : (fun cs => (group? x cs).map paired) = fun cs => if (x.mode.skip cs).head? = some '?' then
      (group? x (x.mode.skip cs)).map paired else some (paired (x.enterNumbered (x.mode.skip cs))) := by
    funext cs
    unfold group?
    rw [Mode.skip_skip]
    rcases x.mode.skip cs with _ | ⟨c, rest⟩
    · rfl
    · by_cases hc : c = '?'
      · rw [if_pos (by simp [hc])]
      · simp [hc]
  rw [heq]
  exact .skip x.mode hgroup

theorem local_dropLazy {α : Type} (value : α) : Local fun cs => some (value, dropLazy cs) := by
  refine .onHead (· = '?') (by decide) ?_ (.pure value) ?_
  · intro c hc
    simpa [hc, dropLazy] using LocalOn.pure value
  · intro cs hcs
    rcases cs with _ | ⟨c, rest⟩
    · rfl
    · have hc := hcs c rfl
      simp [dropLazy, hc]

/-- A piece of one character does not look at what follows. -/
theorem piece?_cons (x : Context) {c : Char}
    (h : c ≠ '(' ∧ c ≠ '[' ∧ c ≠ '\x7b' ∧ c ≠ '\\' ∧ c ≠ '?' ∧ c ≠ '*' ∧ c ≠ '+') (rest : List Char) :
    (piece? x c rest).map paired = ((piece? x c []).map paired).map fun y => (y.1, rest) := by
  obtain ⟨hopen, hbracket, hbrace, hescape, hmark, hstar, hplus⟩ := h
  unfold piece?
  split
  · exact absurd rfl hopen
  · cases x.outer <;> rfl
  · rfl
  · exact absurd rfl hbracket
  · exact absurd rfl hmark
  · exact absurd rfl hstar
  · exact absurd rfl hplus
  · exact absurd rfl hbrace
  · exact absurd rfl hescape
  · cases x.mode.dot? <;> rfl
  · rfl
  · rfl
  · rfl

theorem piece?_bracket (x : Context) (rest : List Char) :
    (piece? x '[' rest).map paired =
      bracketClass? x.mode rest >>= fun (s, rest) => some ((.atom ⟨.set s.chars, s.height⟩, x), rest) := by
  simp only [piece?]
  cases bracketClass? x.mode rest <;> rfl

theorem piece?_brace (x : Context) (rest : List Char) :
    (piece? x '\x7b' rest).map paired =
      (counts? x.mode rest).map (fun (least, most, rest) => ((least, most), rest)) >>= fun (counts, rest) =>
        some ((.times counts.1 counts.2, x), dropLazy (x.mode.skip rest)) := by
  simp only [piece?]
  cases counts? x.mode rest <;> rfl

theorem piece?_escape (x : Context) (rest : List Char) :
    (piece? x '\\' rest).map paired =
      escape? x.mode rest >>= fun (e, rest) => (some (Piece.atom { regex := e.regex x.mode }, x)).map (·, rest) := by
  simp only [piece?]
  cases escape? x.mode rest <;> rfl

theorem loose_piece? (x : Context) (c : Char) : Loose DanglingAfter fun rest => (piece? x c rest).map paired := by
  by_cases hopen : c = '('
  · subst hopen
    exact loose_group? x
  by_cases hbracket : c = '['
  · subst hbracket
    rw [funext (piece?_bracket x)]
    exact .ofLocal (.bind (local_bracketClass? x.mode) fun s => .pure _)
  by_cases hbrace : c = '\x7b'
  · subst hbrace
    rw [funext (piece?_brace x)]
    exact .bind (local_counts? x.mode) fun counts => .skip x.mode (local_dropLazy _)
  by_cases hescape : c = '\\'
  · subst hescape
    rw [funext (piece?_escape x)]
    refine (loose_escape? x.mode).filterMap (fun e => some (Piece.atom { regex := e.regex x.mode }, x)) ?_
    intro e y r he h
    cases he
    exact h
  by_cases hmark : c = '?'
  · subst hmark
    exact .ofLocal (local_dropLazy (Piece.times 0 (some 1), x))
  by_cases hstar : c = '*'
  · subst hstar
    exact .ofLocal (local_dropLazy (Piece.times 0 none, x))
  by_cases hplus : c = '+'
  · subst hplus
    exact .ofLocal (local_dropLazy (Piece.times 1 none, x))
  · rw [funext (piece?_cons x ⟨hopen, hbracket, hbrace, hescape, hmark, hstar, hplus⟩)]
    exact .ofLocal (.const _ _)

end RuleScanner.Pattern
