import RuleScanner.Proofs.Reading

/-!
# The readers of escapes and classes

All that can follow a backslash, and all that can stand in brackets, is read without a look at a closing parenthesis behind it. Two
readers make an exception where they leave nothing. An item of a class needs something behind it (`local_bracketItem?_cons`), and a
boundary looks into the braces behind it for a name (`local_boundary?`): if the text ends there, they fail, and they do not if
something follows.
-/

namespace RuleScanner.Pattern

/-! ## Escapes -/

theorem Mode.length_lt_of_next? {m : Mode} {cs rest : List Char} {c : Char} (h : m.next? cs = some (c, rest)) :
    rest.length < cs.length := by
  unfold next? at h
  split at h
  · cases h
  · next heq =>
    cases h
    have hle := (m.skip_suffix cs).length_le
    rw [heq] at hle
    exact hle

theorem Mode.next?_of_skip_eq_nil {m : Mode} {cs : List Char} (h : m.skip cs = []) : m.next? cs = none := by
  rw [next?, h]

theorem local_hexDigits? (m : Mode) (n value : Nat) : Local (hexDigits? m n value) := by
  induction n generalizing value with
  | zero => exact .pure value
  | succ n ih => exact .next m fun c => .given (hexDigit? c) fun d => ih _

theorem local_hexToBrace? (m : Mode) (value : Option Nat) : Local fun cs => hexToBrace? m cs.length value cs := by
  refine .bounded (hexToBrace? m · value) (fun n => ?_) (fun n cs hn => ?_)
  · induction n generalizing value with
    | zero => exact .none
    | succ n ih =>
      exact .next m fun c => .cond (fun _ => .given value fun v => .pure v) fun _ => .given (hexDigit? c) fun d => ih _
  · induction n generalizing value cs with
    | zero =>
      obtain rfl := List.length_eq_zero_iff.1 (Nat.le_zero.1 hn)
      rw [hexToBrace?, hexToBrace?]
      simp [Mode.next?, Mode.skip, Mode.dropBlanks]
    | succ n ih =>
      rw [hexToBrace?, hexToBrace?]
      cases hnext : m.next? cs with
      | none => rfl
      | some x =>
        obtain ⟨c, rest⟩ := x
        have hrest := Mode.length_lt_of_next? hnext
        simp only [Option.bind_eq_bind, Option.bind_some, ih _ rest (by omega)]

/-- The character of a code point that has been read. -/
def ofCode? (value : Nat) (rest : List Char) : Option (Escape × List Char) :=
  if value.isValidChar then some (.literal (Char.ofNat value), rest) else none

/-- The first character that counts tells whether a code point is in braces. -/
theorem codePoint?_eq (m : Mode) (n : Nat) (cs : List Char) :
    codePoint? m (n + 1) cs = m.next? cs >>= fun (c, rest) =>
      if c = '\x7b' then hexToBrace? m rest.length none rest >>= fun (value, rest) => ofCode? value rest
      else hexDigit? c >>= fun d => hexDigits? m n (16 * 0 + d) rest >>= fun (value, rest) =>
        if n + 1 = 2 && !m.allScripts && 0x80 ≤ value then none else ofCode? value rest := by
  unfold codePoint?
  rw [hexDigits?]
  cases m.next? cs with
  | none => rfl
  | some x =>
    obtain ⟨c, rest⟩ := x
    by_cases hc : c = '\x7b'
    · subst hc
      rfl
    · simp [hc, ofCode?, Option.bind_assoc]

theorem local_codePoint? (m : Mode) (n : Nat) : Local (codePoint? m (n + 1)) := by
  have hcode : ∀ value, Local (ofCode? value) := fun value => .cond (fun _ => .pure _) fun _ => .none
  rw [funext (codePoint?_eq m n)]
  refine .next m fun c => .cond (fun _ => ?_) fun _ => .given (hexDigit? c) fun d => ?_
  · exact .bind (local_hexToBrace? m none) hcode
  · refine .bind (local_hexDigits? m n _) (fun value => ?_)
    exact .cond (fun _ => .none) fun _ => hcode value

theorem toBrace?_of_length_le (m : Mode) (n : Nat) (cs : List Char) (hn : cs.length ≤ n) : toBrace? m (n + 1) cs = toBrace? m n cs := by
  induction n generalizing cs with
  | zero =>
    obtain rfl := List.length_eq_zero_iff.1 (Nat.le_zero.1 hn)
    rw [toBrace?, toBrace?]
    simp [Mode.next?, Mode.skip, Mode.dropBlanks]
  | succ n ih =>
    rw [toBrace?, toBrace?]
    cases hnext : m.next? cs with
    | none => rfl
    | some x =>
      obtain ⟨c, rest⟩ := x
      have hrest := Mode.length_lt_of_next? hnext
      simp only [Option.bind_eq_bind, Option.bind_some, ih rest (by omega)]

theorem local_toBrace? (m : Mode) : Local fun cs => toBrace? m cs.length cs := by
  refine .bounded (toBrace? m) (fun n => ?_) (toBrace?_of_length_le m)
  induction n with
  | zero => exact .none
  | succ n ih =>
    exact .next m fun c => .cond (fun _ => .pure _) fun _ => .bind ih (fun name => .pure _)

theorem local_propertyName? (m : Mode) : Local (propertyName? m) := by
  refine .next m fun c => .cond (fun _ => ?_) fun _ => .given (m.database.property? [c]) fun s => .pure s
  exact .bind (local_toBrace? m) (fun inside => .given (bracedProperty? m.database inside) fun s => .pure s)

theorem local_propertyEscape? (m : Mode) (negated : Bool) : Local (propertyEscape? m negated) := by
  refine .bind (local_propertyName? m) (fun s => .cond (fun _ => ?_) fun _ => .none)
  exact .given _ fun chars => .pure _

/-- There is an opening brace with nothing but blanks behind it. -/
def Dangling (m : Mode) (r : List Char) : Prop := ∃ t, r = '\x7b' :: t ∧ m.skip t = []

/-- If a boundary without a name has been read, a brace that follows has something behind it. -/
def Settled (m : Mode) (e : Escape) (r : List Char) : Prop := e = .look (.boundary m.word) → ¬ Dangling m r

/-- What a boundary looks like if braces follow. -/
def bracedBoundary? (m : Mode) (cs : List Char) : Option (Escape × List Char) := do
  let (name, rest) ← toBrace? m cs.length cs
  if name.all fun c => c.isAlpha || c == '-' then return (.look (← namedBoundary? m (String.ofList name)), rest) else none

theorem boundary?_brace (m : Mode) (rest : List Char) :
    boundary? m ('\x7b' :: rest) = m.next? rest >>= fun (c, _) =>
      if !(c.isAlpha || c == '-') then some (.look (.boundary m.word), '\x7b' :: rest) else bracedBoundary? m rest := rfl

theorem local_bracedBoundary? (m : Mode) : Local (bracedBoundary? m) := by
  refine .bind (local_toBrace? m) (fun name => .cond (fun _ => ?_) fun _ => .none)
  exact .given _ fun condition => .pure _

theorem boundary?_of_head?_ne {m : Mode} {cs : List Char} (h : cs.head? ≠ some '\x7b') :
    boundary? m cs = some (.look (.boundary m.word), cs) := by
  unfold boundary?
  split
  · exact absurd rfl h
  · rfl

theorem bracedBoundary?_of_skip_eq_nil {m : Mode} {cs : List Char} (h : m.skip cs = []) : bracedBoundary? m cs = none := by
  have hbrace : toBrace? m cs.length cs = none := by
    cases cs.length with
    | zero => rfl
    | succ n => rw [toBrace?, Mode.next?_of_skip_eq_nil h]; rfl
  rw [bracedBoundary?, hbrace]
  rfl

theorem local_boundary? (m : Mode) : LocalOn (Settled m) (boundary? m) where
  suffix {cs a r} h := by
    by_cases hc : cs.head? = some '\x7b'
    · obtain ⟨rest, rfl⟩ := List.head?_eq_some_iff.1 hc
      rw [boundary?_brace] at h
      obtain ⟨⟨c, t⟩, -, h⟩ := Option.bind_eq_some_iff.1 h
      dsimp only at h
      split at h
      · cases h
        exact List.suffix_refl _
      · exact ((local_bracedBoundary? m).suffix h).trans (List.suffix_cons _ _)
    · rw [boundary?_of_head?_ne hc] at h
      cases h
      exact List.suffix_refl _
  append {s} hs {cs a r} hr := by
    by_cases hc : cs.head? = some '\x7b'
    · obtain ⟨rest, rfl⟩ := List.head?_eq_some_iff.1 hc
      rw [List.cons_append, boundary?_brace, boundary?_brace]
      rcases m.skip_append rest with ⟨hne, h⟩ | hlost
      · obtain ⟨c, t, ht⟩ := List.exists_cons_of_ne_nil hne
        have hnext : m.next? rest = some (c, t) := by rw [Mode.next?, ht]
        have hnext' : m.next? (rest ++ s) = some (c, t ++ s) := by rw [Mode.next?, h, ht, List.cons_append]
        simp only [hnext, hnext', Option.bind_eq_bind, Option.bind_some]
        split
        · rw [← List.cons_append, Option.some.injEq, Option.some.injEq, Prod.mk.injEq, Prod.mk.injEq, List.append_left_inj]
        · exact (local_bracedBoundary? m).append hs trivial
      · have hnil : m.skip rest = [] := by
          rcases hlost with ⟨h, -⟩ | ⟨h, -⟩ <;> exact h
        rw [Mode.next?_of_skip_eq_nil hnil]
        simp only [Option.bind_eq_bind, Option.bind_none, reduceCtorEq, iff_false]
        intro h
        obtain ⟨⟨c, t⟩, -, h⟩ := Option.bind_eq_some_iff.1 h
        dsimp only at h
        split at h
        · -- The brace is left for a repetition, and has nothing behind it.
          rw [Option.some.injEq, Prod.mk.injEq, ← List.cons_append] at h
          exact hr h.1.symm ⟨rest, (List.append_cancel_right h.2).symm, hnil⟩
        · cases (bracedBoundary?_of_skip_eq_nil hnil).symm.trans (((local_bracedBoundary? m).append hs trivial).1 h)
    · have hc' : (cs ++ s).head? ≠ some '\x7b' := by
        obtain ⟨t, rfl⟩ := hs.exists_cons
        cases cs with
        | nil => simp
        | cons c rest => simpa using hc
      rw [boundary?_of_head?_ne hc, boundary?_of_head?_ne hc']
      simp

/-- An escape of one letter does not look at what follows. -/
theorem escape?_cons (m : Mode) {c : Char} (h : c ≠ 'x' ∧ c ≠ 'u' ∧ c ≠ 'U' ∧ c ≠ 'p' ∧ c ≠ 'P' ∧ c ≠ 'b') (rest : List Char) :
    escape? m (c :: rest) = (escape? m [c]).map fun x => (x.1, rest) := by
  obtain ⟨hx, hu, hU, hp, hP, hb⟩ := h
  simp only [escape?]
  split <;> first | contradiction | simp [Function.comp_def]

theorem local_escape?_cons (m : Mode) {c : Char} (hb : c ≠ 'b') : Local fun rest => escape? m (c :: rest) := by
  by_cases hx : c = 'x'
  · subst hx
    exact local_codePoint? m 1
  by_cases hu : c = 'u'
  · subst hu
    exact local_codePoint? m 3
  by_cases hU : c = 'U'
  · subst hU
    exact local_codePoint? m 7
  by_cases hp : c = 'p'
  · subst hp
    exact local_propertyEscape? m false
  by_cases hP : c = 'P'
  · subst hP
    exact local_propertyEscape? m true
  · rw [funext (escape?_cons m ⟨hx, hu, hU, hp, hP, hb⟩)]
    exact .const _ _

theorem local_escape? (m : Mode) : LocalOn (Settled m) (escape? m) := by
  refine .uncons rfl fun c => ?_
  by_cases hb : c = 'b'
  · subst hb
    exact local_boundary? m
  · exact (local_escape?_cons m hb).mono fun _ _ _ => trivial

/-! ## Classes in brackets -/

theorem dropWhile_isWhiteSpace_append {s : List Char} (hs : Closes s) (cs : List Char) :
    (cs ++ s).dropWhile Unicode.isWhiteSpace = cs.dropWhile Unicode.isWhiteSpace ++ s := by
  obtain ⟨t, rfl⟩ := hs.exists_cons
  have hblank : Unicode.isWhiteSpace ')' = false := by decide
  rw [List.dropWhile_append]
  split
  · next h => simp [List.isEmpty_iff.1 h, hblank]
  · rfl

/-- A closing parenthesis is seen behind a hyphen, if nothing else is. -/
theorem afterHyphen?_append {s : List Char} (hs : Closes s) (m : Mode) (cs : List Char) :
    afterHyphen? m (cs ++ s) = (afterHyphen? m cs).or (some ')') := by
  have hhead : ∀ cs : List Char, (cs ++ s).head? = cs.head?.or (some ')') := by
    intro cs
    rw [List.head?_append, show s.head? = some ')' from hs]
  unfold afterHyphen?
  split
  · rw [dropWhile_isWhiteSpace_append hs]
    rcases cs.dropWhile Unicode.isWhiteSpace with _ | ⟨c, rest⟩
    · obtain ⟨t, rfl⟩ := hs.exists_cons
      rfl
    · by_cases hc : c = '#'
      · subst hc
        simp only [List.cons_append, dropWhile_isWhiteSpace_append hs, hhead]
      · simp [hc]
  · exact hhead cs

/-- The name of a class has no parenthesis. -/
theorem notMem_of_asciiClass? {name : String} {chars : CharSet} (h : asciiClass? name = some chars) : ')' ∉ name.toList := by
  unfold asciiClass? at h
  split at h <;> first | decide | cases h

/-- Reads the name of a class up to its colon. -/
def classNamed? (negated : Bool) (cs : List Char) : Option (Bool × CharSet × List Char) :=
  if (cs.dropWhile (· != ':')).take 2 = [':', ']'] then
    (asciiClass? (String.ofList (cs.takeWhile (· != ':')))).map fun s => (negated, s, (cs.dropWhile (· != ':')).drop 2)
  else none

theorem classNamed?_eq (negated : Bool) (cs : List Char) :
    classNamed? negated cs = match cs.dropWhile (· != ':') with
      | ':' :: ']' :: after => (asciiClass? (String.ofList (cs.takeWhile (· != ':')))).map fun s => (negated, s, after)
      | _ => none := by
  unfold classNamed?
  split
  · next h =>
    obtain ⟨after, hafter⟩ : ∃ after, cs.dropWhile (· != ':') = ':' :: ']' :: after :=
      ⟨_, (List.take_append_drop 2 _).symm.trans (congrArg (· ++ _) h)⟩
    simp [hafter]
  · next h =>
    split
    · next heq => exact absurd (by rw [heq]; rfl) h
    · rfl

theorem namedClass?_colon (rest : List Char) :
    namedClass? (':' :: rest) = if rest.head? = some '^' then classNamed? true rest.tail else classNamed? false rest := by
  rw [classNamed?_eq, classNamed?_eq]
  rcases rest with _ | ⟨c, rest⟩
  · rfl
  · by_cases hc : c = '^'
    · subst hc
      rfl
    · rw [if_neg (by simpa using hc)]
      exact namedClass?.eq_2 (c :: rest) (by simpa using hc)

theorem namedClass?_of_head?_ne {cs : List Char} (h : cs.head? ≠ some ':') : namedClass? cs = none := by
  unfold namedClass?
  split
  · exact absurd rfl h
  · rfl

theorem classNamed?_suffix {cs r : List Char} {negated b : Bool} {chars : CharSet}
    (h : classNamed? negated cs = some (b, chars, r)) : r <:+ cs := by
  unfold classNamed? at h
  split at h
  · obtain ⟨s, -, hs⟩ := Option.map_eq_some_iff.1 h
    simp only [Prod.mk.injEq] at hs
    rw [← hs.2.2]
    exact (List.drop_suffix _ _).trans (List.dropWhile_suffix _)
  · cases h

theorem classNamed?_append {s : List Char} (hs : Closes s) (negated : Bool) (cs : List Char) :
    classNamed? negated (cs ++ s) = (classNamed? negated cs).map fun (negated, chars, r) => (negated, chars, r ++ s) := by
  obtain ⟨t, rfl⟩ := hs.exists_cons
  unfold classNamed?
  rcases takeWhile_dropWhile_append (· != ':') cs (')' :: t) with ⟨hne, htake, hdrop⟩ | ⟨hnil, htake, -⟩
  · obtain ⟨c, rest, hcons⟩ := List.exists_cons_of_ne_nil hne
    rw [htake, hdrop, hcons]
    rcases rest with _ | ⟨d, after⟩
    · simp
    · simp only [List.cons_append, List.take_succ_cons, List.take_zero, List.drop_succ_cons, List.drop_zero]
      split
      · simp [Function.comp_def]
      · rfl
  · -- The name would go on behind the parenthesis, and there is none with a parenthesis.
    have hnone : asciiClass? (String.ofList (cs ++ (')' :: t).takeWhile (· != ':'))) = none := by
      rw [Option.eq_none_iff_forall_ne_some]
      intro chars h
      exact notMem_of_asciiClass? h (by simp)
    rw [htake, hnone, hnil, Option.map_none, ite_self]
    rfl

theorem namedClass?_suffix {cs r : List Char} {negated : Bool} {chars : CharSet} (h : namedClass? cs = some (negated, chars, r)) :
    r <:+ cs := by
  by_cases hc : cs.head? = some ':'
  · obtain ⟨rest, rfl⟩ := List.head?_eq_some_iff.1 hc
    rw [namedClass?_colon] at h
    split at h
    · exact ((classNamed?_suffix h).trans (List.tail_suffix rest)).trans (List.suffix_cons _ _)
    · exact (classNamed?_suffix h).trans (List.suffix_cons _ _)
  · cases (namedClass?_of_head?_ne hc).symm.trans h

theorem namedClass?_append {s : List Char} (hs : Closes s) (cs : List Char) :
    namedClass? (cs ++ s) = (namedClass? cs).map fun (negated, chars, r) => (negated, chars, r ++ s) := by
  rcases cs with _ | ⟨c, rest⟩
  · obtain ⟨t, rfl⟩ := hs.exists_cons
    rfl
  · by_cases hc : c = ':'
    · subst hc
      rw [List.cons_append, namedClass?_colon, namedClass?_colon]
      rcases rest with _ | ⟨d, rest⟩
      · obtain ⟨t, rfl⟩ := hs.exists_cons
        exact classNamed?_append hs false []
      · by_cases hd : d = '^'
        · simp only [hd, List.cons_append, List.head?_cons, if_true, List.tail_cons]
          exact classNamed?_append hs true rest
        · simp only [hd, List.cons_append, List.head?_cons, Option.some.injEq, if_false]
          exact classNamed?_append hs false (d :: rest)
    · rw [namedClass?_of_head?_ne (by simpa using hc), namedClass?_of_head?_ne (by simpa using hc)]
      rfl

/-- The escape in a class, if the class can have it. -/
def ofEscape? (m : Mode) (e : Escape) (rest : List Char) : Option (Escape × List Char) :=
  match e with
  | .literal c => if m.allScripts || c.toNat < 0x80 then some (e, rest) else none
  | _ => some (e, rest)

theorem ofEscape?_eq_some {m : Mode} {e e' : Escape} {rest r : List Char} (h : ofEscape? m e rest = some (e', r)) :
    e = e' ∧ rest = r := by
  unfold ofEscape? at h
  split at h
  · split at h
    · simpa using h
    · cases h
  · simpa using h

theorem bracketAtom?_escape (m : Mode) (rest : List Char) :
    bracketAtom? m ('\\' :: rest) = escape? m rest >>= fun (e, rest) => ofEscape? m e rest := rfl

theorem local_bracketAtom?_cons (m : Mode) (c : Char) : LocalOn (Settled m) fun rest => bracketAtom? m (c :: rest) := by
  have hescape : ∀ e, LocalOn (Settled m) (ofEscape? m e) := by
    intro e
    cases e with
    | literal c => exact .cond (fun _ => .pure _) fun _ => .none
    | «class» s => exact .pure _
    | look condition => exact .pure _
  by_cases hc : c = '\\'
  · subst hc
    rw [funext (bracketAtom?_escape m)]
    refine (local_escape? m).bindOn hescape ?_
    intro e t e' r h hr
    obtain ⟨rfl, rfl⟩ := ofEscape?_eq_some h
    exact hr
  · have heq : (fun rest => bracketAtom? m (c :: rest)) = ofEscape? m (.literal c) := by
      funext rest
      simp [bracketAtom?, ofEscape?]
    rw [heq]
    exact hescape _

theorem local_bracketAtom? (m : Mode) : LocalOn (Settled m) (bracketAtom? m) := .uncons rfl (local_bracketAtom?_cons m)

/-- Reads the other end of a range, just after its hyphen. -/
def rangeTo? (m : Mode) (lo : Escape) (cs : List Char) : Option (CharSet × List Char) :=
  bracketAtom? m (m.skip cs) >>= fun (hi, rest) =>
    match lo, hi with
    | .literal lo, .literal hi => if lo ≤ hi then some (.range lo hi, rest) else none
    | _, _ => none

/-- The hyphen in front makes no range. -/
def LoneHyphen (m : Mode) (cs : List Char) : Prop :=
  cs.head? = some '-' ∧ (afterHyphen? m cs.tail = some ']' ∨ afterHyphen? m cs.tail = some '-')

instance (m : Mode) : DecidablePred (LoneHyphen m) := fun _ => inferInstanceAs (Decidable (_ ∧ _))

/-- Reads what follows the first character or escape of an item, from the first character that counts. -/
def itemAfter? (m : Mode) (lo : Escape) (cs : List Char) : Option (CharSet × List Char) :=
  if LoneHyphen m cs then lo.set? >>= fun s => some (s, cs)
  else if cs.head? = some '-' then rangeTo? m lo cs.tail
  else lo.set? >>= fun s => some (s, cs)

theorem bracketItem?_eq (m : Mode) (cs : List Char) :
    bracketItem? m cs = bracketAtom? m cs >>= fun (lo, rest) =>
      if m.skip rest = [] then none else itemAfter? m lo (m.skip rest) := by
  unfold bracketItem?
  cases bracketAtom? m cs with
  | none => rfl
  | some x =>
    obtain ⟨lo, rest⟩ := x
    simp only [Option.bind_eq_bind, Option.bind_some]
    rcases m.skip rest with _ | ⟨c, after⟩
    · rfl
    · rw [if_neg (List.cons_ne_nil _ _)]
      by_cases hc : c = '-'
      · subst hc
        by_cases hlone : afterHyphen? m after = some ']' ∨ afterHyphen? m after = some '-'
        · simp [itemAfter?, LoneHyphen, hlone]
        · simp only [itemAfter?, LoneHyphen, List.head?_cons, List.tail_cons, true_and, hlone, if_false, if_true]
          rw [if_neg (by simpa using hlone)]
          rfl
      · simp [itemAfter?, LoneHyphen, hc]

/-- A condition on a place is no item of a class. -/
theorem itemAfter?_look (m : Mode) (condition : Look) (cs : List Char) : itemAfter? m (.look condition) cs = none := by
  have hrange : rangeTo? m (.look condition) cs.tail = none := by
    unfold rangeTo?
    cases bracketAtom? m (m.skip cs.tail) <;> rfl
  unfold itemAfter?
  rw [hrange]
  simp [Escape.set?]

theorem local_rangeTo? (m : Mode) (lo : Escape) : Local (rangeTo? m lo) := by
  refine ((local_bracketAtom? m).skip m fun _ _ => nofun).bindOn (fun hi => ?_) ?_
  · cases lo with
    | literal lo =>
      cases hi with
      | literal hi => exact .cond (fun _ => .pure _) fun _ => .none
      | «class» s => exact .none
      | look condition => exact .none
    | «class» s => exact .none
    | look condition => exact .none
  · rintro hi t chars r h - rfl
    cases lo <;> cases h

theorem local_itemAfter? (m : Mode) (lo : Escape) : Local (itemAfter? m lo) := by
  have hset : Local fun cs => lo.set? >>= fun s => some (s, cs) := .given lo.set? fun s => .pure s
  refine .ite (fun {s} hs cs => ?_) hset (.onHead (· = '-') (by decide) ?_ hset ?_)
  · obtain ⟨t, rfl⟩ := hs.exists_cons
    rcases cs with _ | ⟨c, rest⟩
    · simp [LoneHyphen]
    · simp only [LoneHyphen, List.cons_append, List.head?_cons, List.tail_cons, afterHyphen?_append hs]
      cases afterHyphen? m rest <;> simp
  · intro c hc
    simpa [hc] using local_rangeTo? m lo
  · intro cs hcs
    exact if_neg fun h => hcs _ h rfl

/-- An item of a class is read to its end only if something follows. -/
theorem local_bracketItem?_cons (m : Mode) (c : Char) : LocalOn (fun _ r => r ≠ []) fun rest => bracketItem? m (c :: rest) := by
  simp only [bracketItem?_eq]
  refine (local_bracketAtom?_cons m c).bindOn (fun lo => ?_) ?_
  · have hrest : LocalOn (fun _ r => r ≠ []) fun cs => if cs = [] then none else itemAfter? m lo cs :=
      ((local_itemAfter? m lo).mono fun _ _ _ => trivial).ofCons (fun _ h => h rfl) rfl fun _ _ => if_neg nofun
    exact hrest.skip m fun _ h => absurd rfl h
  · rintro lo t chars r h - rfl
    simp [itemAfter?_look] at h

theorem brackets?_nil (m : Mode) (n : Nat) (outer : List Bracket) (b : Bracket) : brackets? m n outer b [] = none := by
  cases n with
  | zero => rfl
  | succ n => simp [brackets?, Mode.skip, Mode.dropBlanks]

/-- The readers of a class from its start on, if there is one for each way in which it may start. -/
theorem local_openBracket {m : Mode} {k : Bracket → Reader Operand} (hk : ∀ b, Local (k b)) (hnil : ∀ b, k b [] = none) :
    Local fun cs => k (openBracket m cs).1 (openBracket m cs).2 := by
  have hcaret : Local fun cs => if cs.head? = some '^' then k { negated := true } cs.tail else k { negated := false } cs := by
    refine .onHead (· = '^') (by decide) ?_ (hk { negated := false }) ?_
    · intro c hc
      simpa [hc] using hk { negated := true }
    · intro cs hcs
      exact if_neg fun h => hcs _ h rfl
  have heq : (fun cs => k (openBracket m cs).1 (openBracket m cs).2) = fun cs =>
      if (m.skip cs).head? = some '^' then k { negated := true } (m.skip cs).tail else k { negated := false } (m.skip cs) := by
    funext cs
    unfold openBracket
    rcases m.skip cs with _ | ⟨c, rest⟩
    · rfl
    · by_cases hc : c = '^'
      · subst hc
        rfl
      · simp [hc]
  rw [heq]
  exact hcaret.skip m fun _ _ => by simp [hnil]

/-- Reads on behind a class with a name. -/
def afterNamed? (m : Mode) (n : Nat) (outer : List Bracket) (b : Bracket) (negated : Bool) (s : CharSet) (rest : List Char) :
    Option (Operand × List Char) :=
  match m.negate? negated (m.fold s) with
  | some chars => brackets? m n outer (b.add { chars }) rest
  | none => none

theorem local_brackets? (m : Mode) (n : Nat) (outer : List Bracket) (b : Bracket) : Local (brackets? m n outer b) := by
  induction n generalizing outer b with
  | zero => exact .none
  | succ n ih =>
    refine .counting m (fun cs => by simp [brackets?, Mode.skip_skip]) (brackets?_nil ..) fun c hc => ?_
    simp only [brackets?, hc]
    refine .cond (fun _ => ih ..) fun _ => .cond (fun _ => ih ..) fun _ => .cond (fun _ => ?_) fun _ =>
      .cond (fun _ => ?_) fun _ => ?_
    · cases b.close? m with
      | none => exact .none
      | some s =>
        cases outer with
        | nil => exact .pure s
        | cons o outer => exact ih ..
    · have hnamed : ∀ negated s, Local (afterNamed? m n outer b negated s) := by
        intro negated s
        unfold afterNamed?
        cases m.negate? negated (m.fold s) with
        | none => exact .none
        | some chars => exact ih ..
      have hnested := local_openBracket (m := m) (ih (b :: outer)) (brackets?_nil m n (b :: outer))
      constructor
      · intro rest a r h
        split at h
        · next heq => exact ((hnamed _ _).suffix h).trans (namedClass?_suffix heq)
        · exact hnested.suffix h
      · intro s hs rest a r hr
        rw [namedClass?_append hs]
        cases namedClass? rest with
        | none => exact hnested.append hs hr
        | some x => exact (hnamed _ _).append hs hr
    · -- An operator is two characters of one kind.
      have hitem : Local fun rest => bracketItem? m (c :: rest) >>= fun y => brackets? m n outer (b.add { chars := y.1 }) y.2 := by
        refine (local_bracketItem?_cons m c).bindOn (fun chars => ih outer (b.add { chars })) ?_
        rintro chars t s r h - rfl
        simp [brackets?_nil] at h
      refine .onHead (fun d => d = c ∧ (c = '&' ∨ c = '-' ∨ c = '~')) ?_ ?_ hitem ?_
      · rintro ⟨rfl, h⟩
        simp at h
      · rintro d ⟨rfl, rfl | rfl | rfl⟩
        · simpa using ih ..
        · simpa using ih ..
        · simpa using ih ..
      · intro cs hcs
        have hne : ∀ op, op = '&' ∨ op = '-' ∨ op = '~' → ¬ (c = op && cs.head? == some op) = true := by
          intro op hop h
          simp only [Bool.and_eq_true, decide_eq_true_eq, beq_iff_eq] at h
          obtain ⟨rfl, hhead⟩ := h
          exact hcs c hhead ⟨rfl, hop⟩
        rw [if_neg (hne '&' (by simp)), if_neg (hne '-' (by simp)), if_neg (hne '~' (by simp))]
        cases bracketItem? m (c :: cs) <;> rfl

theorem openBracket_suffix (m : Mode) (cs : List Char) : (openBracket m cs).2 <:+ cs := by
  unfold openBracket
  split
  · next h => exact (List.suffix_cons _ _).trans (h ▸ m.skip_suffix cs)
  · exact m.skip_suffix cs

theorem brackets?_of_length_lt (m : Mode) (n : Nat) (outer : List Bracket) (b : Bracket) (cs : List Char) (hn : cs.length < n) :
    brackets? m (n + 1) outer b cs = brackets? m n outer b cs := by
  induction n generalizing outer b cs with
  | zero => cases hn
  | succ n ih =>
    rw [brackets?, brackets?]
    rcases hskip : m.skip cs with _ | ⟨c, rest⟩
    · rfl
    · have hle := (m.skip_suffix cs).length_le
      rw [hskip, List.length_cons] at hle
      have hrest : ∀ outer b r, r <:+ rest → brackets? m (n + 1) outer b r = brackets? m n outer b r := by
        intro outer b r hr
        have := hr.length_le
        exact ih outer b r (by omega)
      have htail := fun outer b => hrest outer b rest.tail (List.tail_suffix rest)
      have hsame := fun outer b => hrest outer b rest (List.suffix_refl rest)
      simp only [hsame, htail]
      by_cases hc : c = '['
      · subst hc
        rcases hnamed : namedClass? rest with _ | ⟨negated, s, r⟩
        · simp only [if_true, hrest _ _ _ (openBracket_suffix m rest)]
        · simp only [if_true, hrest _ _ r (namedClass?_suffix hnamed)]
      · rcases hitem : bracketItem? m (c :: rest) with _ | ⟨chars, r⟩
        · simp only [hc, if_false]
        · simp only [hc, if_false, hrest _ _ r ((local_bracketItem?_cons m c).suffix hitem)]

theorem local_bracketClass? (m : Mode) : Local (bracketClass? m) := by
  refine local_openBracket (k := fun b cs => brackets? m (cs.length + 1) [] b cs) (fun b => ?_) fun b => brackets?_nil ..
  exact .bounded (fun n => brackets? m (n + 1) [] b) (fun n => local_brackets? ..) fun n cs hn =>
    brackets?_of_length_lt _ _ _ _ _ (Nat.lt_succ_of_le hn)

end RuleScanner.Pattern
