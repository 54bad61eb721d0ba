import RuleScanner.CharSet.Basic

/-!
# Membership in sets of characters

What each operation on sets does to membership. The sweep behind them computes `f` of two memberships at every code point
(`CharSet.memberAt_sweep`); union, intersection, difference and complement are its instances.
-/

namespace RuleScanner.CharSet

/-- Below all the bounds membership is what it is at first. -/
theorem memberAt_of_lt {n k : Nat} {inside : Bool} {xs : List Nat} (h : increasingFrom k xs) (hn : n < k) :
    memberAt n inside xs = inside := by
  cases xs with
  | nil => rfl
  | cons x xs =>
    simp only [increasingFrom, Bool.and_eq_true, decide_eq_true_eq] at h
    rw [memberAt, if_pos (by omega)]

/-- A bound is put in front exactly when membership changes at it. -/
theorem memberAt_mark {n x : Nat} {before after : Bool} {xs : List Nat} (h : increasingFrom (x + 1) xs) :
    memberAt n before (mark before after x xs) = if n < x then before else memberAt n after xs := by
  unfold mark
  split
  · next heq =>
    subst heq
    split
    · exact memberAt_of_lt h (by omega)
    · rfl
  · next hne =>
    have hnot : (!before) = after := by cases before <;> cases after <;> simp_all
    rw [memberAt, hnot]

/-- A sweep over the bounds of two sets computes `f` of the two memberships. -/
theorem memberAt_sweep (f : Bool → Bool → Bool) (c n : Nat) (a b : Bool) (xs ys : List Nat) (k : Nat)
    (hx : increasingFrom k xs) (hy : increasingFrom k ys) (hn : xs.length + ys.length ≤ n) :
    memberAt c (f a b) (sweep f n a b xs ys) = f (memberAt c a xs) (memberAt c b ys) := by
  induction n generalizing a b xs ys k with
  | zero =>
    have h1 : xs = [] := List.eq_nil_of_length_eq_zero (by omega)
    have h2 : ys = [] := List.eq_nil_of_length_eq_zero (by omega)
    subst h1 h2
    rfl
  | succ n ih =>
    match xs, ys with
    | [], [] => rfl
    | x :: xs, [] =>
      simp only [increasingFrom, Bool.and_eq_true, decide_eq_true_eq] at hx
      simp only [List.length_cons, List.length_nil] at hn
      rw [sweep, memberAt_mark (increasingFrom_sweep _ _ _ _ _ _ _ hx.2 rfl), ih _ _ _ _ _ hx.2 rfl (by simp; omega)]
      simp only [memberAt]
      split <;> rfl
    | [], y :: ys =>
      simp only [increasingFrom, Bool.and_eq_true, decide_eq_true_eq] at hy
      simp only [List.length_cons, List.length_nil] at hn
      rw [sweep, memberAt_mark (increasingFrom_sweep _ _ _ _ _ _ _ rfl hy.2), ih _ _ _ _ _ rfl hy.2 (by simp; omega)]
      simp only [memberAt]
      split <;> rfl
    | x :: xs, y :: ys =>
      simp only [increasingFrom, Bool.and_eq_true, decide_eq_true_eq] at hx hy
      simp only [List.length_cons] at hn
      rw [sweep]
      split
      · next h =>
        have hy' : increasingFrom (x + 1) (y :: ys) := by
          simp only [increasingFrom, Bool.and_eq_true, decide_eq_true_eq]
          exact ⟨h, hy.2⟩
        rw [memberAt_mark (increasingFrom_sweep _ _ _ _ _ _ _ hx.2 hy'), ih _ _ _ _ _ hx.2 hy' (by simp; omega)]
        by_cases hc : c < x
        · simp only [memberAt, if_pos hc, if_pos (show c < y by omega)]
        · simp only [memberAt, if_neg hc]
      · next h =>
        split
        · next h' =>
          have hx' : increasingFrom (y + 1) (x :: xs) := by
            simp only [increasingFrom, Bool.and_eq_true, decide_eq_true_eq]
            exact ⟨h', hx.2⟩
          rw [memberAt_mark (increasingFrom_sweep _ _ _ _ _ _ _ hx' hy.2), ih _ _ _ _ _ hx' hy.2 (by simp; omega)]
          by_cases hc : c < y
          · simp only [memberAt, if_pos hc, if_pos (show c < x by omega)]
          · simp only [memberAt, if_neg hc]
        · next h' =>
          have hxy : x = y := by omega
          subst hxy
          rw [memberAt_mark (increasingFrom_sweep _ _ _ _ _ _ _ hx.2 hy.2), ih _ _ _ _ _ hx.2 hy.2 (by omega)]
          by_cases hc : c < x
          · simp only [memberAt, if_pos hc]
          · simp only [memberAt, if_neg hc]

/-- Membership in a combined set is `f` of the memberships in the two, if what is in neither is not in it. -/
theorem contains_combine {f : Bool → Bool → Bool} (hf : f false false = false) (s t : CharSet) (c : Char) :
    (combine f s t).contains c = f (s.contains c) (t.contains c) := by
  have h := memberAt_sweep f c.toNat _ false false _ _ 0 s.increasing t.increasing (Nat.le_refl _)
  rw [hf] at h
  exact h

@[simp] theorem contains_none (c : Char) : none.contains c = false := rfl

@[simp] theorem contains_union (s t : CharSet) (c : Char) : (s.union t).contains c = (s.contains c || t.contains c) :=
  contains_combine rfl s t c

@[simp] theorem contains_inter (s t : CharSet) (c : Char) : (s.inter t).contains c = (s.contains c && t.contains c) :=
  contains_combine rfl s t c

@[simp] theorem contains_diff (s t : CharSet) (c : Char) : (s.diff t).contains c = (s.contains c && !t.contains c) :=
  contains_combine rfl s t c

@[simp] theorem contains_symmDiff (s t : CharSet) (c : Char) :
    (s.symmDiff t).contains c = xor (s.contains c) (t.contains c) :=
  contains_combine rfl s t c

/-- Every character is in the set of all. -/
@[simp] theorem contains_all (c : Char) : all.contains c = true := by
  have h := c.valid
  simp only [UInt32.isValidChar, Nat.isValidChar] at h
  have hc : c.toNat = c.val.toNat := rfl
  simp only [contains, containsCode, all, memberAt, hc]
  grind

@[simp] theorem contains_compl (s : CharSet) (c : Char) : s.compl.contains c = !s.contains c := by
  simp [compl]

@[simp] theorem contains_range (lo hi c : Char) : (range lo hi).contains c = (decide (lo ≤ c) && decide (c ≤ hi)) := by
  rw [range, contains_inter, contains_all, Bool.and_true]
  simp only [codes, contains, containsCode, Char.le_def, UInt32.le_iff_toNat_le]
  have h1 : lo.toNat = lo.val.toNat := rfl
  have h2 : hi.toNat = hi.val.toNat := rfl
  have h3 : c.toNat = c.val.toNat := rfl
  split
  · simp only [memberAt, h1, h2, h3] at *
    grind
  · simp only [none, memberAt, h1, h2] at *
    grind

@[simp] theorem contains_single (a c : Char) : (single a).contains c = decide (c = a) := by
  simp only [single, contains_range]
  rw [← Bool.decide_and]
  congr 1
  rw [eq_iff_iff]
  constructor
  · rintro ⟨h1, h2⟩
    exact Char.le_antisymm h2 h1
  · rintro rfl
    exact ⟨Char.le_refl _, Char.le_refl _⟩

end RuleScanner.CharSet
