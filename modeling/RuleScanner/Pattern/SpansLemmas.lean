import RuleScanner.Pattern.Spans

/-!
# Spans as a relation

The spans of an expression are a relation between places of a word: `Spans.Holds` reads it off the numbers that hold it, and
each operation on spans does to the relation what its name says. `Regex.Span` gives the meaning of an expression without
numbers, and `Regex.holds_spans` says that the two agree: the spans computed for an expression are exactly its spans. So a
repetition loses nothing by being cut off at the number of places (`Spans.holds_times`).
-/

namespace RuleScanner

/-- From `i` to `j` in `n` steps of a relation. -/
def Steps (R : Nat → Nat → Prop) : (n i j : Nat) → Prop
  | 0, i, j => i = j
  | n + 1, i, j => ∃ k, R i k ∧ Steps R n k j

namespace Steps

/-- Steps that keep to one relation keep to every larger one. -/
theorem mono {R S : Nat → Nat → Prop} (h : ∀ i j, R i j → S i j) {n i j : Nat} (hs : Steps R n i j) : Steps S n i j := by
  induction n generalizing i with
  | zero => exact hs
  | succ n ih =>
    obtain ⟨k, hk, hs⟩ := hs
    exact ⟨k, h _ _ hk, ih hs⟩

/-- Steps of two relations that agree are the same. -/
theorem congr {R S : Nat → Nat → Prop} (h : ∀ i j, R i j ↔ S i j) (n i j : Nat) : Steps R n i j ↔ Steps S n i j :=
  ⟨mono fun i j => (h i j).1, mono fun i j => (h i j).2⟩

/-- Steps of a relation that never goes to the left do not go to the left. -/
theorem le {R : Nat → Nat → Prop} (hR : ∀ i j, R i j → i ≤ j) {n i j : Nat} (h : Steps R n i j) : i ≤ j := by
  induction n generalizing i with
  | zero => exact Nat.le_of_eq h
  | succ n ih =>
    obtain ⟨k, hk, hs⟩ := h
    exact Nat.le_trans (hR i k hk) (ih hs)

/-- Some steps and then some more are as many as both together. -/
theorem add {R : Nat → Nat → Prop} {m n i j : Nat} : Steps R (m + n) i j ↔ ∃ k, Steps R m i k ∧ Steps R n k j := by
  induction m generalizing i with
  | zero => simp [Steps]
  | succ m ih =>
    rw [Nat.add_right_comm]
    constructor
    · rintro ⟨l, hl, h⟩
      obtain ⟨k, h1, h2⟩ := ih.1 h
      exact ⟨k, ⟨l, hl, h1⟩, h2⟩
    · rintro ⟨k, ⟨l, hl, h1⟩, h2⟩
      exact ⟨l, hl, ih.2 ⟨k, h1, h2⟩⟩

/-- Of more steps than places are passed one stays where it is, and can be left out. -/
theorem shorten {R : Nat → Nat → Prop} (hR : ∀ i j, R i j → i ≤ j) {n i j : Nat} (hn : j - i < n + 1)
    (h : Steps R (n + 1) i j) : Steps R n i j := by
  induction n generalizing i with
  | zero =>
    obtain ⟨k, hk, rfl⟩ := h
    have := hR i k hk
    exact show i = k by omega
  | succ n ih =>
    obtain ⟨k, hk, hs⟩ := h
    by_cases hik : k = i
    · subst hik
      exact hs
    · have h1 := hR i k hk
      have h2 := le hR hs
      exact ⟨k, hk, ih (by omega) hs⟩

/-- Of more steps than places are passed one stays where it is, and can be taken again. -/
theorem lengthen {R : Nat → Nat → Prop} (hR : ∀ i j, R i j → i ≤ j) {n i j : Nat} (hn : j - i < n)
    (h : Steps R n i j) : Steps R (n + 1) i j := by
  induction n generalizing i with
  | zero => omega
  | succ n ih =>
    obtain ⟨k, hk, hs⟩ := h
    by_cases hik : k = i
    · subst hik
      exact ⟨k, hk, k, hk, hs⟩
    · have h1 := hR i k hk
      have h2 := le hR hs
      exact ⟨k, hk, ih (by omega) hs⟩

/-- More steps than places are passed can be cut down to any number that is still more. -/
theorem shorten_to {R : Nat → Nat → Prop} (hR : ∀ i j, R i j → i ≤ j) {n m i j : Nat} (hm : j - i ≤ m) (hmn : m ≤ n)
    (h : Steps R n i j) : Steps R m i j := by
  induction n with
  | zero =>
    have hm0 : m = 0 := by omega
    subst hm0
    exact h
  | succ n ih =>
    by_cases hmn' : m = n + 1
    · subst hmn'
      exact h
    · exact ih (by omega) (shorten hR (by omega) h)

/-- More steps than places are passed can be drawn out to any larger number. -/
theorem lengthen_to {R : Nat → Nat → Prop} (hR : ∀ i j, R i j → i ≤ j) {n m i j : Nat} (hn : j - i < n) (hnm : n ≤ m)
    (h : Steps R n i j) : Steps R m i j := by
  induction m with
  | zero => omega
  | succ m ih =>
    by_cases hnm' : n = m + 1
    · subst hnm'
      exact h
    · exact lengthen hR (by omega) (ih (by omega))

end Steps

namespace Spans

/-- There is a span from the place `i` to the place `j`. -/
def Holds (xs : Spans) (i j : Nat) : Prop := i ≤ j ∧ (xs[i]?.getD 0).testBit (j - i) = true

/-- No span leaves the word. -/
def Inside (xs : Spans) : Prop := ∀ i j, xs.Holds i j → j < xs.length

@[simp] theorem holds_nil (i j : Nat) : ¬ Holds [] i j := by
  simp [Holds]

@[simp] theorem holds_cons_zero (x : Nat) (xs : Spans) (j : Nat) : Holds (x :: xs) 0 j ↔ x.testBit j = true := by
  simp [Holds]

@[simp] theorem not_holds_succ_zero (xs : Spans) (i : Nat) : ¬ Holds xs (i + 1) 0 := by
  simp [Holds]

@[simp] theorem holds_cons_succ (x : Nat) (xs : Spans) (i j : Nat) :
    Holds (x :: xs) (i + 1) (j + 1) ↔ Holds xs i j := by
  simp [Holds]

/-- A span does not go to the left. -/
theorem Holds.le {xs : Spans} {i j : Nat} (h : xs.Holds i j) : i ≤ j := h.1

/-- A span starts at a place of the word. -/
theorem Holds.lt_length {xs : Spans} {i j : Nat} (h : xs.Holds i j) : i < xs.length := by
  by_cases hi : i < xs.length
  · exact hi
  · have hn : xs[i]? = none := List.getElem?_eq_none (by omega)
    have := h.2
    simp [hn] at this

/-- The two steps of `follow`. -/
theorem testBit_follow (next : Spans) (first j : Nat) :
    (follow next first).testBit j = true ↔ ∃ k, first.testBit k = true ∧ next.Holds k j := by
  induction next generalizing first j with
  | nil => simp [follow]
  | cons lengths next ih =>
    rw [follow]
    split
    · next h =>
      subst h
      simp
    · rw [Nat.testBit_or, Bool.or_eq_true]
      have hhead : ((if first % 2 = 1 then lengths else 0).testBit j = true) ↔
          first.testBit 0 = true ∧ lengths.testBit j = true := by
        rw [Nat.testBit_zero]
        by_cases h : first % 2 = 1 <;> simp [h]
      have htail : (2 * follow next (first / 2)).testBit j = true ↔
          ∃ k, first.testBit (k + 1) = true ∧ Holds (lengths :: next) (k + 1) j := by
        cases j with
        | zero => simp
        | succ j =>
          rw [Nat.testBit_succ, Nat.mul_div_cancel_left _ (by omega), ih]
          simp [Nat.testBit_succ]
      rw [hhead, htail]
      constructor
      · rintro (⟨h1, h2⟩ | ⟨k, h1, h2⟩)
        · exact ⟨0, h1, by simpa using h2⟩
        · exact ⟨k + 1, h1, h2⟩
      · rintro ⟨k, h1, h2⟩
        cases k with
        | zero => exact Or.inl ⟨h1, by simpa using h2⟩
        | succ k => exact Or.inr ⟨k, h1, h2⟩

@[simp] theorem length_compose (xs ys : Spans) : (compose xs ys).length = min xs.length ys.length := by
  induction xs generalizing ys with
  | nil => simp [compose]
  | cons x xs ih =>
    cases ys with
    | nil => simp [compose]
    | cons y ys => simp [compose, ih]

/-- Composing spans composes the relations. -/
theorem holds_compose {xs ys : Spans} (h : xs.length = ys.length) (i j : Nat) :
    (compose xs ys).Holds i j ↔ ∃ k, xs.Holds i k ∧ ys.Holds k j := by
  induction xs generalizing ys i j with
  | nil => simp [compose]
  | cons x xs ih =>
    cases ys with
    | nil => simp at h
    | cons y ys =>
      simp only [List.length_cons, Nat.add_right_cancel_iff] at h
      rw [compose]
      cases i with
      | zero => simp only [holds_cons_zero, testBit_follow]
      | succ i =>
        cases j with
        | zero =>
          constructor
          · intro h'
            exact absurd h' (not_holds_succ_zero _ _)
          · rintro ⟨k, h1, h2⟩
            have := h1.le
            have := h2.le
            omega
        | succ j =>
          rw [holds_cons_succ, ih h]
          constructor
          · rintro ⟨k, h1, h2⟩
            exact ⟨k + 1, by simpa using h1, by simpa using h2⟩
          · rintro ⟨k, h1, h2⟩
            cases k with
            | zero => exact absurd h1 (not_holds_succ_zero _ _)
            | succ k => exact ⟨k, by simpa using h1, by simpa using h2⟩

@[simp] theorem length_union (xs ys : Spans) : (union xs ys).length = min xs.length ys.length := by
  simp [union]

/-- The union of spans is the union of the relations. -/
theorem holds_union {xs ys : Spans} (h : xs.length = ys.length) (i j : Nat) :
    (union xs ys).Holds i j ↔ xs.Holds i j ∨ ys.Holds i j := by
  induction xs generalizing ys i j with
  | nil =>
    have hy : ys = [] := List.eq_nil_of_length_eq_zero (by simpa using h.symm)
    subst hy
    simp [union]
  | cons x xs ih =>
    cases ys with
    | nil => simp at h
    | cons y ys =>
      simp only [List.length_cons, Nat.add_right_cancel_iff] at h
      have hu : union (x :: xs) (y :: ys) = (x ||| y) :: union xs ys := rfl
      rw [hu]
      cases i with
      | zero => simp
      | succ i =>
        cases j with
        | zero => simp
        | succ j => simpa using ih h i j

@[simp] theorem length_stay (n : Nat) : (stay n).length = n := by
  simp [stay]

/-- Staying relates each place to itself. -/
@[simp] theorem holds_stay (n i j : Nat) : (stay n).Holds i j ↔ i = j ∧ i < n := by
  by_cases h : i < n
  · have hget : (stay n)[i]? = some 1 := by simp [stay, h]
    simp only [Holds, hget, Option.getD_some, Nat.testBit_one_eq_true_iff_self_eq_zero, h, and_true]
    omega
  · constructor
    · intro hh
      have := hh.lt_length
      simp at this
      omega
    · rintro ⟨-, hi⟩
      exact absurd hi h

@[simp] theorem length_power (xs : Spans) (k : Nat) : (power xs k).length = xs.length := by
  induction k with
  | zero => simp [power]
  | succ k ih => simp [power, ih]

/-- The power of spans is that many steps of the relation. -/
theorem holds_power {xs : Spans} (hx : xs.Inside) (k i j : Nat) :
    (power xs k).Holds i j ↔ i < xs.length ∧ Steps xs.Holds k i j := by
  induction k generalizing i with
  | zero =>
    simp only [power, holds_stay, Steps]
    exact And.comm
  | succ k ih =>
    rw [power, holds_compose (by simp)]
    constructor
    · rintro ⟨l, h1, h2⟩
      exact ⟨h1.lt_length, l, h1, ((ih l).1 h2).2⟩
    · rintro ⟨-, l, h1, h2⟩
      exact ⟨l, h1, (ih l).2 ⟨hx i l h1, h2⟩⟩

/-- Steps inside of a word do not leave it. -/
theorem lt_length_of_steps {xs : Spans} (hx : xs.Inside) {n i j : Nat} (hi : i < xs.length) (h : Steps xs.Holds n i j) :
    j < xs.length := by
  induction n generalizing i with
  | zero =>
    have hij : i = j := h
    omega
  | succ n ih =>
    obtain ⟨k, h1, h2⟩ := h
    exact ih (hx i k h1) h2

@[simp] theorem length_closure (xs : Spans) : (closure xs).length = xs.length := by
  induction xs with
  | nil => rfl
  | cons x xs ih => simp [closure, ih]

/-- Steps over the places behind the first are steps over the rest of the spans. -/
theorem steps_cons {x : Nat} {xs : Spans} {k i j : Nat} :
    Steps (Holds (x :: xs)) k (i + 1) j ↔ ∃ l, j = l + 1 ∧ Steps xs.Holds k i l := by
  induction k generalizing i with
  | zero =>
    simp only [Steps]
    constructor
    · rintro rfl
      exact ⟨i, rfl, rfl⟩
    · rintro ⟨l, rfl, rfl⟩
      rfl
  | succ k ih =>
    constructor
    · rintro ⟨m, h1, h2⟩
      cases m with
      | zero => exact absurd h1 (not_holds_succ_zero _ _)
      | succ m =>
        obtain ⟨l, rfl, hl⟩ := ih.1 h2
        exact ⟨l, rfl, m, by simpa using h1, hl⟩
    · rintro ⟨l, rfl, m, h1, h2⟩
      exact ⟨m + 1, by simpa using h1, ih.2 ⟨l, rfl, h2⟩⟩

/-- The rest of spans inside of a word are inside of its rest. -/
theorem Inside.tail {x : Nat} {xs : Spans} (h : Inside (x :: xs)) : xs.Inside := by
  intro i j hij
  have := h (i + 1) (j + 1) (by simpa using hij)
  simpa using this

/-- The closure of spans is any number of steps of the relation. -/
theorem holds_closure {xs : Spans} (hx : xs.Inside) (i j : Nat) :
    (closure xs).Holds i j ↔ i < xs.length ∧ ∃ k, Steps xs.Holds k i j := by
  induction xs generalizing i j with
  | nil => simp [closure]
  | cons x xs ih =>
    rw [closure]
    cases i with
    | zero =>
      rw [holds_cons_zero, Nat.testBit_or, Bool.or_eq_true, Nat.testBit_one_eq_true_iff_self_eq_zero]
      cases j with
      | zero =>
        simp only [List.length_cons, Nat.zero_lt_succ, true_and, true_or, true_iff]
        exact ⟨0, rfl⟩
      | succ j =>
        rw [Nat.testBit_succ, Nat.mul_div_cancel_left _ (by omega), testBit_follow]
        simp only [List.length_cons, Nat.zero_lt_succ, true_and, Nat.add_eq_zero_iff, Nat.succ_ne_self, and_false, false_or]
        constructor
        · rintro ⟨k, h1, h2⟩
          rw [← Nat.testBit_succ] at h1
          obtain ⟨-, n, hn⟩ := (ih hx.tail k j).1 h2
          exact ⟨n + 1, k + 1, by simpa using h1, steps_cons.2 ⟨j, rfl, hn⟩⟩
        · rintro ⟨n, hn⟩
          induction n with
          | zero => exact absurd hn (by simp [Steps])
          | succ n ihn =>
            obtain ⟨k, h1, h2⟩ := hn
            cases k with
            | zero => exact ihn h2
            | succ k =>
              obtain ⟨l, hl, h2⟩ := steps_cons.1 h2
              have hk := hx _ _ h1
              refine ⟨k, ?_, (ih hx.tail k j).2 ⟨by simpa using hk, n, ?_⟩⟩
              · rw [← Nat.testBit_succ]
                simpa using h1
              · have hjl : j = l := by omega
                subst hjl
                exact h2
    | succ i =>
      cases j with
      | zero =>
        constructor
        · intro h
          exact absurd h (not_holds_succ_zero _ _)
        · rintro ⟨-, k, hk⟩
          have := Steps.le (fun _ _ h => Holds.le h) hk
          omega
      | succ j =>
        rw [holds_cons_succ, ih hx.tail]
        simp only [List.length_cons, Nat.add_lt_add_iff_right]
        constructor
        · rintro ⟨hi, k, hk⟩
          exact ⟨hi, k, steps_cons.2 ⟨j, rfl, hk⟩⟩
        · rintro ⟨hi, k, hk⟩
          obtain ⟨l, hl, hk⟩ := steps_cons.1 hk
          have hjl : j = l := by omega
          subst hjl
          exact ⟨hi, k, hk⟩

@[simp] theorem length_times (xs : Spans) (least : Nat) (most : Option Nat) : (times xs least most).length = xs.length := by
  cases most with
  | none => simp [times]
  | some most =>
    simp only [times, length_compose, length_power]
    split <;> simp

/-- Steps that may also stay are at most so many steps. -/
theorem steps_union_stay {xs : Spans} (hx : xs.Inside) {n i j : Nat} (hi : i < xs.length) :
    Steps (union (stay xs.length) xs).Holds n i j ↔ ∃ k, k ≤ n ∧ Steps xs.Holds k i j := by
  have hu : ∀ a b, (union (stay xs.length) xs).Holds a b ↔ (a = b ∧ a < xs.length) ∨ xs.Holds a b := by
    intro a b
    rw [holds_union (by simp), holds_stay]
  induction n generalizing i with
  | zero =>
    constructor
    · intro h
      exact ⟨0, Nat.le_refl _, h⟩
    · rintro ⟨k, hk, h⟩
      have hk0 : k = 0 := by omega
      subst hk0
      exact h
  | succ n ih =>
    constructor
    · rintro ⟨l, h1, h2⟩
      rcases (hu i l).1 h1 with ⟨rfl, -⟩ | h1
      · obtain ⟨k, hk, h⟩ := (ih hi).1 h2
        exact ⟨k, by omega, h⟩
      · obtain ⟨k, hk, h⟩ := (ih (hx i l h1)).1 h2
        exact ⟨k + 1, by omega, l, h1, h⟩
    · rintro ⟨k, hk, h⟩
      cases k with
      | zero => exact ⟨i, (hu i i).2 (Or.inl ⟨rfl, hi⟩), (ih hi).2 ⟨0, Nat.zero_le _, h⟩⟩
      | succ k =>
        obtain ⟨l, h1, h2⟩ := h
        exact ⟨l, (hu i l).2 (Or.inr h1), (ih (hx i l h1)).2 ⟨k, by omega, h2⟩⟩

/-- The steps that a repetition may take beyond its least number. -/
theorem holds_more {xs : Spans} (hx : xs.Inside) (extra i j : Nat) :
    (if extra < xs.length then power (union (stay xs.length) xs) extra else closure xs).Holds i j ↔
      i < xs.length ∧ ∃ k, k ≤ extra ∧ Steps xs.Holds k i j := by
  have hu : (union (stay xs.length) xs).Inside := by
    intro a b hab
    rw [holds_union (by simp), holds_stay] at hab
    rcases hab with ⟨rfl, h⟩ | h
    · simpa using h
    · simpa using hx a b h
  split
  · rw [holds_power hu]
    simp only [length_union, length_stay, Nat.min_self]
    constructor
    · rintro ⟨hi, h⟩
      exact ⟨hi, (steps_union_stay hx hi).1 h⟩
    · rintro ⟨hi, h⟩
      exact ⟨hi, (steps_union_stay hx hi).2 h⟩
  · next hl =>
    rw [holds_closure hx]
    constructor
    · rintro ⟨hi, k, hk⟩
      by_cases hke : k ≤ extra
      · exact ⟨hi, k, hke, hk⟩
      · refine ⟨hi, extra, Nat.le_refl _, Steps.shorten_to (fun _ _ h => Holds.le h) ?_ (by omega) hk⟩
        have hj : j < xs.length := lt_length_of_steps hx hi hk
        omega
    · rintro ⟨hi, k, -, hk⟩
      exact ⟨hi, k, hk⟩

/-- A repetition is a number of steps that it allows. -/
theorem holds_times {xs : Spans} (hx : xs.Inside) (least : Nat) (most : Option Nat) (i j : Nat) :
    (times xs least most).Holds i j ↔
      i < xs.length ∧ ∃ n, least ≤ n ∧ (∀ m, most = some m → n ≤ max least m) ∧ Steps xs.Holds n i j := by
  have hle : ∀ a b, xs.Holds a b → a ≤ b := fun _ _ h => h.le
  have hleast : ∀ a b, (power xs (min least xs.length)).Holds a b ↔ a < xs.length ∧ Steps xs.Holds least a b := by
    intro a b
    rw [holds_power hx]
    by_cases h : least ≤ xs.length
    · rw [Nat.min_eq_left h]
    · rw [Nat.min_eq_right (by omega)]
      constructor
      · rintro ⟨ha, hs⟩
        have hb := lt_length_of_steps hx ha hs
        exact ⟨ha, Steps.lengthen_to hle (by omega) (by omega) hs⟩
      · rintro ⟨ha, hs⟩
        have hb := lt_length_of_steps hx ha hs
        exact ⟨ha, Steps.shorten_to hle (by omega) (by omega) hs⟩
  have hsplit : ∀ more : Spans, more.length = xs.length → ∀ P : Nat → Prop,
      (∀ a b, more.Holds a b ↔ a < xs.length ∧ ∃ k, P k ∧ Steps xs.Holds k a b) →
      ((compose (power xs (min least xs.length)) more).Holds i j ↔
        i < xs.length ∧ ∃ k, P k ∧ Steps xs.Holds (least + k) i j) := by
    intro more hlen P hmore
    rw [holds_compose (by simp [hlen])]
    constructor
    · rintro ⟨l, h1, h2⟩
      obtain ⟨hi, h1⟩ := (hleast i l).1 h1
      obtain ⟨-, k, hk, h2⟩ := (hmore l j).1 h2
      exact ⟨hi, k, hk, Steps.add.2 ⟨l, h1, h2⟩⟩
    · rintro ⟨hi, k, hk, h⟩
      obtain ⟨l, h1, h2⟩ := Steps.add.1 h
      exact ⟨l, (hleast i l).2 ⟨hi, h1⟩, (hmore l j).2 ⟨lt_length_of_steps hx hi h1, k, hk, h2⟩⟩
  cases most with
  | none =>
    rw [times, hsplit (closure xs) (by simp) (fun _ => True) (by simpa using holds_closure hx)]
    constructor
    · rintro ⟨hi, k, -, h⟩
      exact ⟨hi, least + k, by omega, by simp, h⟩
    · rintro ⟨hi, n, hn, -, h⟩
      refine ⟨hi, n - least, trivial, ?_⟩
      rwa [show least + (n - least) = n by omega]
  | some most =>
    rw [times, hsplit _ (by split <;> simp) (· ≤ most - least) (holds_more hx (most - least))]
    constructor
    · rintro ⟨hi, k, hk, h⟩
      refine ⟨hi, least + k, by omega, ?_, h⟩
      rintro m ⟨⟩
      omega
    · rintro ⟨hi, n, hn, hm, h⟩
      have := hm most rfl
      refine ⟨hi, n - least, by omega, ?_⟩
      rwa [show least + (n - least) = n by omega]

end Spans

namespace Spans

@[simp] theorem length_ofSet (chars : CharSet) (word : List Char) : (ofSet chars word).length = word.length + 1 := by
  simp [ofSet]

/-- The spans of a set go over one of its characters. -/
theorem holds_ofSet (chars : CharSet) (word : List Char) (i j : Nat) :
    (ofSet chars word).Holds i j ↔ j = i + 1 ∧ ∃ c, word[i]? = some c ∧ chars.contains c = true := by
  induction word generalizing i j with
  | nil =>
    cases i with
    | zero => simp [ofSet]
    | succ i => simp [ofSet, Holds]
  | cons c word ih =>
    have hcons : ofSet chars (c :: word) = (if chars.contains c then 2 else 0) :: ofSet chars word := rfl
    rw [hcons]
    cases i with
    | zero =>
      have htwo : Nat.testBit 2 j = true ↔ j = 1 := by
        rw [show (2 : Nat) = 2 ^ 1 from rfl, Nat.testBit_two_pow, decide_eq_true_eq]
        exact eq_comm
      by_cases h : chars.contains c = true <;> simp [h, htwo]
    | succ i =>
      cases j with
      | zero => simp
      | succ j => simpa using ih i j

@[simp] theorem length_ofLook (condition : Look) (before : Option Char) (word : List Char) :
    (ofLook condition before word).length = word.length + 1 := by
  induction word generalizing before with
  | nil => rfl
  | cons c word ih => simp [ofLook, ih]

/-- The spans of a condition are empty and lie at the places where it holds. -/
theorem holds_ofLook (condition : Look) (before : Option Char) (word : List Char) (i j : Nat) :
    (ofLook condition before word).Holds i j ↔
      i = j ∧ i ≤ word.length ∧ condition.holds (if i = 0 then before else word[i - 1]?) word[i]? = true := by
  have hone : ∀ (b : Bool) (n : Nat), (if b = true then 1 else 0).testBit n = true ↔ 0 = n ∧ b = true := by
    intro b n
    cases b
    · simp
    · simp only [Nat.testBit_one_eq_true_iff_self_eq_zero, if_true, and_true]
      omega
  induction word generalizing before i j with
  | nil =>
    cases i with
    | zero => simp [ofLook, hone]
    | succ i => simp [ofLook, Holds]
  | cons c word ih =>
    rw [ofLook]
    cases i with
    | zero => simp [hone]
    | succ i =>
      cases j with
      | zero => simp
      | succ j =>
        refine (holds_cons_succ _ _ i j).trans ((ih (some c) i j).trans ?_)
        cases i with
        | zero =>
          simp only [Nat.zero_add, if_true, Nat.one_ne_zero, if_false, List.getElem?_cons_succ, Nat.sub_self,
            List.getElem?_cons_zero, List.length_cons, Nat.zero_le, true_and]
          constructor
          · rintro ⟨rfl, h⟩
            exact ⟨rfl, by omega, h⟩
          · rintro ⟨h1, -, h⟩
            exact ⟨by omega, h⟩
        | succ i => simp

end Spans

namespace Regex

/-- There is a span of the expression from the place `i` of a word to the place `j`. A repetition whose largest number is below
its least is taken as often as the least says. -/
def Span (word : List Char) : Regex → (i j : Nat) → Prop
  | .empty, i, j => i = j ∧ i ≤ word.length
  | .set chars, i, j => j = i + 1 ∧ ∃ c, word[i]? = some c ∧ chars.contains c = true
  | .look condition, i, j =>
    i = j ∧ i ≤ word.length ∧ condition.holds (if i = 0 then none else word[i - 1]?) word[i]? = true
  | .seq r s, i, j => ∃ k, r.Span word i k ∧ s.Span word k j
  | .alt r s, i, j => r.Span word i j ∨ s.Span word i j
  | .times r least most, i, j =>
    i ≤ word.length ∧ ∃ n, least ≤ n ∧ (∀ m, most = some m → n ≤ max least m) ∧ Steps (r.Span word) n i j
  | .group _ r, i, j => r.Span word i j

/-- A span does not leave the word. -/
theorem Span.le_length {word : List Char} {r : Regex} {i j : Nat} (h : r.Span word i j) : j ≤ word.length := by
  induction r generalizing i j with
  | empty =>
    obtain ⟨rfl, h⟩ := h
    exact h
  | set chars =>
    obtain ⟨rfl, c, hc, -⟩ := h
    obtain ⟨hi, -⟩ := List.getElem?_eq_some_iff.1 hc
    omega
  | look condition =>
    obtain ⟨rfl, h, -⟩ := h
    exact h
  | seq r s _ ihs =>
    obtain ⟨k, -, h⟩ := h
    exact ihs h
  | alt r s ihr ihs => exact h.elim ihr ihs
  | times r least most ih =>
    obtain ⟨hi, n, -, -, h⟩ := h
    clear least most
    induction n generalizing i with
    | zero =>
      have hij : i = j := h
      omega
    | succ n ihn =>
      obtain ⟨k, h1, h2⟩ := h
      exact ihn (ih h1) h2
  | group number r ih => exact ih h

@[simp] theorem length_spansAfter (word : List Char) (r : Regex) (before : Spans) (h : before.length = word.length + 1) :
    (r.spansAfter word before).length = word.length + 1 := by
  induction r generalizing before with
  | empty => exact h
  | set chars => simp [spansAfter, h]
  | look condition => simp [spansAfter, h]
  | seq r s ihr ihs => exact ihs _ (ihr _ h)
  | alt r s ihr ihs => simp [spansAfter, ihr _ h, ihs _ h]
  | times r least most ih => simp [spansAfter, h, ih]
  | group number r ih => exact ih _ h

/-- What is computed after some spans is each of them followed by a span of the expression. -/
theorem holds_spansAfter (word : List Char) (r : Regex) {before : Spans} (h : before.length = word.length + 1)
    (hb : before.Inside) (i j : Nat) :
    (r.spansAfter word before).Holds i j ↔ ∃ k, before.Holds i k ∧ r.Span word k j := by
  induction r generalizing before i j with
  | empty =>
    constructor
    · intro hij
      have := hb i j hij
      exact ⟨j, hij, rfl, by omega⟩
    · rintro ⟨k, hik, rfl, -⟩
      exact hik
  | set chars => rw [spansAfter, Spans.holds_compose (by simp [h])]; simp only [Spans.holds_ofSet, Span]
  | look condition => rw [spansAfter, Spans.holds_compose (by simp [h])]; simp only [Spans.holds_ofLook, Span]
  | seq r s ihr ihs =>
    have hr : (r.spansAfter word before).Inside := by
      intro a b hab
      obtain ⟨k, -, hk⟩ := (ihr h hb a b).1 hab
      have := hk.le_length
      rw [length_spansAfter word r before h]
      omega
    rw [spansAfter, ihs (length_spansAfter word r before h) hr]
    constructor
    · rintro ⟨l, h1, h2⟩
      obtain ⟨k, hk, h1⟩ := (ihr h hb i l).1 h1
      exact ⟨k, hk, l, h1, h2⟩
    · rintro ⟨k, hk, l, h1, h2⟩
      exact ⟨l, (ihr h hb i l).2 ⟨k, hk, h1⟩, h2⟩
  | alt r s ihr ihs =>
    rw [spansAfter, Spans.holds_union (by rw [length_spansAfter _ _ _ h, length_spansAfter _ _ _ h]), ihr h hb, ihs h hb]
    constructor
    · rintro (⟨k, h1, h2⟩ | ⟨k, h1, h2⟩)
      · exact ⟨k, h1, Or.inl h2⟩
      · exact ⟨k, h1, Or.inr h2⟩
    · rintro ⟨k, h1, h2 | h2⟩
      · exact Or.inl ⟨k, h1, h2⟩
      · exact Or.inr ⟨k, h1, h2⟩
  | times r least most ih =>
    have hstay : (Spans.stay (word.length + 1)).Inside := by
      intro a b hab
      obtain ⟨rfl, hlt⟩ := (Spans.holds_stay _ _ _).1 hab
      simpa using hlt
    have hone : ∀ a b, (r.spansAfter word (.stay (word.length + 1))).Holds a b ↔ a < word.length + 1 ∧ r.Span word a b := by
      intro a b
      rw [ih (by simp) hstay]
      constructor
      · rintro ⟨k, hk, h2⟩
        obtain ⟨rfl, hlt⟩ := (Spans.holds_stay _ _ _).1 hk
        exact ⟨hlt, h2⟩
      · rintro ⟨hlt, h2⟩
        exact ⟨a, (Spans.holds_stay _ _ _).2 ⟨rfl, hlt⟩, h2⟩
    have hin : (r.spansAfter word (.stay (word.length + 1))).Inside := by
      intro a b hab
      have := ((hone a b).1 hab).2.le_length
      rw [length_spansAfter _ _ _ (by simp)]
      omega
    have hsteps : ∀ n a b, a ≤ word.length →
        (Steps (r.spansAfter word (.stay (word.length + 1))).Holds n a b ↔ Steps (r.Span word) n a b) := by
      intro n
      induction n with
      | zero => exact fun a b _ => Iff.rfl
      | succ n ihn =>
        intro a b ha
        constructor
        · rintro ⟨k, h1, h2⟩
          have h1 := ((hone a k).1 h1).2
          exact ⟨k, h1, (ihn k b h1.le_length).1 h2⟩
        · rintro ⟨k, h1, h2⟩
          exact ⟨k, (hone a k).2 ⟨by omega, h1⟩, (ihn k b h1.le_length).2 h2⟩
    rw [spansAfter, Spans.holds_compose (by rw [Spans.length_times, length_spansAfter _ _ _ (by simp), h])]
    simp only [Spans.holds_times hin, length_spansAfter _ _ _ (Spans.length_stay _), Span]
    constructor
    · rintro ⟨k, hk, hlt, n, h1, h2, h3⟩
      exact ⟨k, hk, by omega, n, h1, h2, (hsteps n k j (by omega)).1 h3⟩
    · rintro ⟨k, hk, hle, n, h1, h2, h3⟩
      exact ⟨k, hk, by omega, n, h1, h2, (hsteps n k j hle).2 h3⟩
  | group number r ih => exact ih h hb i j

/-- The spans that are computed for an expression are its spans. -/
theorem holds_spans (word : List Char) (r : Regex) (i j : Nat) :
    (r.spans word).Holds i j ↔ i ≤ word.length ∧ r.Span word i j := by
  have hstay : (Spans.stay (word.length + 1)).Inside := by
    intro a b hab
    obtain ⟨rfl, hlt⟩ := (Spans.holds_stay _ _ _).1 hab
    simpa using hlt
  rw [spans, holds_spansAfter word r (by simp) hstay]
  constructor
  · rintro ⟨k, hk, h⟩
    obtain ⟨rfl, hlt⟩ := (Spans.holds_stay _ _ _).1 hk
    exact ⟨by omega, h⟩
  · rintro ⟨hle, h⟩
    exact ⟨i, (Spans.holds_stay _ _ _).2 ⟨rfl, by omega⟩, h⟩

/-- A word matches an expression exactly when there is a span of the expression in it. -/
theorem isMatch_iff (r : Regex) (word : List Char) : r.isMatch word = true ↔ ∃ i j, i ≤ word.length ∧ r.Span word i j := by
  simp only [← holds_spans]
  rw [isMatch, List.any_eq_true]
  constructor
  · rintro ⟨x, hx, hne⟩
    obtain ⟨i, hi, rfl⟩ := List.mem_iff_getElem.1 hx
    obtain ⟨d, hd⟩ := Nat.exists_testBit_of_ne_zero (by simpa using hne)
    exact ⟨i, i + d, by omega, by simpa [hi] using hd⟩
  · rintro ⟨i, j, h⟩
    have hi := h.lt_length
    refine ⟨(r.spans word)[i], List.getElem_mem hi, ?_⟩
    have hbit := h.2
    rw [List.getElem?_eq_getElem hi, Option.getD_some] at hbit
    rw [bne_iff_ne]
    intro h0
    simp [h0] at hbit

end Regex

end RuleScanner
