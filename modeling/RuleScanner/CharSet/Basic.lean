/-!
# Sets of characters

A set of characters is held as the code points at which membership changes, in increasing order: the first is in the set, the
second is not, the third is again, and so on. A set has one such list only, and every operation on two sets is one sweep over
their changes (`CharSet.sweep`).
-/

namespace RuleScanner

/-- The code points increase from `least` on. -/
def increasingFrom (least : Nat) : List Nat → Bool
  | [] => true
  | b :: rest => least ≤ b && increasingFrom (b + 1) rest

/-- A set of characters, by the code points at which membership changes. -/
structure CharSet where
  bounds : List Nat
  increasing : increasingFrom 0 bounds
  deriving DecidableEq, Repr

namespace CharSet

/-- Membership of `n`, if membership below all the bounds is `inside`. -/
def memberAt (n : Nat) : (inside : Bool) → List Nat → Bool
  | inside, [] => inside
  | inside, b :: rest => if n < b then inside else memberAt n (!inside) rest

/-- The code point `n` is in the set. -/
def containsCode (s : CharSet) (n : Nat) : Bool := memberAt n false s.bounds

/-- The character `c` is in the set. -/
def contains (s : CharSet) (c : Char) : Bool := s.containsCode c.toNat

/-- Puts a bound in front, if membership changes there. -/
def mark (before after : Bool) (bound : Nat) (rest : List Nat) : List Nat := if before = after then rest else bound :: rest

/-- The code points at which `f` of two memberships changes, where `a` and `b` are the two below all the bounds. There are at
most `n` bounds. -/
def sweep (f : Bool → Bool → Bool) : (n : Nat) → (a b : Bool) → List Nat → List Nat → List Nat
  | 0, _, _, _, _ => []
  | _ + 1, _, _, [], [] => []
  | n + 1, a, b, x :: xs, [] => mark (f a b) (f (!a) b) x (sweep f n (!a) b xs [])
  | n + 1, a, b, [], y :: ys => mark (f a b) (f a (!b)) y (sweep f n a (!b) [] ys)
  | n + 1, a, b, x :: xs, y :: ys =>
    if x < y then mark (f a b) (f (!a) b) x (sweep f n (!a) b xs (y :: ys))
    else if y < x then mark (f a b) (f a (!b)) y (sweep f n a (!b) (x :: xs) ys)
    else mark (f a b) (f (!a) (!b)) x (sweep f n (!a) (!b) xs ys)

/-- Bounds that increase from a number on increase from every smaller one. -/
theorem increasingFrom_mono {k l : Nat} {xs : List Nat} (h : increasingFrom l xs) (hkl : k ≤ l) : increasingFrom k xs := by
  cases xs with
  | nil => rfl
  | cons x xs =>
    simp only [increasingFrom, Bool.and_eq_true, decide_eq_true_eq] at h ⊢
    exact ⟨by omega, h.2⟩

/-- A bound in front of larger ones keeps the order, whether it is put there or not. -/
theorem increasingFrom_mark {k x : Nat} {before after : Bool} {xs : List Nat} (hkx : k ≤ x)
    (h : increasingFrom (x + 1) xs) : increasingFrom k (mark before after x xs) := by
  unfold mark
  split
  · exact increasingFrom_mono h (by omega)
  · simp only [increasingFrom, Bool.and_eq_true, decide_eq_true_eq]
    exact ⟨hkx, h⟩

/-- A sweep over increasing bounds yields increasing bounds. -/
theorem increasingFrom_sweep (f : Bool → Bool → Bool) (n : Nat) (a b : Bool) (xs ys : List Nat) (k : Nat)
    (hx : increasingFrom k xs) (hy : increasingFrom k ys) : increasingFrom k (sweep f n a b xs ys) := by
  induction n generalizing a b xs ys k with
  | zero => rfl
  | succ n ih =>
    match xs, ys with
    | [], [] => rfl
    | x :: xs, [] =>
      simp only [increasingFrom, Bool.and_eq_true, decide_eq_true_eq] at hx
      exact increasingFrom_mark hx.1 (ih _ _ _ _ _ hx.2 rfl)
    | [], y :: ys =>
      simp only [increasingFrom, Bool.and_eq_true, decide_eq_true_eq] at hy
      exact increasingFrom_mark hy.1 (ih _ _ _ _ _ rfl hy.2)
    | x :: xs, y :: ys =>
      simp only [increasingFrom, Bool.and_eq_true, decide_eq_true_eq] at hx hy
      rw [sweep]
      split
      · next h =>
        refine increasingFrom_mark hx.1 (ih _ _ _ _ _ hx.2 ?_)
        simp only [increasingFrom, Bool.and_eq_true, decide_eq_true_eq]
        exact ⟨h, hy.2⟩
      · split
        · next h =>
          refine increasingFrom_mark hy.1 (ih _ _ _ _ _ ?_ hy.2)
          simp only [increasingFrom, Bool.and_eq_true, decide_eq_true_eq]
          exact ⟨h, hx.2⟩
        · have hxy : x = y := by omega
          subst hxy
          exact increasingFrom_mark hx.1 (ih _ _ _ _ _ hx.2 hy.2)

/-- The set whose membership is `f` of the memberships in two sets. -/
def combine (f : Bool → Bool → Bool) (s t : CharSet) : CharSet where
  bounds := sweep f (s.bounds.length + t.bounds.length) false false s.bounds t.bounds
  increasing := increasingFrom_sweep f _ _ _ _ _ _ s.increasing t.increasing

/-- No character. -/
def none : CharSet := ⟨[], rfl⟩

instance : Inhabited CharSet := ⟨none⟩

/-- The code points from `lo` to `hi`, both included. -/
def codes (lo hi : Nat) : CharSet :=
  if h : lo ≤ hi then ⟨[lo, hi + 1], by simp [increasingFrom]; omega⟩ else none

/-- All characters: every code point but the surrogates. -/
def all : CharSet := ⟨[0, 0xD800, 0xE000, 0x110000], rfl⟩

/-- The characters of either set. -/
def union (s t : CharSet) : CharSet := combine or s t

/-- The characters of both sets. -/
def inter (s t : CharSet) : CharSet := combine and s t

/-- The characters from `lo` to `hi`, both included. -/
def range (lo hi : Char) : CharSet := inter (codes lo.toNat hi.toNat) all

/-- The set of one character. -/
def single (c : Char) : CharSet := range c c

/-- The characters of `s` that are not in `t`. -/
def diff (s t : CharSet) : CharSet := combine (fun a b => a && !b) s t

/-- The characters that are in one of the two sets only. -/
def symmDiff (s t : CharSet) : CharSet := combine xor s t

/-- The characters that are not in the set. -/
def compl (s : CharSet) : CharSet := diff all s

/-- The union of sets. -/
def unions (sets : List CharSet) : CharSet := sets.foldr union none

/-- The union of the ranges that are given by their ends. -/
def ofRanges (ranges : List (Char × Char)) : CharSet := unions (ranges.map fun (lo, hi) => range lo hi)

/-- The set of the characters of a list. -/
def ofChars (chars : List Char) : CharSet := unions (chars.map single)

/-- Bounds as ranges with both ends included. -/
def pairs : List Nat → List (Nat × Nat)
  | lo :: stop :: rest => (lo, stop - 1) :: pairs rest
  | _ => []

/-- The ranges of the set, in increasing order and with gaps between them. -/
def ranges (s : CharSet) : List (Nat × Nat) := pairs s.bounds

/-- The set has no character. -/
def isNone (s : CharSet) : Bool := s.bounds.isEmpty

/-- The set has ASCII characters only. -/
def isAscii (s : CharSet) : Bool := s.bounds.all (· ≤ 0x80)

/-- The code point of the only character of the set. -/
def only? (s : CharSet) : Option Nat :=
  match s.bounds with
  | [lo, stop] => if stop = lo + 1 then some lo else Option.none
  | _ => Option.none

end CharSet

end RuleScanner
