import RuleScanner.Proofs.Outcome

/-!
# The laws of combined errors

Errors are combined in an order that is kept: which of them are put together first makes no difference (`ScanError.append_assoc`),
an error that says nothing changes nothing (`ScanError.silent_append`, `ScanError.append_silent`), and what any number of them say
together can be read off the list of them. Errors as such do not commute, since messages are joined in order and the first location
wins; their codes do, and so do errors that are compared as errors are, by their codes alone.
-/

namespace RuleScanner

/-! ## Sets of flags -/

namespace FlagSet

variable {α : Type}

theorem union_assoc (s t u : FlagSet α) : s ∪ t ∪ u = s ∪ (t ∪ u) := ext (UInt32.or_assoc ..)

theorem union_comm (s t : FlagSet α) : s ∪ t = t ∪ s := ext (UInt32.or_comm ..)

@[simp] theorem union_self (s : FlagSet α) : s ∪ s = s := ext UInt32.or_self

@[simp] theorem empty_union (s : FlagSet α) : ∅ ∪ s = s := ext UInt32.zero_or

@[simp] theorem union_empty (s : FlagSet α) : s ∪ ∅ = s := ext UInt32.or_zero

theorem testBit_inter (s t : FlagSet α) (i : Nat) :
    (s ∩ t).bits.toNat.testBit i = (s.bits.toNat.testBit i && t.bits.toNat.testBit i) := by
  have hinter : (s ∩ t).bits.toNat = s.bits.toNat &&& t.bits.toNat := UInt32.toNat_and ..
  rw [hinter, Nat.testBit_and]

/-- What a union has in common with a set is what its members have in common with it. -/
theorem union_inter_distrib (s t m : FlagSet α) : (s ∪ t) ∩ m = s ∩ m ∪ t ∩ m := by
  refine ext_testBit fun i => ?_
  rw [testBit_inter, testBit_union, testBit_union, testBit_inter, testBit_inter, Bool.and_or_distrib_right]

end FlagSet

/-! ## Errors -/

namespace ScanError

attribute [ext] ScanError

/-- The error that says nothing: no condition, no message and no location. -/
def silent : ScanError := { code := ∅, message := "" }

@[simp] theorem joinMessages_empty_left (a : String) : joinMessages "" a = a := by
  simp [joinMessages]

@[simp] theorem joinMessages_empty_right (a : String) : joinMessages a "" = a := by
  by_cases ha : a = "" <;> simp [joinMessages, ha]

/-- Three messages are joined in order, however they are grouped. -/
theorem joinMessages_assoc (a b c : String) : joinMessages (joinMessages a b) c = joinMessages a (joinMessages b c) := by
  by_cases ha : a = ""
  · simp [ha]
  by_cases hb : b = ""
  · simp [hb]
  by_cases hc : c = ""
  · simp [hc]
  -- None is empty, so that no message joined from two of them is.
  have hab : a ++ "; " ++ b ≠ "" := by simp [ha]
  have hbc : b ++ "; " ++ c ≠ "" := by simp [hb]
  rw [joinMessages_of_ne ha hb, joinMessages_of_ne hb hc, joinMessages_of_ne hab hc, joinMessages_of_ne ha hbc]
  simp only [String.append_assoc]

theorem append_assoc (a b c : ScanError) : a ++ b ++ c = a ++ (b ++ c) := by
  ext1
  · exact FlagSet.union_assoc ..
  · exact joinMessages_assoc ..
  · show ((a.location <|> b.location) <|> c.location) = (a.location <|> (b.location <|> c.location))
    cases a.location <;> rfl

theorem silent_append (e : ScanError) : silent ++ e = e := by
  ext1
  · exact FlagSet.empty_union e.code
  · exact joinMessages_empty_left e.message
  · rfl

theorem append_silent (e : ScanError) : e ++ silent = e := by
  ext1
  · exact FlagSet.union_empty e.code
  · exact joinMessages_empty_right e.message
  · show (e.location <|> none) = e.location
    cases e.location <;> rfl

/-- Errors that are combined have exactly the bits that one of them has, those without a name included. -/
theorem testBit_code_foldl (e : ScanError) (rest : List ScanError) (i : Nat) :
    (rest.foldl (· ++ ·) e).code.bits.toNat.testBit i = (e :: rest).any (·.code.bits.toNat.testBit i) := by
  rw [code_foldl, FlagSet.testBit_foldl_union, ← List.map_cons (f := code), List.any_map]
  rfl

/-- Masking two errors and combining them is combining them and masking the whole. -/
theorem maskCode_append (a b : ScanError) (m : ErrorCode) : (a ++ b).maskCode m = a.maskCode m ++ b.maskCode m := by
  ext1
  · exact FlagSet.union_inter_distrib ..
  · rfl
  · rfl

/-- Errors are compared by their codes. -/
theorem beq_iff {a b : ScanError} : a == b ↔ a.code = b.code := by
  show a.code == b.code ↔ a.code = b.code
  exact beq_iff_eq

end ScanError

/-- Combining errors is a monoid that keeps their order. Three errors are one error, in its code, its message and its location,
however they are grouped, and the error that says nothing is neutral on both sides. Any number of errors, from the first on, have
together exactly the bits of their codes, their messages in order, joined by semicolons, but for empty ones, and the first location
that one of them has. Compared by their codes alone, errors can moreover be exchanged and repeated. Masking goes through: it may be
done to the whole or to each of the two errors. -/
theorem errors_combine :
    (∀ a b c : ScanError, a ++ b ++ c = a ++ (b ++ c)) ∧
    (∀ e : ScanError, ScanError.silent ++ e = e ∧ e ++ ScanError.silent = e) ∧
    (∀ (e : ScanError) (rest : List ScanError),
      let whole := rest.foldl (· ++ ·) e
      ScanError.combine (e :: rest) = some whole ∧
      (∀ i, whole.code.bits.toNat.testBit i = (e :: rest).any (·.code.bits.toNat.testBit i)) ∧
      whole.message = "; ".intercalate (((e :: rest).map (·.message)).filter (· ≠ "")) ∧
      whole.location = (e :: rest).findSome? (·.location)) ∧
    (∀ a b : ScanError, a ++ b == b ++ a) ∧ (∀ a : ScanError, a ++ a == a) ∧
    ∀ (a b : ScanError) (m : ErrorCode), (a ++ b).maskCode m = a.maskCode m ++ b.maskCode m := by
  refine ⟨ScanError.append_assoc, fun e => ⟨e.silent_append, e.append_silent⟩, ?_, ?_, ?_, ScanError.maskCode_append⟩
  · intro e rest whole
    exact ⟨rfl, e.testBit_code_foldl rest, e.message_foldl rest, e.findSome?_location rest⟩
  · intro a b
    exact ScanError.beq_iff.2 (FlagSet.union_comm a.code b.code)
  · intro a
    exact ScanError.beq_iff.2 (FlagSet.union_self a.code)

-- Two errors exchanged are the same error with another message. A bit without a name is kept, and an empty message is passed over.
example :
    let a : ScanError := { code := .single .invalidRule, message := "a; " }
    let b : ScanError := { code := ⟨64⟩, message := "b", location := some (.point ⟨1, 2⟩) }
    (a ++ b == b ++ a) = true ∧ (a ++ b).message = "a; ; b" ∧ (b ++ a).message = "b; a; " ∧
      ([ScanError.silent, b].foldl (· ++ ·) a).code.bits = 80 := by
  decide

end RuleScanner
