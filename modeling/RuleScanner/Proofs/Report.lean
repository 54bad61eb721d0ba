import RuleScanner.Tokenizer

/-!
# What the error of a scan reports

A condition is one bit of a code, and the error of a scan unites the codes of its faults. So the error reports a condition
exactly if one of the faults falls under it (`Scan.reports_iff`). The faults of open activations never fall under the step
limit: it is reported exactly if the scan was cut off (`Scan.reports_stepLimit_iff`). Whatever else the error says, its wording
apart, comes from the conditions and the points of the faults (`ScanError.unworded_combine`).
-/

namespace RuleScanner

namespace FlagSet

variable {α : Type} [Flag α]

/-- The set of one flag has the bit of the flag alone. -/
theorem testBit_bits_single {a : α} (ha : Flag.position a < 32) (i : Nat) :
    (single a).bits.toNat.testBit i = decide (Flag.position a = i) := by
  have hpow : 2 ^ Flag.position a < 2 ^ 32 := Nat.pow_lt_pow_right (by decide) ha
  have hpos : (UInt32.ofNat (Flag.position a)).toNat = Flag.position a :=
    UInt32.toNat_ofNat_of_lt' (by simp only [UInt32.size]; omega)
  have hbits : (single a).bits.toNat = 2 ^ Flag.position a := by
    rw [single, UInt32.toNat_shiftLeft, hpos, Nat.mod_eq_of_lt ha, Nat.shiftLeft_eq]
    simpa using hpow
  rw [hbits, Nat.testBit_two_pow]

/-- A flag is in a set exactly if its bit is set. -/
theorem contains_single_iff (s : FlagSet α) {a : α} (ha : Flag.position a < 32) :
    s.contains (single a) ↔ s.bits.toNat.testBit (Flag.position a) := by
  have hinter : (s ∩ single a).bits.toNat = s.bits.toNat &&& (single a).bits.toNat := UInt32.toNat_and ..
  rw [contains, beq_iff_eq, FlagSet.ext_iff, ← UInt32.toNat_inj, hinter]
  constructor
  · intro h
    have hbit := congrArg (·.testBit (Flag.position a)) h
    simpa [testBit_bits_single ha] using hbit
  · intro h
    refine Nat.eq_of_testBit_eq fun i => ?_
    rw [Nat.testBit_and, testBit_bits_single ha]
    by_cases hi : Flag.position a = i
    · rw [← hi, h, Bool.true_and]
    · simp [hi]

/-- A flag is in the union of two sets exactly if it is in one of them. -/
theorem contains_union_single (s t : FlagSet α) {a : α} (ha : Flag.position a < 32) :
    (s ∪ t).contains (single a) ↔ s.contains (single a) ∨ t.contains (single a) := by
  have hunion : (s ∪ t).bits.toNat = s.bits.toNat ||| t.bits.toNat := UInt32.toNat_or ..
  rw [contains_single_iff _ ha, contains_single_iff _ ha, contains_single_iff _ ha, hunion, Nat.testBit_or, Bool.or_eq_true]

theorem contains_single_single {a b : α} (ha : Flag.position a < 32) (hb : Flag.position b < 32) :
    (single a).contains (single b) ↔ Flag.position a = Flag.position b := by
  rw [contains_single_iff _ hb, testBit_bits_single ha, decide_eq_true_eq]

end FlagSet

namespace Condition

theorem position_lt (c : Condition) : Flag.position c < 32 := by
  cases c <;> decide

theorem position_inj {c d : Condition} : Flag.position c = Flag.position d ↔ c = d := by
  cases c <;> cases d <;> decide

end Condition

/-- The error of a fault has the condition of the fault alone. -/
theorem Fault.contains_code_toError (f : Fault) (c : Condition) : f.toError.code.contains (.single c) ↔ f.condition = c :=
  (FlagSet.contains_single_single f.condition.position_lt c.position_lt).trans Condition.position_inj

/-- Errors that are combined have the conditions of all of them. -/
theorem ScanError.contains_code_foldl (c : Condition) (e : ScanError) (rest : List ScanError) :
    (rest.foldl (· ++ ·) e).code.contains (.single c) ↔ ∃ x ∈ e :: rest, x.code.contains (.single c) := by
  induction rest generalizing e with
  | nil => simp
  | cons x rest ih =>
    rw [List.foldl_cons, ih]
    simp only [List.mem_cons, exists_eq_or_imp]
    rw [← or_assoc]
    exact or_congr_left (FlagSet.contains_union_single e.code x.code c.position_lt)

/-- Errors that are combined have the first location that one of them has. -/
theorem ScanError.findSome?_location (e : ScanError) (rest : List ScanError) :
    (rest.foldl (· ++ ·) e).location = (e :: rest).findSome? (·.location) := by
  induction rest generalizing e with
  | nil => cases h : e.location <;> simp [h]
  | cons x rest ih =>
    have happend : (e ++ x).location = (e.location <|> x.location) := rfl
    rw [List.foldl_cons, ih, List.findSome?_cons, List.findSome?_cons, happend]
    cases e.location <;> simp [List.findSome?_cons]

/-- Errors that are combined have the location of the first, if it has one. -/
theorem ScanError.location_foldl {e : ScanError} {l : Location} (h : e.location = some l) (rest : List ScanError) :
    (rest.foldl (· ++ ·) e).location = some l := by
  rw [findSome?_location, List.findSome?_cons, h]

/-- The error without its wording. -/
def ScanError.unworded (e : ScanError) : ScanError := { e with message := "" }

/-- The wording of errors has no part in what else their combination says. -/
theorem ScanError.unworded_combine (es : List ScanError) : (combine es).map unworded = combine (es.map unworded) := by
  cases es with
  | nil => rfl
  | cons e rest =>
    have happend : ∀ a b : ScanError, a.unworded ++ b.unworded = (a ++ b).unworded := fun _ _ => rfl
    rw [combine, Option.map_some, List.map_cons, combine, List.foldl_map, List.foldl_hom unworded happend]

/-- What an error says besides its wording is the condition and the point of its fault. -/
theorem Fault.unworded_toError {f g : Fault} (hc : f.condition = g.condition) (hp : f.point? = g.point?) :
    f.toError.unworded = g.toError.unworded := by
  rw [toError, toError, hc, hp]
  rfl

namespace Scan

/-- The scan has failed, and its error has the condition `c`. -/
def reports (s : Scan) (c : Condition) : Bool := s.error?.any (·.code.contains (.single c))

/-- The error of a scan reports a condition exactly if one of the faults falls under it. -/
theorem reports_iff (s : Scan) (c : Condition) : s.reports c ↔ ∃ f ∈ s.faults, f.condition = c := by
  have hcode : ∀ fs : List Fault,
      (∃ x ∈ fs.map Fault.toError, x.code.contains (.single c)) ↔ ∃ f ∈ fs, f.condition = c := by
    intro fs
    constructor
    · rintro ⟨x, hx, hc⟩
      obtain ⟨f, hf, rfl⟩ := List.mem_map.1 hx
      exact ⟨f, hf, (f.contains_code_toError c).1 hc⟩
    · rintro ⟨f, hf, hc⟩
      exact ⟨f.toError, List.mem_map_of_mem hf, (f.contains_code_toError c).2 hc⟩
  rw [← hcode, reports, error?]
  cases s.faults.map Fault.toError with
  | nil => simp [ScanError.combine]
  | cons e rest => exact ScanError.contains_code_foldl c e rest

/-- A scan reports the step limit exactly if it was cut off: an open activation falls under another condition. -/
theorem reports_stepLimit_iff {s : Scan} (hc : ∀ f ∈ s.cutOff, f.condition = .stepLimit) :
    s.reports .stepLimit ↔ s.cutOff.isSome := by
  rw [reports_iff, Option.isSome_iff_exists]
  constructor
  · rintro ⟨f, hf, hcond⟩
    rcases List.mem_append.1 hf with hf | hf
    · exact ⟨f, Option.mem_toList.1 hf⟩
    · obtain ⟨a, -, rfl⟩ := List.mem_map.1 hf
      rw [unclosed] at hcond
      cases hd : a.rule.direction <;> simp [hd, Fault.condition] at hcond
  · rintro ⟨f, hf⟩
    exact ⟨f, List.mem_append_left _ (Option.mem_toList.2 hf), hc f hf⟩

/-- The error of a scan that was cut off has the point at which it was. -/
theorem location_of_cutOff {s : Scan} {budget index : Nat} {p : Point} (h : s.cutOff = some (.stepLimit budget index p)) :
    s.error?.bind (·.location) = some (.point p) := by
  rw [error?, faults, h, Option.toList_some, List.singleton_append, List.map_cons, ScanError.combine, Option.bind_some]
  exact ScanError.location_foldl rfl _

/-- A scan succeeds, with its tokens, exactly if it has no error. -/
theorem toOption_result (s : Scan) : s.result.toOption = if s.error?.isNone then some s.tokens else none := by
  rw [result]
  cases s.error? <;> rfl

end Scan

end RuleScanner
