import Mathlib.Data.Finset.Basic
import Mathlib.Data.List.Induction
import RuleScanner.Proofs.Reordering

/-!
# What a registry holds

A registry refuses a rule that has no terminator, and one whose name is taken. A refused rule leaves it as it was, so that a rule
without a terminator does not take its name. After any calls the registry holds, in the order of the calls, those that were the
first of their name among the rules with a terminator (`Registry.rules_ofCalls`).

A registry in place keeps the set of the names beside the rules, and looks up a name there (`IndexedRegistry`). A call that changed
only one of the two would let in a second rule of a name, or shut out the first. But each call changes both or none, so that the set
is always that of the names of the rules, and the answers are those of the registry without it (`IndexedRegistry.register_of`).
-/

namespace RuleScanner

/-! ## The first rules of their names -/

namespace Rule

/-- The rule has a terminator and none of the rules before it with a terminator has its name. -/
def isFirst (before : List Rule) (rule : Rule) : Bool :=
  rule.terminator != "" && before.all fun earlier => earlier.terminator == "" || earlier.name != rule.name

/-- The rules that are the first of their name, among those with a terminator, in order. -/
def firstUsable (calls : List Rule) : List Rule :=
  (calls.zipIdx.filter fun call => isFirst (calls.take call.2) call.1).map (·.1)

theorem isFirst_iff {before : List Rule} {rule : Rule} :
    isFirst before rule ↔
      rule.terminator ≠ "" ∧ ∀ earlier ∈ before, earlier.terminator ≠ "" → earlier.name ≠ rule.name := by
  simp only [isFirst, Bool.and_eq_true, bne_iff_ne, List.all_eq_true, Bool.or_eq_true, beq_iff_eq]
  refine and_congr_right fun _ => forall₂_congr fun earlier _ => ?_
  exact ⟨fun h hne => h.resolve_left hne, fun h => or_iff_not_imp_left.2 h⟩

/-- One more rule is one of them if it is the first of its name, and changes nothing for the others. -/
theorem firstUsable_concat (calls : List Rule) (rule : Rule) :
    firstUsable (calls ++ [rule]) = firstUsable calls ++ if isFirst calls rule then [rule] else [] := by
  have hothers : calls.zipIdx.filter (fun call => isFirst ((calls ++ [rule]).take call.2) call.1) =
      calls.zipIdx.filter fun call => isFirst (calls.take call.2) call.1 := by
    refine List.filter_congr fun call hcall => ?_
    have hlt := (List.mem_zipIdx hcall).2.1
    rw [List.take_append_of_le_length (by omega)]
  rw [firstUsable, List.zipIdx_append, List.filter_append, List.map_append, hothers, firstUsable]
  by_cases hfirst : isFirst calls rule <;> simp [hfirst]

/-- Their names are the names of all rules with a terminator. -/
theorem mem_names_firstUsable {calls : List Rule} {name : String} :
    name ∈ (firstUsable calls).map (·.name) ↔ ∃ rule ∈ calls, rule.terminator ≠ "" ∧ rule.name = name := by
  induction calls using List.reverseRecOn with
  | nil => simp [firstUsable]
  | append_singleton calls rule ih =>
    rw [firstUsable_concat, List.map_append, List.mem_append, ih]
    constructor
    · rintro (⟨earlier, hmem, hearlier⟩ | hmem)
      · exact ⟨earlier, List.mem_append_left _ hmem, hearlier⟩
      · split at hmem
        · next hfirst =>
          refine ⟨rule, List.mem_append_right _ (List.mem_singleton_self rule), (isFirst_iff.1 hfirst).1, ?_⟩
          exact (List.mem_singleton.1 hmem).symm
        · cases hmem
    · rintro ⟨other, hmem, hother, hname⟩
      rcases List.mem_append.1 hmem with hmem | hmem
      · exact Or.inl ⟨other, hmem, hother, hname⟩
      · obtain rfl := List.mem_singleton.1 hmem
        -- A last rule that is not the first of its name has its name from an earlier one.
        by_cases hearlier : ∃ earlier ∈ calls, earlier.terminator ≠ "" ∧ earlier.name = name
        · exact Or.inl hearlier
        · have hfirst : isFirst calls other :=
            isFirst_iff.2 ⟨hother, fun earlier hmem hterminator hsame =>
              hearlier ⟨earlier, hmem, hterminator, hsame.trans hname⟩⟩
          rw [if_pos hfirst]
          exact Or.inr (hname ▸ List.mem_singleton_self _)

/-- A rule is the first of its name if it has a terminator and no rule with a terminator before has its name. -/
theorem isFirst_iff_notMem {calls : List Rule} {rule : Rule} :
    isFirst calls rule ↔ rule.terminator ≠ "" ∧ rule.name ∉ (firstUsable calls).map (·.name) := by
  rw [isFirst_iff, mem_names_firstUsable]
  simp only [not_exists, not_and, ne_eq]

theorem nodup_names_firstUsable (calls : List Rule) : ((firstUsable calls).map (·.name)).Nodup := by
  induction calls using List.reverseRecOn with
  | nil => exact List.nodup_nil
  | append_singleton calls rule ih =>
    rw [firstUsable_concat]
    split
    · next hfirst =>
      rw [List.map_append, List.map_singleton, ← List.concat_eq_append]
      exact ih.concat (isFirst_iff_notMem.1 hfirst).2
    · rwa [List.append_nil]

end Rule

/-! ## Calls -/

namespace Registry

/-- A call is accepted, or it is refused for one of two faults. A rule without a terminator is refused whatever its name is. -/
theorem register_cases (g : Registry) (rule : Rule) :
    (rule.terminator ≠ "" ∧ rule.name ∉ g.rules.map (·.name) ∧ g.register rule = .ok { rules := g.rules ++ [rule] }) ∨
    (rule.terminator = "" ∧ g.register rule = .error (.emptyTerminator rule.name)) ∨
    (rule.terminator ≠ "" ∧ rule.name ∈ g.rules.map (·.name) ∧ g.register rule = .error (.duplicateName rule.name)) := by
  by_cases hterminator : rule.terminator = ""
  · exact Or.inr (Or.inl ⟨hterminator, by simp [register, hterminator]⟩)
  · by_cases hname : rule.name ∈ g.rules.map (·.name)
    · have htaken : g.hasName rule.name := by simpa [hasName] using hname
      exact Or.inr (Or.inr ⟨hterminator, hname, by simp [register, hterminator, htaken]⟩)
    · exact Or.inl ⟨hterminator, hname, register_eq_ok_iff.2 ⟨hterminator, hname, rfl⟩⟩

/-- The registry after a call. If the rule is refused it is the registry before. -/
def afterCall (g : Registry) (rule : Rule) : Registry := (g.register rule).toOption.getD g

/-- The registry after the calls, on one that has no rules. -/
def ofCalls (calls : List Rule) : Registry := calls.foldl afterCall {}

theorem ofCalls_concat (calls : List Rule) (rule : Rule) : ofCalls (calls ++ [rule]) = (ofCalls calls).afterCall rule :=
  List.foldl_concat ..

/-- After any calls a registry holds the first rules of their names. -/
theorem rules_ofCalls (calls : List Rule) : (ofCalls calls).rules = Rule.firstUsable calls := by
  induction calls using List.reverseRecOn with
  | nil => rfl
  | append_singleton calls rule ih =>
    rw [ofCalls_concat, afterCall, Rule.firstUsable_concat]
    rcases (ofCalls calls).register_cases rule with ⟨hterminator, hname, hok⟩ | ⟨hterminator, herror⟩ | ⟨-, hname, herror⟩
    · rw [ih] at hname hok
      rw [hok, if_pos (Rule.isFirst_iff_notMem.2 ⟨hterminator, hname⟩)]
      rfl
    · rw [herror, if_neg fun h => (Rule.isFirst_iff_notMem.1 h).1 hterminator, List.append_nil]
      exact ih
    · rw [ih] at hname
      rw [herror, if_neg fun h => (Rule.isFirst_iff_notMem.1 h).2 hname, List.append_nil]
      exact ih

/-- Where no two rules have one name, a rule is found by its name. -/
theorem get?_eq_some_iff {g : Registry} (h : (g.rules.map (·.name)).Nodup) {name : String} {rule : Rule} :
    g.get? name = some rule ↔ rule ∈ g.rules ∧ rule.name = name := by
  constructor
  · intro hget
    exact ⟨List.mem_of_find?_eq_some hget, by simpa using List.find?_some hget⟩
  · rintro ⟨hmem, hname⟩
    cases hget : g.get? name with
    | none => exact absurd hname (by simpa using List.find?_eq_none.1 hget rule hmem)
    | some found =>
      have hfound : found.name = name := by simpa using List.find?_some hget
      rw [List.inj_on_of_nodup_map h (List.mem_of_find?_eq_some hget) hmem (hfound.trans hname.symm)]

end Registry

/-! ## The set of names -/

/-- A registry in place: the rules, and beside them the set of the names that are taken. -/
structure IndexedRegistry where
  rules : List Rule := []
  names : Finset String := ∅

namespace IndexedRegistry

/-- Adds a rule at the end and its name to the set, unless it has no terminator or its name is in the set. The answer is the fault
for which the rule is refused. -/
def register (x : IndexedRegistry) (rule : Rule) : Option Fault × IndexedRegistry :=
  if rule.terminator.isEmpty then (some (.emptyTerminator rule.name), x)
  else if rule.name ∈ x.names then (some (.duplicateName rule.name), x)
  else (none, { rules := x.rules ++ [rule], names := insert rule.name x.names })

/-- The registry in place after the calls, on one that has no rules. -/
def ofCalls (calls : List Rule) : IndexedRegistry := calls.foldl (fun x rule => (x.register rule).2) {}

/-- The rules of a registry with the set of their names. -/
def of (g : Registry) : IndexedRegistry where
  rules := g.rules
  names := (g.rules.map (·.name)).toFinset

/-- With the set of the names of its rules, a registry in place answers as the registry does, and has that set again. -/
theorem register_of (g : Registry) (rule : Rule) :
    (of g).register rule =
      match g.register rule with
      | .ok g' => (none, of g')
      | .error fault => (some fault, of g) := by
  unfold register
  rcases g.register_cases rule with ⟨hterminator, hname, hok⟩ | ⟨hterminator, herror⟩ | ⟨hterminator, hname, herror⟩
  · have hnew : rule.name ∉ (of g).names := by rwa [of, List.mem_toFinset]
    have hnames : insert rule.name (of g).names = (of { rules := g.rules ++ [rule] }).names := by
      ext name
      simp only [of, Finset.mem_insert, List.mem_toFinset, List.map_append, List.map_singleton, List.mem_append,
        List.mem_singleton]
      exact or_comm
    simp only [hok, String.isEmpty_iff, hterminator, hnew, if_false, hnames]
    rfl
  · simp only [herror, String.isEmpty_iff, hterminator, if_true]
  · have htaken : rule.name ∈ (of g).names := by rwa [of, List.mem_toFinset]
    simp only [herror, String.isEmpty_iff, hterminator, htaken, if_false, if_true]

/-- After any calls a registry in place has the rules of the registry, and the set of their names. -/
theorem ofCalls_eq (calls : List Rule) : ofCalls calls = of (.ofCalls calls) := by
  induction calls using List.reverseRecOn with
  | nil => rfl
  | append_singleton calls rule ih =>
    have hlast : ofCalls (calls ++ [rule]) = ((ofCalls calls).register rule).2 := List.foldl_concat ..
    rw [hlast, ih, register_of, Registry.ofCalls_concat, Registry.afterCall]
    cases (Registry.ofCalls calls).register rule <;> rfl

end IndexedRegistry

/-- A registry keeps the first usable rule of each name. After any calls it holds, in their order, the rules with a terminator of
which no rule with a terminator before has the name. The set of names that a registry in place keeps is that of the names of its
rules, and no two of them have one name. One more call is accepted, and adds its rule at the end, if the rule has a terminator and
none that is held has its name. Otherwise it changes nothing, neither the rules nor the set, and its error says that the rule is
invalid if it has no terminator, and that it is a duplicate if it has one. A rule is found by its name if one of that name is held,
and the candidates are those of the rules held that accept the character, in the same order. -/
theorem registration_keeps_first (calls : List Rule) :
    let g := Registry.ofCalls calls
    let x := IndexedRegistry.ofCalls calls
    g.rules = Rule.firstUsable calls ∧ x.rules = g.rules ∧ x.names = (g.rules.map (·.name)).toFinset ∧
    (g.rules.map (·.name)).Nodup ∧
    (∀ rule,
      (rule.terminator ≠ "" ∧ rule.name ∉ g.rules.map (·.name) ∧
        (Registry.ofCalls (calls ++ [rule])).rules = g.rules ++ [rule] ∧
        g.register rule = .ok (.ofCalls (calls ++ [rule])) ∧ x.register rule = (none, .ofCalls (calls ++ [rule]))) ∨
      ∃ fault, Registry.ofCalls (calls ++ [rule]) = g ∧ g.register rule = .error fault ∧ x.register rule = (some fault, x) ∧
        (rule.terminator = "" ∧ fault.toError.code = .single .invalidRule ∨
          rule.terminator ≠ "" ∧ rule.name ∈ g.rules.map (·.name) ∧ fault.toError.code = .single .duplicateRule)) ∧
    (∀ name rule, g.get? name = some rule ↔ rule ∈ g.rules ∧ rule.name = name) ∧
    ∀ c i text, g.candidates c i text = (Rule.firstUsable calls).filter (·.accepts c i text) := by
  intro g x
  have hrules : g.rules = Rule.firstUsable calls := Registry.rules_ofCalls calls
  have hx : x = .of g := IndexedRegistry.ofCalls_eq calls
  have hnodup : (g.rules.map (·.name)).Nodup := hrules ▸ Rule.nodup_names_firstUsable calls
  refine ⟨hrules, by rw [hx]; rfl, by rw [hx]; rfl, hnodup, fun rule => ?_, fun name rule => Registry.get?_eq_some_iff hnodup, ?_⟩
  · have hcall := IndexedRegistry.register_of g rule
    have hafter : Registry.ofCalls (calls ++ [rule]) = g.afterCall rule := Registry.ofCalls_concat calls rule
    rw [← hx] at hcall
    rw [IndexedRegistry.ofCalls_eq (calls ++ [rule]), hafter, Registry.afterCall]
    rcases g.register_cases rule with ⟨hterminator, hname, hok⟩ | ⟨hterminator, herror⟩ | ⟨hterminator, hname, herror⟩
    · rw [hok] at hcall ⊢
      exact Or.inl ⟨hterminator, hname, rfl, rfl, hcall⟩
    · rw [herror] at hcall ⊢
      exact Or.inr ⟨_, rfl, rfl, hcall, Or.inl ⟨hterminator, rfl⟩⟩
    · rw [herror] at hcall ⊢
      exact Or.inr ⟨_, rfl, rfl, hcall, Or.inr ⟨hterminator, hname, rfl⟩⟩
  · intro c i text
    rw [← hrules]
    rfl

-- The first rule has no terminator and does not take its name, so that the second is accepted and the third is a duplicate.
example :
    let calls : List Rule := [{ name := "a", symbol := "x", terminator := "" }, { name := "a", symbol := "y", terminator := "1" },
      { name := "a", symbol := "z", terminator := "2" }, { name := "b", symbol := "x", terminator := "3" }]
    (Registry.ofCalls calls).rules.map (·.symbol) = ["y", "x"] ∧ (IndexedRegistry.ofCalls calls).names = {"a", "b"} := by
  decide

end RuleScanner
