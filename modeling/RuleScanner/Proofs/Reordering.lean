import RuleScanner.Proofs.DemoRules

/-!
# The order of registration

Rules are accepted if each of them has a terminator and no two have one name (`Tokenizer.registerAll_eq_ok_iff`), and that does
not depend on their order. A step asks the registry for nothing but its candidates, in the order of their registration. So
registries with the same candidates on each character of a text lead to the same scan of it (`Scan.ofText_congr`). Rules that
never compete give each character one candidate at most, and in whatever order they are registered it is the same
(`filter_eq_of_perm`).
-/

namespace RuleScanner

/-! ## Accepted rules -/

namespace Registry

/-- A rule is accepted if it has a terminator and its name is not taken. -/
theorem register_eq_ok_iff {g g' : Registry} {rule : Rule} :
    g.register rule = .ok g' ↔
      rule.terminator ≠ "" ∧ rule.name ∉ g.rules.map (·.name) ∧ g' = { rules := g.rules ++ [rule] } := by
  have htaken : g.hasName rule.name ↔ rule.name ∈ g.rules.map (·.name) := by simp [hasName]
  unfold register
  by_cases hterminator : rule.terminator = ""
  · simp [hterminator]
  · by_cases hname : rule.name ∈ g.rules.map (·.name)
    · simp [hterminator, htaken.2 hname, hname]
    · simp only [String.isEmpty_iff, hterminator, if_false, htaken, hname, Except.ok.injEq, ne_eq, not_false_eq_true, true_and]
      exact eq_comm

/-- Rules are accepted after those that are registered if each has a terminator and no two of all have one name. -/
theorem foldlM_register_eq_ok_iff {rules : List Rule} {g g' : Registry} (hg : (g.rules.map (·.name)).Nodup) :
    rules.foldlM register g = .ok g' ↔ (∀ rule ∈ rules, rule.terminator ≠ "") ∧
      ((g.rules ++ rules).map (·.name)).Nodup ∧ g' = { rules := g.rules ++ rules } := by
  induction rules generalizing g with
  | nil =>
    show Except.ok g = Except.ok g' ↔ _
    simp only [Except.ok.injEq, List.not_mem_nil, false_implies, implies_true, List.append_nil, hg, true_and]
    exact eq_comm
  | cons rule rules ih =>
    have hfront : ∀ names : List String, (g.rules.map (·.name) ++ rule.name :: names).Nodup → rule.name ∉ g.rules.map (·.name) :=
      fun names hnodup hmem => (List.nodup_append.1 hnodup).2.2 _ hmem _ List.mem_cons_self rfl
    rw [List.foldlM_cons]
    cases hrule : g.register rule with
    | error fault =>
      refine iff_of_false nofun ?_
      rintro ⟨hterminators, hnodup, -⟩
      have hok := register_eq_ok_iff.2 ⟨hterminators rule List.mem_cons_self, hfront (rules.map (·.name)) (by simpa using hnodup),
        rfl⟩
      rw [hrule] at hok
      cases hok
    | ok g₁ =>
      have hnames := nodup_names_register hrule hg
      obtain ⟨hterminator, -, rfl⟩ := register_eq_ok_iff.1 hrule
      refine (ih hnames).trans ?_
      rw [List.forall_mem_cons, List.append_assoc, List.singleton_append, and_assoc]
      simp only [ne_eq, hterminator, not_false_eq_true, true_and]

end Registry

/-- Rules are accepted by a tokenizer without rules if each has a terminator and no two have one name. -/
theorem Tokenizer.registerAll_eq_ok_iff {trivia : Trivia} {rules : List Rule} {t : Tokenizer} :
    (withTrivia trivia).registerAll rules = .ok t ↔ (∀ rule ∈ rules, rule.terminator ≠ "") ∧
      (rules.map (·.name)).Nodup ∧ t = { trivia, registry := { rules } } := by
  have haccepted : ∀ g, rules.foldlM Registry.register (withTrivia trivia).registry = .ok g ↔
      (∀ rule ∈ rules, rule.terminator ≠ "") ∧ (rules.map (·.name)).Nodup ∧ g = { rules } := fun g =>
    Registry.foldlM_register_eq_ok_iff .nil
  rw [registerAll_eq]
  cases hg : rules.foldlM Registry.register (withTrivia trivia).registry with
  | error fault =>
    refine iff_of_false nofun ?_
    rintro ⟨hterminators, hnodup, -⟩
    rw [(haccepted _).2 ⟨hterminators, hnodup, rfl⟩] at hg
    cases hg
  | ok g =>
    obtain ⟨hterminators, hnodup, rfl⟩ := (haccepted g).1 hg
    simp only [Except.map, Except.ok.injEq, hnodup, true_and]
    exact ⟨fun ht => ⟨hterminators, ht.symm⟩, fun ht => ht.2.symm⟩

/-! ## Registries with the same candidates -/

namespace Scan

variable {g g' : Registry} {trivia : Trivia} {text : Text}

theorem step_congr {c : Char} {k : Cursor} (h : g.candidates c k.index text = g'.candidates c k.index text)
    (skipped : List Skip) (stack : Stack) : step g trivia text skipped c k stack = step g' trivia text skipped c k stack := by
  simp only [step, opening, h]

variable (h : ∀ (i : Nat) (c : Char), text[i]? = some c → g.candidates c i text = g'.candidates c i text)

include h

theorem run_congr (budget left : Nat) (s : ScanState) : run g trivia text budget left s = run g' trivia text budget left s := by
  have hvisit : ∀ (s : ScanState) {skipped : List Skip} {c : Char} {k : Cursor},
      settle trivia text s.cursor = (skipped, some c, k) →
      s.visit g trivia text skipped c k = s.visit g' trivia text skipped c k := by
    intro s skipped c k hs
    rw [ScanState.visit, step_congr (h k.index c (settle_char hs))]
    rfl
  induction left generalizing s with
  | zero =>
    rcases hs : settle trivia text s.cursor with ⟨skipped, _ | c, k⟩
    · rw [run_over hs, run_over hs]
    · rw [run_zero hs, run_zero hs]
  | succ left ih =>
    rcases hs : settle trivia text s.cursor with ⟨skipped, _ | c, k⟩
    · rw [run_over hs, run_over hs]
    · rw [run_succ hs, run_succ hs, hvisit s hs, ih]

/-- Registries with the same candidates on each character of a text lead to the same scan. -/
theorem ofText_congr (config : Config) : ofText g trivia config text = ofText g' trivia config text := run_congr h ..

end Scan

/-! ## Rules that never compete -/

/-- In whatever order the members of a list stand, at most one of them that is picked is picked all the same. -/
theorem filter_eq_of_perm {α : Type} {l l' : List α} (h : l.Perm l') {p : α → Bool} (hone : (l.filter p).length ≤ 1) :
    l.filter p = l'.filter p := by
  have hperm := h.filter p
  rcases hl : l.filter p with _ | ⟨a, _ | ⟨b, rest⟩⟩
  · rw [hl] at hperm
    exact hperm.nil_eq
  · rw [hl] at hperm
    exact hperm.singleton_eq
  · rw [hl] at hone
    simp at hone

/-- Rules that never compete for a text are accepted in any order, and scan it alike. -/
theorem Rule.NeverCompete.exists_registerAll {trivia : Trivia} {rules rules' : List Rule} {t : Tokenizer}
    (ht : (Tokenizer.withTrivia trivia).registerAll rules = .ok t) (hperm : rules.Perm rules') :
    ∃ t', (Tokenizer.withTrivia trivia).registerAll rules' = .ok t' ∧
      ∀ (config : Config) (text : Text), NeverCompete rules text →
        ((t'.configure config).tokenize text).last = ((t.configure config).tokenize text).last := by
  obtain ⟨hterminators, hnodup, rfl⟩ := Tokenizer.registerAll_eq_ok_iff.1 ht
  refine ⟨_, Tokenizer.registerAll_eq_ok_iff.2 ⟨fun rule hrule => hterminators rule (hperm.mem_iff.2 hrule),
    ((hperm.map _).nodup_iff).1 hnodup, rfl⟩, fun config text hapart => ?_⟩
  exact Scan.ofText_congr (fun i c hc => (filter_eq_of_perm hperm (hapart i c hc)).symm) config

/-- The order of registration does not matter for rules that never compete, whatever the treatment of blanks and comments, the
configuration and the text are. If at most one of the rules may open on each character, then they are accepted in any order, and
the scan is the same in all that it has found: its steps, what is open, its records, its tokens and its error. The rules of the
demonstration language never compete for any text. -/
theorem tokenize_reordered :
    (∀ (trivia : Trivia) (config : Config) (rules rules' : List Rule) (t : Tokenizer) (text : Text),
      (Tokenizer.withTrivia trivia).registerAll rules = .ok t → rules.Perm rules' → Rule.NeverCompete rules text →
      ∃ t', (Tokenizer.withTrivia trivia).registerAll rules' = .ok t' ∧
        ((t'.configure config).tokenize text).last = ((t.configure config).tokenize text).last) ∧
    ∃ rules t, Demo.rules = .ok rules ∧ Demo.tokenizer = .ok t ∧ rules.length = 6 ∧ (∀ text, Rule.NeverCompete rules text) ∧
      ∀ rules', rules.Perm rules' →
        ∃ t', (Tokenizer.withTrivia (.lineComments ['/', '/'])).registerAll rules' = .ok t' ∧
          ∀ (config : Config) (text : Text),
            ((t'.configure config).tokenize text).last = ((t.configure config).tokenize text).last := by
  constructor
  · intro trivia config rules rules' t text ht hperm hapart
    obtain ⟨t', ht', hsame⟩ := Rule.NeverCompete.exists_registerAll ht hperm
    exact ⟨t', ht', hsame config text hapart⟩
  · refine ⟨_, Demo.scanner, Demo.rules_eq, Demo.tokenizer_eq, rfl, Demo.neverCompete, fun rules' hperm => ?_⟩
    have hscanner : (Tokenizer.withTrivia (.lineComments ['/', '/'])).registerAll Demo.scanner.registry.rules =
        .ok Demo.scanner := Demo.tokenizer_eq
    obtain ⟨t', ht', hsame⟩ := Rule.NeverCompete.exists_registerAll hscanner hperm
    exact ⟨t', ht', fun config text => hsame config text (Demo.neverCompete text)⟩

/-- Two rules for brackets never compete for this text, and may be registered the other way round. So may the rules of the
demonstration language. -/
theorem tokenize_reordered_reversed :
    (∃ t', (Tokenizer.withTrivia .none).registerAll sharedTerminator.registry.rules.reverse = .ok t' ∧
      ((t'.configure {}).tokenize ['(', '[', ')']).last = ((sharedTerminator.configure {}).tokenize ['(', '[', ')']).last) ∧
    ∃ rules t t', Demo.rules = .ok rules ∧ Demo.tokenizer = .ok t ∧
      (Tokenizer.withTrivia (.lineComments ['/', '/'])).registerAll rules.reverse = .ok t' ∧
      ((t'.configure {}).tokenize ['x', ' ']).last = ((t.configure {}).tokenize ['x', ' ']).last := by
  obtain ⟨hgeneral, rules, t, hrules, ht, -, -, hdemo⟩ := tokenize_reordered
  have hapart : Rule.NeverCompete sharedTerminator.registry.rules ['(', '[', ')'] := by
    intro i c hc
    rcases i with _ | _ | _ | i
    · cases hc
      decide
    · cases hc
      decide
    · cases hc
      decide
    · cases hc
  constructor
  · exact hgeneral .none {} _ _ sharedTerminator _ rfl (List.reverse_perm _).symm hapart
  · obtain ⟨t', ht', hsame⟩ := hdemo rules.reverse (List.reverse_perm _).symm
    exact ⟨rules, t, t', hrules, ht, ht', hsame {} ['x', ' ']⟩

end RuleScanner
