import RuleScanner.Proofs.Ledger

/-!
# Using a tokenizer again

A tokenizer scans one text after the other, and between two scans rules may be registered and the configuration changed. A scan
in place has one workspace for all of them: it writes to the stack, the tokens, the visited characters and the records as it goes,
finds the record of an activation by its number, and leaves all four behind. Before the next scan the workspace is cleared
(`Workspace.clear`).

A scan in place comes to what the scan of the text has found, told by its steps (`Workspace.run_of`). So nothing of what a
tokenizer was used for before shows in a scan, other than the rules that were accepted and the configuration that was set last.
-/

namespace RuleScanner

/-! ## Scans in place -/

/-- What a scan in place writes to: the stack with its count of pushes, the tokens, the index, the character and the point of each
step, and the records. -/
structure Workspace where
  stack : Stack := {}
  tokens : Array Token := #[]
  visited : Array (Nat × Char × Point) := #[]
  records : History := #[]

namespace Workspace

/-- Takes away what a scan has left: all that is on the stack, the count of its pushes, and all that was noted. -/
def clear (w : Workspace) : Workspace :=
  { w with stack := { w.stack with items := [], pushed := 0 }, tokens := #[], visited := #[], records := #[] }

/-- Opens the rule at `p` on step `n`, and starts a record. -/
def push (w : Workspace) (n : Nat) (p : Point) (rule : Rule) : Workspace :=
  { w with stack := w.stack.push rule p, records := w.records.opened n (w.stack.next rule p) }

/-- Notes on step `n` that the activation is closed, in the record at its number and by its token. -/
def emit (n : Nat) (w : Workspace) (a : Activation) : Workspace :=
  { w with records := w.records.closed n a, tokens := w.tokens.push a.token }

/-- Opens the rules in order on step `n`, but for those of which an activation is among `closed`. Each turns the cursor. -/
def pushAll (n : Nat) (closed : List Activation) (rules : List Rule) (w : Workspace) (k : Cursor) : Workspace × Cursor :=
  match rules with
  | [] => (w, k)
  | rule :: rules =>
    if closed.any (·.rule.name == rule.name) then pushAll n closed rules w k
    else pushAll n closed rules (w.push n k.point rule) (k.face rule.direction)

section

variable (registry : Registry) (trivia : Trivia) (text : Text)

/-- The step on the character `c` under the cursor. -/
def visit (c : Char) (k : Cursor) (w : Workspace) : Workspace × Cursor :=
  let n := w.visited.size
  let blank := if Unicode.isWhiteSpace c then trivia.blankToken c (.point k.point) else none
  let closed := w.stack.closing c k.point
  let w := { w with stack := w.stack.close c, tokens := w.tokens ++ blank.toList
                    visited := w.visited.push (k.index, c, k.point) }
  let (w, k) := pushAll n closed (registry.candidates c k.index text) w k
  (closed.foldl (emit n) w, k)

/-- Goes on with a scan in place of at most `budget` steps that has `left` of them left. The answer is what it leaves, and the
fault that has cut it off, if one has. -/
def run (budget : Nat) : (left : Nat) → Cursor → Workspace → Workspace × Option Fault
  | left, k, w =>
    match left, Scan.settle trivia text k with
    | _, (_, none, _) => (w, none)
    | 0, (_, some _, k) => (w, some (.stepLimit budget k.index k.point))
    | left + 1, (_, some c, k) =>
      let (w, k) := w.visit registry trivia text c k
      if k.atLeftEdge then (w, none) else run budget left (k.advance text).2 w

end

/-- The tokens, or the failure, of a scan in place that has left the workspace and may have been cut off. -/
def result (w : Workspace) (cutOff : Option Fault) : Except ScanFailure (List Token) :=
  match ScanError.combine ((cutOff.toList ++ w.stack.toList.map Scan.unclosed).map Fault.toError) with
  | none => .ok w.tokens.toList
  | some error => .error { tokens := w.tokens.toList, error }

/-- The workspace that steps and a stack amount to. -/
def of (stack : Stack) (steps : Array Step) : Workspace where
  stack
  tokens := (steps.toList.flatMap Step.tokens).toArray
  visited := steps.map fun step => (step.index, step.char, step.point)
  records := History.addAll #[] 0 steps.toList

/-- A cleared workspace is that of no steps. -/
theorem clear_eq (w : Workspace) : w.clear = of .empty #[] := by
  simp [clear, of, History.addAll, Stack.empty]

/-! ### A step in place -/

/-- Rules are opened in place as they are opened one after the other on the stack, and the last one gives the direction. -/
theorem pushAll_eq (n : Nat) (closed : List Activation) (rules : List Rule) (w : Workspace) (k : Cursor) :
    pushAll n closed rules w k =
      let opened := Scan.openAll k.point (rules.filter fun rule => !closed.any (·.rule.name == rule.name)) w.stack
      ({ w with stack := opened.2, records := opened.1.foldl (History.opened n) w.records },
        k.face ((opened.1.getLast?.map (·.rule.direction)).getD k.direction)) := by
  induction rules generalizing w k with
  | nil => rfl
  | cons rule rules ih =>
    rw [pushAll]
    split
    · next h => rw [ih, List.filter_cons_of_neg (by simp [h])]
    · next h =>
      rw [ih, List.filter_cons_of_pos (by simp [h])]
      simp only [Scan.openAll, push, Cursor.face, List.foldl_cons, List.getLast?_cons, Option.map_some, Option.getD_some]
      congr 2
      cases (Scan.openAll k.point _ (w.stack.push rule k.point)).1.getLast? <;> rfl

/-- Activations are noted in place as they are noted in the records. -/
theorem foldl_emit (n : Nat) (closed : List Activation) (w : Workspace) :
    closed.foldl (emit n) w =
      { w with records := closed.foldl (History.closed n) w.records
               tokens := w.tokens ++ closed.map Activation.token } := by
  induction closed generalizing w with
  | nil => simp
  | cons a closed ih => simp [ih, emit]

/-- A step in place notes what the step has done. -/
theorem visit_of (registry : Registry) (trivia : Trivia) (text : Text) (skipped : List Skip) (c : Char) (k : Cursor)
    (s : ScanState) :
    (of s.stack s.steps).visit registry trivia text c k =
      let s' := s.visit registry trivia text skipped c k
      (of s'.stack s'.steps, s'.cursor) := by
  have hrecords : ∀ made : Step, History.addAll #[] 0 (s.steps.push made).toList =
      made.closed.foldl (History.closed s.steps.size) (made.opened.foldl (History.opened s.steps.size)
        (History.addAll #[] 0 s.steps.toList)) := by
    intro made
    rw [Array.toList_push, History.addAll_append, Nat.zero_add, Array.length_toList]
    rfl
  have htokens : ∀ made : Step, ((s.steps.push made).toList.flatMap Step.tokens).toArray =
      (s.steps.toList.flatMap Step.tokens).toArray ++ made.blank.toList ++ made.closed.map Activation.token := by
    intro made
    simp [Step.tokens]
  have hsize : (of s.stack s.steps).visited.size = s.steps.size := Array.size_map
  rw [visit, hsize, pushAll_eq]
  simp only [foldl_emit, ScanState.visit, of, hrecords, htokens, Array.map_push]
  rfl

section

variable {registry : Registry} {trivia : Trivia} {text : Text} {skipped : List Skip} {k j : Cursor}

theorem run_over (h : Scan.settle trivia text k = (skipped, none, j)) (budget left : Nat) (w : Workspace) :
    run registry trivia text budget left k w = (w, none) :=
  run.eq_1 registry trivia text budget k w left skipped j h

theorem run_zero {c : Char} (h : Scan.settle trivia text k = (skipped, some c, j)) (budget : Nat) (w : Workspace) :
    run registry trivia text budget 0 k w = (w, some (.stepLimit budget j.index j.point)) :=
  run.eq_2 registry trivia text budget k w j skipped c h

theorem run_succ {c : Char} (h : Scan.settle trivia text k = (skipped, some c, j)) (budget left : Nat) (w : Workspace) :
    run registry trivia text budget (left + 1) k w =
      if (w.visit registry trivia text c j).2.atLeftEdge then ((w.visit registry trivia text c j).1, none)
      else run registry trivia text budget left ((w.visit registry trivia text c j).2.advance text).2
        (w.visit registry trivia text c j).1 :=
  run.eq_3 registry trivia text budget k w left c j skipped h

end

/-- A scan in place comes to what the scan has found. -/
theorem run_of (registry : Registry) (trivia : Trivia) (text : Text) (budget left : Nat) (s : ScanState) :
    run registry trivia text budget left s.cursor (of s.stack s.steps) =
      let z := Scan.run registry trivia text budget left s
      (of z.stack z.steps, z.cutOff) := by
  induction left generalizing s with
  | zero =>
    rcases hs : Scan.settle trivia text s.cursor with ⟨skipped, _ | c, k⟩
    · rw [Scan.run_over hs, run_over hs]
    · rw [Scan.run_zero hs, run_zero hs]
  | succ left ih =>
    rcases hs : Scan.settle trivia text s.cursor with ⟨skipped, _ | c, k⟩
    · rw [Scan.run_over hs, run_over hs]
    · rw [Scan.run_succ hs, run_succ hs, visit_of registry trivia text skipped]
      dsimp only
      split
      · rfl
      · exact ih ((s.visit registry trivia text skipped c k).move text)

end Workspace

/-! ## Operations -/

/-- What is done with a tokenizer. -/
inductive Operation where
  | register (rule : Rule)
  | configure (config : Config)
  | tokenize (text : Text)

namespace Operation

/-- The rules that are accepted when the operations are performed in order on a tokenizer with the registry `g`. -/
def accepted (g : Registry) : List Operation → List Rule
  | [] => []
  | .register rule :: ops =>
    match g.register rule with
    | .ok g' => rule :: accepted g' ops
    | .error _ => accepted g ops
  | _ :: ops => accepted g ops

/-- The configuration that an operation sets, if it sets one. -/
def config? : Operation → Option Config
  | .configure config => some config
  | _ => none

/-- The configuration that was set last, or the usual one. -/
def lastConfig (ops : List Operation) : Config := (ops.filterMap config?).getLast?.getD {}

end Operation

namespace Tokenizer

/-- Performs an operation. A rule that is refused changes nothing. -/
def perform (t : Tokenizer) : Operation → Tokenizer
  | .register rule =>
    match t.register rule with
    | .ok t' => t'
    | .error _ => t
  | .configure config => t.configure config
  | .tokenize text => t.tokenize text

/-- Registering rules changes the registry alone. -/
theorem registerAll_eq (rules : List Rule) (t : Tokenizer) :
    t.registerAll rules = (rules.foldlM Registry.register t.registry).map fun registry => { t with registry } := by
  induction rules generalizing t with
  | nil => rfl
  | cons rule rules ih =>
    rw [registerAll, List.foldlM_cons, List.foldlM_cons, register]
    cases h : t.registry.register rule with
    | error fault => rfl
    | ok g => exact ih { t with registry := g }

/-- The registry holds what it has accepted, in order. -/
theorem foldlM_register_accepted (ops : List Operation) (t : Tokenizer) :
    (Operation.accepted t.registry ops).foldlM Registry.register t.registry = .ok (ops.foldl perform t).registry := by
  induction ops generalizing t with
  | nil => rfl
  | cons op ops ih =>
    cases op with
    | register rule =>
      rw [List.foldl_cons, Operation.accepted, perform, register]
      cases h : t.registry.register rule with
      | error fault => exact ih t
      | ok g =>
        dsimp only [Except.map]
        rw [List.foldlM_cons, h]
        exact ih { t with registry := g }
    | configure config => exact ih (t.configure config)
    | tokenize text => exact ih (t.tokenize text)

/-- No operation changes the treatment of blanks and comments. -/
theorem trivia_foldl_perform (ops : List Operation) (t : Tokenizer) : (ops.foldl perform t).trivia = t.trivia := by
  induction ops generalizing t with
  | nil => rfl
  | cons op ops ih =>
    rw [List.foldl_cons, ih]
    cases op with
    | register rule =>
      rw [perform, register]
      cases t.registry.register rule <;> rfl
    | configure config => rfl
    | tokenize text => rfl

/-- The configuration is the one that was set last. -/
theorem config_foldl_perform (ops : List Operation) (t : Tokenizer) :
    (ops.foldl perform t).config = (ops.filterMap Operation.config?).getLast?.getD t.config := by
  induction ops generalizing t with
  | nil => rfl
  | cons op ops ih =>
    rw [List.foldl_cons, ih]
    cases op with
    | register rule =>
      rw [perform, register]
      cases t.registry.register rule <;> rfl
    | configure config =>
      have hset : Operation.config? (.configure config) = some config := rfl
      rw [List.filterMap_cons_some hset, List.getLast?_cons]
      rfl
    | tokenize text => rfl

end Tokenizer

/-- A tokenizer with the workspace in which it scans. -/
structure Session where
  tokenizer : Tokenizer
  workspace : Workspace := {}

namespace Session

/-- Clears the workspace and scans a text in it. The answer is what the scan yields and what it leaves in the workspace. -/
def scan (s : Session) (text : Text) : Except ScanFailure (List Token) × Workspace :=
  let t := s.tokenizer
  let budget := t.config.budget text.length
  let start := ((Cursor.initial t.config.memory).enter text).2
  let (w, cutOff) := Workspace.run t.registry t.trivia text budget budget start s.workspace.clear
  (w.result cutOff, w)

/-- Performs an operation. Scans go on in the workspace that those before have left. -/
def perform (s : Session) (op : Operation) : Session where
  tokenizer := s.tokenizer.perform op
  workspace :=
    match op with
    | .tokenize text => (s.scan text).2
    | _ => s.workspace

/-- Whatever is in the workspace, a scan in it yields and leaves what the scan of the text has found. -/
theorem scan_eq (s : Session) (text : Text) :
    s.scan text =
      let z := (s.tokenizer.tokenize text).last
      (z.result, .of z.stack z.steps) := by
  have hrun := Workspace.run_of s.tokenizer.registry s.tokenizer.trivia text (s.tokenizer.config.budget text.length)
    (s.tokenizer.config.budget text.length) { cursor := ((Cursor.initial s.tokenizer.config.memory).enter text).2 }
  rw [scan, s.workspace.clear_eq]
  dsimp only at hrun ⊢
  rw [show Stack.empty = ({} : Stack) from rfl, hrun]
  rfl

/-- A session has the tokenizer on which the operations were performed. -/
theorem tokenizer_foldl_perform (ops : List Operation) (s : Session) :
    (ops.foldl perform s).tokenizer = ops.foldl Tokenizer.perform s.tokenizer := by
  induction ops generalizing s with
  | nil => rfl
  | cons op ops ih => exact ih (s.perform op)

end Session

/-- Nothing leaks from one scan to the next. Whatever was done with a tokenizer before, rules accepted or refused, configurations
set and texts scanned in one workspace, with success or not, the next scan yields the same, and leaves the same tokens, open
activations with the same numbers, visited characters and records, as on a fresh tokenizer with the same treatment of blanks and
comments, on which the accepted rules were registered in order and the last configuration was set. -/
theorem tokenize_unaffected (trivia : Trivia) (ops : List Operation) (text : Text) :
    ∃ fresh, (Tokenizer.withTrivia trivia).registerAll (Operation.accepted {} ops) = .ok fresh ∧
      let used := ops.foldl Session.perform { tokenizer := .withTrivia trivia }
      let clean : Session := { tokenizer := fresh.configure (Operation.lastConfig ops) }
      let s := (clean.tokenizer.tokenize text).last
      used.scan text = clean.scan text ∧ (used.tokenizer.tokenize text).last = s ∧
      (used.scan text).1 = s.result ∧
      (used.scan text).2.tokens.toList = s.tokens ∧
      (used.scan text).2.stack.toList = s.openActivations ∧
      (used.scan text).2.visited.toList = s.steps.toList.map (fun step => (step.index, step.char, step.point)) ∧
      (used.scan text).2.records = s.history := by
  have hregistry := Tokenizer.foldlM_register_accepted ops (.withTrivia trivia)
  have hall := Tokenizer.registerAll_eq (Operation.accepted {} ops) (.withTrivia trivia)
  rw [show (Tokenizer.withTrivia trivia).registry = {} from rfl] at hregistry hall
  rw [hregistry] at hall
  refine ⟨_, hall, ?_⟩
  intro used clean s
  have htokenizer : used.tokenizer = ops.foldl Tokenizer.perform (.withTrivia trivia) := Session.tokenizer_foldl_perform ops _
  have hlast : (used.tokenizer.tokenize text).last = s := by
    rw [htokenizer, Tokenizer.tokenize, Tokenizer.trivia_foldl_perform, Tokenizer.config_foldl_perform]
    rfl
  have hused := used.scan_eq text
  have hclean := clean.scan_eq text
  rw [hlast] at hused
  refine ⟨hused.trans hclean.symm, hlast, ?_⟩
  rw [hused]
  refine ⟨rfl, rfl, rfl, ?_, rfl⟩
  exact Array.toList_map

end RuleScanner
