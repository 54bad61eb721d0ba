import RuleScanner.Scan.History

/-!
# Tokenizers

A tokenizer holds rules, a treatment of blanks and comments, and a configuration, and scans any number of texts with them.
Each scan starts anew. The last one is kept, so that it can be looked at.
-/

namespace RuleScanner

/-- A scan that has failed, with the tokens that it has found all the same. -/
structure ScanFailure where
  tokens : List Token
  error : ScanError

/-- The text of a failure. -/
def ScanFailure.render (f : ScanFailure) : String := s!"tokenizing failed after {f.tokens.length} token(s)"

/-- The tokens of a scan in which nothing has gone wrong, or the failure. -/
def Scan.result (s : Scan) : Except ScanFailure (List Token) :=
  match s.error? with
  | none => .ok s.tokens
  | some error => .error { tokens := s.tokens, error }

/-- Rules, a treatment of blanks and comments, and a configuration, with the last scan made. -/
structure Tokenizer where
  registry : Registry := {}
  trivia : Trivia := .none
  config : Config := {}
  last : Scan := {}

namespace Tokenizer

/-- A tokenizer without rules. -/
def withTrivia (trivia : Trivia) : Tokenizer := { trivia }

/-- Adds a rule, unless the registry refuses it. -/
def register (t : Tokenizer) (rule : Rule) : Except Fault Tokenizer :=
  (t.registry.register rule).map fun registry => { t with registry }

/-- Adds rules in order, up to the first that the registry refuses. -/
def registerAll (t : Tokenizer) (rules : List Rule) : Except Fault Tokenizer := rules.foldlM register t

/-- The tokenizer with another configuration. -/
def configure (t : Tokenizer) (config : Config) : Tokenizer := { t with config }

/-- Scans a text and keeps the scan. -/
def tokenize (t : Tokenizer) (text : Text) : Tokenizer :=
  { t with last := Scan.ofText t.registry t.trivia t.config text }

end Tokenizer

end RuleScanner
