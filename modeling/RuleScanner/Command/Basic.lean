import RuleScanner.Command.Log
import RuleScanner.Command.ReadError
import RuleScanner.Demo

/-!
# Commands

The command line as a function: from the arguments, a way to read files and a log filter to what is written and the exit
status. Tokens go to the output; the log and errors go to the error output, in the order in which they arise.
-/

namespace RuleScanner

/-- What a command writes, and its exit status. -/
structure Outcome where
  status : UInt32 := 0
  output : String := ""
  errors : String := ""
  deriving DecidableEq, Repr

/-- Why a command fails. -/
inductive CommandError where
  /-- The file cannot be read. -/
  | read (path : String) (cause : ReadError)
  /-- The rules of the demonstration language cannot be registered. -/
  | rules (fault : Fault)
  /-- The scan of the file has failed. -/
  | scan (path : String) (error : ScanError)

/-- The wording of a command's failure. -/
def CommandError.message : CommandError → String
  | .read path cause => s!"cannot read '{path}': {cause.message}"
  | .rules fault => s!"cannot build rule set: {fault.toError.render}"
  | .scan path error => s!"tokenizing '{path}' failed: {error.render}"

/-- What a command has written so far, and the error that it has ended with. -/
structure Report where
  lines : List String := []
  log : List LogLine := []
  error : Option CommandError := none

namespace Command

/-- Lines of text, each ended. -/
def lines (ls : List String) : String := String.join (ls.map (· ++ "\n"))

/-- How the program is used. -/
def usage : List String :=
  ["Rara tokenizer", "", "Usage: rara <command> [options]", "", "Commands:",
    "  lex <file>    Tokenize a file and display tokens",
    "  rules         List the built-in rule set",
    "  help          Show this help message",
    "  version       Show version information", "",
    "Set RUST_LOG (e.g. RUST_LOG=rara_tokenizer=debug) for scan tracing."]

/-- The version of the program. -/
def version : String := "0.1.0"

/-- A text filled up with spaces to a width. -/
def padRight (s : String) (width : Nat) : String := s ++ String.ofList (List.replicate (width - s.length) ' ')

/-- The line of a rule in the list of rules. -/
def ruleLine (rule : Rule) : String :=
  let name := padRight rule.name 12
  let arrow := match rule.direction with
    | .right => "->"
    | .left => "<-"
  let trigger := padRight ((rule.trigger.map Quoted.char).getD "any") 5
  let terminator := (rule.terminatorChar.map Quoted.char).getD "none"
  let matcher := if rule.matcher.isSome then " (matcher)" else ""
  s!"  {name} {arrow} open {trigger} close {terminator}{matcher}"

/-- Lists the rules of the demonstration language. -/
def listRules : Report :=
  match Demo.tokenizer with
  | .error fault => { error := some (.rules fault) }
  | .ok t =>
    let rules := t.registry.rules
    { lines := s!"Rules ({rules.length} registered, `{Demo.commentMarker}` line comments):" :: rules.map ruleLine
      log := rules.map .registered }

/-- Scans a text of the demonstration language. `path` is where it was found. -/
def lexText (path text : String) : Report :=
  match Demo.tokenizer with
  | .error fault => { error := some (.rules fault) }
  | .ok t =>
    let scan := (t.tokenize text.toList).last
    let outcome := if scan.error?.isSome then " before the error" else ""
    { lines := s!"Tokens for '{path}' ({scan.tokens.length} tokens{outcome}):" ::
        scan.tokens.map fun token => "  " ++ token.render
      log := t.registry.rules.map .registered ++ scan.log ++
        scan.error?.toList.map fun error => .failed error.code
      error := scan.error?.map (.scan path) }

/-- Scans the file under a path. -/
def lexFile (read : String → Except ReadError ByteArray) (path : String) : Report :=
  match read path with
  | .error cause => { error := some (.read path cause) }
  | .ok content =>
    match String.fromUTF8? content with
    | some text => lexText path text
    | none => { error := some (.read path .notText) }

/-- What is written of a report. An error stands after an empty line, and the exit status tells of it. -/
def finish (filter : Option LogFilter) (report : Report) : Outcome :=
  let log := report.log.filter fun line => filter.any (·.accepts line)
  { status := if report.error.isSome then 1 else 0
    output := lines report.lines
    errors := lines (log.map LogLine.render) ++
      match report.error with
      | some error => lines ["", s!"error: {error.message}"]
      | none => "" }

/-- Runs the command that the arguments name. -/
def run (read : String → Except ReadError ByteArray) (filter : Option LogFilter) : (arguments : List String) → Outcome
  | [] => { output := lines usage }
  | command :: arguments =>
    match command with
    | "lex" =>
      match arguments with
      | path :: _ => finish filter (lexFile read path)
      | [] => { status := 1, errors := lines ["Usage: rara lex <file>"] }
    | "rules" => finish filter listRules
    | "help" | "--help" | "-h" => { output := lines usage }
    | "version" | "--version" | "-v" => { output := lines [s!"Rara tokenizer {version}"] }
    | _ => { status := 1, output := lines usage, errors := lines [s!"Unknown command: {command}", ""] }

end Command

end RuleScanner
