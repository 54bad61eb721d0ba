import RuleScanner.Tokenizer

/-!
# Log lines

What a registration or a scan leaves in the log. A line has a level, the part of the program that it is about, a message and
fields. A filter lets through the lines of one part, or of all, up to a level.
-/

namespace RuleScanner

/-- How much detail a log line gives, from little to much. -/
inductive Level where
  | error
  | warn
  | info
  | debug
  | trace
  deriving DecidableEq, Repr

namespace Level

/-- The place of a level in the order of detail. -/
def rank : Level → Nat
  | .error => 1
  | .warn => 2
  | .info => 3
  | .debug => 4
  | .trace => 5

/-- The name of a level, at five places. -/
def render : Level → String
  | .error => "ERROR"
  | .warn => " WARN"
  | .info => " INFO"
  | .debug => "DEBUG"
  | .trace => "TRACE"

end Level

/-- The part of the program that a log line is about. -/
inductive LogTarget where
  | registry
  | scan
  | command
  deriving DecidableEq, Repr

/-- The name of a part of the program. -/
def LogTarget.render : LogTarget → String
  | .registry => "rara_tokenizer::registry"
  | .scan => "rara_tokenizer::tokenizer"
  | .command => "rarac::commands::debug"

/-- A line of the log. -/
structure LogLine where
  level : Level
  target : LogTarget
  message : String
  fields : List (String × String)
  deriving DecidableEq, Repr

namespace LogLine

/-- The text of a line. -/
def render (line : LogLine) : String :=
  let fields := line.fields.map fun (name, value) => s!" {name}={value}"
  s!"{line.level.render} {line.target.render}: {line.message}" ++ String.join fields

/-- A rule has been registered. -/
def registered (rule : Rule) : LogLine where
  level := .debug
  target := .registry
  message := "registering rule"
  fields := [("rule", Quoted.text rule.name), ("symbol", Quoted.text rule.symbol),
    ("terminator", Quoted.text rule.terminator), ("direction", rule.direction.render)]

/-- A comment has been jumped over. -/
def skipped (skip : Skip) : LogLine where
  level := .trace
  target := .scan
  message := match skip.direction with
    | .right => "skipping comment"
    | .left => "skipping comment leftward"
  fields := [("from", toString skip.origin), ("to", toString skip.target)]

/-- A character is visited. -/
def visited (step : Step) : LogLine where
  level := .trace
  target := .scan
  message := "step"
  fields := [("index", toString step.index), ("c", Quoted.char step.char), ("line", toString step.point.line),
    ("column", toString step.point.column), ("direction", step.direction.render)]

/-- An activation has been opened. -/
def opened (a : Activation) : LogLine where
  level := .debug
  target := .scan
  message := "opened"
  fields := [("rule", Quoted.text a.rule.name), ("direction", a.rule.direction.render),
    ("location", a.location.render)]

/-- An activation has been closed. -/
def closed (a : Activation) : LogLine where
  level := .debug
  target := .scan
  message := "closed"
  fields := [("rule", Quoted.text a.rule.name), ("location", a.location.render)]

/-- A scan has been cut off. -/
def exhausted (budget index : Nat) : LogLine where
  level := .debug
  target := .scan
  message := "step budget exhausted"
  fields := [("budget", toString budget), ("index", toString index)]

/-- A scan is over. -/
def finished (s : Scan) : LogLine where
  level := .debug
  target := .scan
  message := "scan finished"
  fields := [("tokens", toString s.tokens.length), ("steps", toString s.steps.size), ("open", toString s.stack.size)]

/-- A command ends with the error of a scan. -/
def failed (code : ErrorCode) : LogLine where
  level := .debug
  target := .command
  message := "scan failed"
  fields := [("code", code.summary)]

end LogLine

/-- The log of a step: the comments before it, the character, and the activations opened and closed. -/
def Step.log (step : Step) : List LogLine :=
  step.skipped.map .skipped ++ [.visited step] ++ step.opened.map .opened ++ step.closed.map .closed

/-- The log of a scan. -/
def Scan.log (s : Scan) : List LogLine :=
  let cut := match s.cutOff with
    | some (.stepLimit budget index _) => [LogLine.exhausted budget index]
    | _ => []
  s.steps.toList.flatMap Step.log ++ s.skipped.map .skipped ++ cut ++ [.finished s]

/-- Which lines are written: those of parts whose name begins with `target`, up to a level. -/
structure LogFilter where
  target : String
  level : Level
  deriving DecidableEq, Repr

namespace LogFilter

/-- The level of a name. -/
def level? (name : String) : Option Level :=
  match name.toLower with
  | "error" => some .error
  | "warn" => some .warn
  | "info" => some .info
  | "debug" => some .debug
  | "trace" => some .trace
  | _ => none

/-- Reads a filter: a level, or the name of a part, an equals sign and a level. Nothing is written for any other text. -/
def parse? (text : String) : Option LogFilter :=
  match text.splitOn "=" with
  | [level] => (level? level).map fun level => { target := "", level }
  | [target, level] => (level? level).map fun level => { target, level }
  | _ => none

/-- The filter lets a line through. -/
def accepts (f : LogFilter) (line : LogLine) : Bool :=
  line.level.rank ≤ f.level.rank && f.target.isPrefixOf line.target.render

end LogFilter

end RuleScanner
