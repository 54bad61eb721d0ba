import RuleScanner.Rule.Matcher
import RuleScanner.Tokenizer

/-!
# The demonstration language

A small language of declarations whose parts are set off by spaces, with comments from `//` to the end of the line.

    greeting :: "hello world"
    answer = 42
    <- answer

A word closes on the next space. A word at the end of a line stays open until the first space of a later line, and one at the
end of the file is never closed. A quoted literal closes on the next quotation mark.
-/

namespace RuleScanner.Demo

/-- The marker that starts a comment. -/
def commentMarker : String := "//"

/-- A rule that opens on the first character of each word that matches `pattern` as a whole, and closes on a space. -/
def wordRule (name symbol pattern : String) (labels : Labels) : Except Fault Rule := do
  let whole ← Matcher.wordPattern pattern
  return { name, symbol, terminator := " ", matcher := some (.both .wordStart whole), labels }

/-- The rules of the language, in order. -/
def rules : Except Fault (List Rule) := do
  return [
    { name := "literal", symbol := "\"", terminator := "\"", labels := { referent := some "literal" } },
    ← wordRule "identifier" "" "[A-Za-z_][A-Za-z0-9_]*" {},
    ← wordRule "value" "" "[0-9]+" {},
    ← wordRule "declaration" ":" "::" { symbol := some "decl_keyword" },
    ← wordRule "assignment" "=" "=" { referent := some "token" },
    ← wordRule "return" "<" "<-" { symbol := some "return_keyword", referent := some "token" }]

/-- The tokenizer of the language. -/
def tokenizer : Except Fault Tokenizer := do
  (Tokenizer.withTrivia (.lineComments commentMarker.toList)).registerAll (← rules)

end RuleScanner.Demo
