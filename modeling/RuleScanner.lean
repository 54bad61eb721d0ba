import RuleScanner.Error
import RuleScanner.Fault
import RuleScanner.FlagSet
import RuleScanner.Token
import RuleScanner.Text.Cursor
import RuleScanner.Text.CursorLemmas
import RuleScanner.Text.Location
import RuleScanner.Text.Quoted
import RuleScanner.Text.Trivia
import RuleScanner.Text.Word
import RuleScanner.CharSet.Lemmas
import RuleScanner.Pattern.Basic
import RuleScanner.Pattern.Spans
import RuleScanner.Pattern.SpansLemmas
import RuleScanner.Rule.Basic
import RuleScanner.Rule.Matcher
import RuleScanner.Rule.Registry
import RuleScanner.Rule.Stack
import RuleScanner.Scan.Basic
import RuleScanner.Scan.History
import RuleScanner.Tokenizer
import RuleScanner.Demo
import RuleScanner.Command.Basic
import RuleScanner.Main
import RuleScanner.Proofs.Coordinates
import RuleScanner.Proofs.Nesting
import RuleScanner.Proofs.Emission
import RuleScanner.Proofs.Validity
import RuleScanner.Proofs.Rounds
import RuleScanner.Proofs.Truncation
import RuleScanner.Proofs.LineComments
import RuleScanner.Proofs.Erasure
import RuleScanner.Proofs.Outcome
import RuleScanner.Proofs.Reuse
import RuleScanner.Proofs.Visits
import RuleScanner.Proofs.Path
import RuleScanner.Proofs.Memory
import RuleScanner.Proofs.Lines
import RuleScanner.Proofs.OneWay
import RuleScanner.Proofs.Order
import RuleScanner.Proofs.Words
import RuleScanner.Proofs.Closing
import RuleScanner.Proofs.DemoRules
import RuleScanner.Proofs.DemoScan
import RuleScanner.Proofs.DemoOutput
import RuleScanner.Proofs.Reordering
import RuleScanner.Proofs.Moves
import RuleScanner.Proofs.SingleRule
import RuleScanner.Proofs.Reading
import RuleScanner.Proofs.Readers
import RuleScanner.Proofs.Pieces
import RuleScanner.Proofs.Progress
import RuleScanner.Proofs.Sweep
import RuleScanner.Proofs.Anchoring
import RuleScanner.Proofs.Reversal
import RuleScanner.Proofs.CommentRanges
import RuleScanner.Proofs.Registration
import RuleScanner.Proofs.WordBounds
import RuleScanner.Proofs.Combination
import RuleScanner.Proofs.Legibility
import RuleScanner.Proofs.Conservation
