import RuleScanner.FlagSet
import RuleScanner.Text.Location

/-!
# Conditions, codes and errors

A condition is one way in which registering a rule or scanning a text can fail. A code is a set of conditions, and an error is
a code with a message and, where there is one, a location. Two errors are the same error when they have the same code,
whatever their messages say. Errors combine: codes are united, messages are joined in order, and the first location is kept.
-/

namespace RuleScanner

/-- The conditions under which registering a rule or scanning a text fails. -/
inductive Condition where
  /-- A failure of no known kind. -/
  | unknown
  /-- A rightward activation is still open at the end. -/
  | unterminatedRight
  /-- A leftward activation is still open at the end. -/
  | unterminatedLeft
  /-- A rule of the same name is registered. -/
  | duplicateRule
  /-- The rule cannot be used. -/
  | invalidRule
  /-- The scan has used up its steps. -/
  | stepLimit
  deriving DecidableEq, Repr

instance : Flag Condition where
  title := "ErrorCode"
  members := [.unknown, .unterminatedRight, .unterminatedLeft, .duplicateRule, .invalidRule, .stepLimit]
  position
    | .unknown => 0
    | .unterminatedRight => 1
    | .unterminatedLeft => 2
    | .duplicateRule => 3
    | .invalidRule => 4
    | .stepLimit => 5
  name
    | .unknown => "UNKNOWN"
    | .unterminatedRight => "UNTERMINATED_RIGHT"
    | .unterminatedLeft => "UNTERMINATED_LEFT"
    | .duplicateRule => "DUPLICATE_RULE"
    | .invalidRule => "INVALID_RULE"
    | .stepLimit => "STEP_LIMIT"

/-- What a condition says about itself. -/
def Condition.message : Condition → String
  | .unknown => "unknown error"
  | .unterminatedRight => "unterminated construct: terminator not found before end of text"
  | .unterminatedLeft => "unterminated construct: terminator not found before start of text"
  | .duplicateRule => "a rule with this name is already registered"
  | .invalidRule => "invalid rule descriptor"
  | .stepLimit => "scan stopped after exceeding its step limit"

/-- A set of conditions. -/
abbrev ErrorCode : Type := FlagSet Condition

namespace ErrorCode

/-- The conditions that report a construct without an end, in either direction. -/
def unterminated : ErrorCode := .single .unterminatedRight ∪ .single .unterminatedLeft

/-- The code reports a construct without an end. -/
def isUnterminated (code : ErrorCode) : Bool := code.intersects unterminated

/-- The message of the lowest condition of the code. -/
def message (code : ErrorCode) : String :=
  match code.toList with
  | [] => "no error"
  | condition :: _ => condition.message

/-- The names of the code's conditions joined by bars. Bits without a name are not written. -/
def summary (code : ErrorCode) : String :=
  if code.isEmpty then "NONE" else "|".intercalate (code.toList.map Flag.name)

end ErrorCode

/-- A code with a message and the location that it refers to. -/
structure ScanError where
  code : ErrorCode
  message : String
  location : Option Location := none
  deriving Inhabited

namespace ScanError

/-- Two errors are the same error when their codes are equal. -/
instance : BEq ScanError := ⟨fun a b => a.code == b.code⟩

/-- The error of a code, with the message of its lowest condition. -/
def ofCode (code : ErrorCode) : ScanError := { code, message := code.message }

/-- The error at a location. -/
def locatedAt (e : ScanError) (location : Location) : ScanError := { e with location := some location }

/-- The error shares a condition with `code`. -/
def intersects (e : ScanError) (code : ErrorCode) : Bool := e.code.intersects code

/-- Two messages in order. An empty message leaves no trace. -/
def joinMessages (a b : String) : String :=
  if a.isEmpty then b else if b.isEmpty then a else s!"{a}; {b}"

/-- Both errors as one: the conditions of either, the messages in order, and the first location. -/
protected def append (a b : ScanError) : ScanError where
  code := a.code ∪ b.code
  message := joinMessages a.message b.message
  location := a.location <|> b.location

instance : Append ScanError := ⟨ScanError.append⟩

/-- The error with the conditions of `code` added. The message does not change. -/
def addCode (e : ScanError) (code : ErrorCode) : ScanError := { e with code := e.code ∪ code }

/-- The error with the conditions of `code` only. The message does not change. -/
def maskCode (e : ScanError) (code : ErrorCode) : ScanError := { e with code := e.code ∩ code }

/-- All errors of a list as one, if there is any. -/
def combine : List ScanError → Option ScanError
  | [] => none
  | e :: rest => some (rest.foldl (· ++ ·) e)

/-- The text of an error: its message, and its conditions in brackets. -/
def render (e : ScanError) : String := s!"{e.message} [{e.code.summary}]"

end ScanError

end RuleScanner
