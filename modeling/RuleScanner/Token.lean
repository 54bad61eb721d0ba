import RuleScanner.FlagSet
import RuleScanner.Text.Location

/-!
# Tokens and their categories

A token is a span with three independent sets of categories: the built-in symbol that it is, what an identifier refers to,
and the expression that it starts. A rule names a category by a label; a label that names nothing stands for the empty set,
and the label `any` for the whole family.
-/

namespace RuleScanner

/-- A family whose flags a rule can name by a label. -/
class Category (α : Type) extends Flag α where
  label : α → String

/-- The set that a label names: one flag by its own label, the whole family by `any`, and nothing otherwise. -/
def FlagSet.ofLabel {α : Type} [Category α] (label : String) : FlagSet α :=
  match (Flag.members : List α).find? (fun a => Category.label a == label) with
  | some a => single a
  | none => if label = "any" then all else ∅

/-- Built-in tokens without blanks inside. -/
inductive SymbolKind where
  /-- The sign of a declaration, `::` or `as`. -/
  | declaration
  /-- The return from a function. -/
  | returning
  deriving DecidableEq, Repr

instance : Category SymbolKind where
  title := "Symbol"
  members := [.declaration, .returning]
  position
    | .declaration => 0
    | .returning => 1
  name
    | .declaration => "DECL_KEYWORD"
    | .returning => "RETURN_KEYWORD"
  label
    | .declaration => "decl_keyword"
    | .returning => "return_keyword"

/-- What a token that is like an identifier refers to. -/
inductive ReferentKind where
  /-- A variable or a function. -/
  | identifier
  /-- A type. -/
  | type
  /-- A keyword or a sign such as `::`. -/
  | token
  /-- Bracketed content. -/
  | value
  /-- A literal such as `true` or `3.14`. -/
  | literal
  deriving DecidableEq, Repr

instance : Category ReferentKind where
  title := "IdentifierType"
  members := [.identifier, .type, .token, .value, .literal]
  position
    | .identifier => 0
    | .type => 1
    | .token => 2
    | .value => 3
    | .literal => 4
  name
    | .identifier => "IDENTIFIER"
    | .type => "TYPE"
    | .token => "TOKEN"
    | .value => "VALUE"
    | .literal => "LITERAL"
  label
    | .identifier => "identifier"
    | .type => "type"
    | .token => "token"
    | .value => "value"
    | .literal => "literal"

/-- The expression that a token starts. -/
inductive ExpressionKind where
  /-- A name is declared, as in `a :: 2`. -/
  | declaration
  /-- A name is given a value, as in `a = 2`. -/
  | assignment
  deriving DecidableEq, Repr

instance : Category ExpressionKind where
  title := "ExpressionType"
  members := [.declaration, .assignment]
  position
    | .declaration => 0
    | .assignment => 1
  name
    | .declaration => "DECLARATION"
    | .assignment => "ASSIGNMENT"
  label
    | .declaration => "declaration"
    | .assignment => "assignment"

/-- A span of the text with its categories. A token without any category is a legal value; it is not a valid one. -/
structure Token where
  location : Location
  symbol : FlagSet SymbolKind := ∅
  referent : FlagSet ReferentKind := ∅
  expression : FlagSet ExpressionKind := ∅
  deriving DecidableEq, Inhabited

namespace Token

/-- One of the three sets of categories is not empty. -/
def hasCategory (t : Token) : Bool := !(t.symbol.isEmpty && t.referent.isEmpty && t.expression.isEmpty)

/-- A token is valid when it has a category and its location is valid. -/
def IsValid (t : Token) : Prop := t.hasCategory ∧ t.location.IsValid

instance (t : Token) : Decidable t.IsValid := inferInstanceAs (Decidable (_ ∧ _))

/-- The text of a token: its three sets, and its location after an at sign. -/
def render (t : Token) : String :=
  s!"{t.symbol.render} {t.referent.render} {t.expression.render} @ {t.location.render}"

end Token

end RuleScanner
