import FieldRules.Rule.Token

/-!
# Syntax errors

Why a text is no rule, and where. `Reason.message` gives the wording of each cause.
-/

namespace FieldRules

/-- The bracketed parts of a rule. -/
inductive RulePart
  | params
  | range
  | values
  deriving DecidableEq, Repr

/-- The name of a part in messages. -/
def RulePart.describe : RulePart → String
  | params => "params"
  | range => "range"
  | values => "values"

/-- The causes for which a text is no rule. -/
inductive SyntaxError.Reason
  | unterminatedQuote
  | unterminatedPattern
  | expectedAt (found : TokenKind)
  | missingName
  | invalidName (text : String)
  | duplicateParams
  | duplicateRange
  | duplicatePattern
  | duplicateMarker
  | unterminated (part : RulePart)
  | unexpected (found : TokenKind) (part : RulePart)
  | emptyRange
  | exactBrackets
  | tooManyBounds
  | invalidPattern
  | missingDefault
  | trailing (found : TokenKind)
  deriving DecidableEq, Repr

/-- The wording of a cause. -/
def SyntaxError.Reason.message : SyntaxError.Reason → String
  | unterminatedQuote => "unterminated quoted value"
  | unterminatedPattern => "unterminated pattern"
  | expectedAt found => "expected `@`, found " ++ found.describe
  | missingName => "missing rule name"
  | invalidName text => "invalid rule name `" ++ text ++ "`"
  | duplicateParams => "duplicate params"
  | duplicateRange => "duplicate range"
  | duplicatePattern => "duplicate pattern"
  | duplicateMarker => "duplicate optional marker"
  | unterminated part => "unterminated " ++ part.describe
  | unexpected found part => "unexpected " ++ found.describe ++ " in " ++ part.describe
  | emptyRange => "empty range"
  | exactBrackets => "single-value range must use `[` and `]`"
  | tooManyBounds => "range takes at most two values"
  | invalidPattern => "invalid pattern: not a well-formed expression"
  | missingDefault => "missing default value"
  | trailing found => "unexpected " ++ found.describe ++ " after rule"

/-- A place in a text, in bytes, and what is wrong there. -/
structure Fault where
  offset : Nat
  reason : SyntaxError.Reason
  deriving DecidableEq, Repr

/-- A fault in the text of a rule. -/
structure SyntaxError extends Fault where
  rule : String
  deriving DecidableEq, Repr

/-- The text of the error. -/
def SyntaxError.message (e : SyntaxError) : String :=
  "invalid rule `" ++ e.rule ++ "` at offset " ++ String.ofList (Nat.toDigits 10 e.offset) ++ ": " ++
    e.reason.message

end FieldRules
