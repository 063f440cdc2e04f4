import FieldRules.Rule.SyntaxError
import FieldRules.Validator.Defect

/-!
# Compile errors

Why a rule cannot be compiled for a schema. An error in a field is wrapped once for each struct around it.
-/

namespace FieldRules

/-- Why a rule cannot be compiled. -/
inductive CompileError
  | malformed (e : SyntaxError)
  | unknownRule (name : String)
  | wrongType (rule schema : String)
  | invalidRule (rule : String) (defect : Defect)
  | invalidDefault (rule value reason : String)
  | inField (field : String) (e : CompileError)
  deriving DecidableEq, Repr

namespace CompileError

/-- The name of the kind of error. -/
def code : CompileError → String
  | malformed _ => "RULE:SYNTAX"
  | unknownRule _ => "RULE:UNKNOWN"
  | wrongType .. => "RULE:UNSUPPORTED_TYPE"
  | invalidRule .. => "RULE:INVALID"
  | invalidDefault .. => "RULE:INVALID_DEFAULT"
  | inField .. => "RULE:FIELD"

/-- The wording. -/
def message : CompileError → String
  | malformed e => e.message
  | unknownRule name => "unknown rule `@" ++ name ++ "`"
  | wrongType rule schema => "rule `" ++ rule ++ "` cannot be applied to type `" ++ schema ++ "`"
  | invalidRule rule defect => "invalid rule `" ++ rule ++ "`: " ++ defect.message
  | invalidDefault rule value reason =>
    "invalid default `" ++ value ++ "` for rule `" ++ rule ++ "`: " ++ reason
  | inField field e => "field `" ++ field ++ "`: " ++ e.message

/-- The error inside all fields. -/
def rootCause : CompileError → CompileError
  | inField _ e => e.rootCause
  | e => e

end CompileError

end FieldRules
