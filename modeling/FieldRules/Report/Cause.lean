import FieldRules.Text.Quoted

/-!
# Causes

Why a value is refused. `Cause.message` words each cause and `Cause.code` names its kind.
-/

namespace FieldRules

/-- A quantity outside its bounds, all as text. -/
structure OutOfRange where
  target : String
  min : Option String
  max : Option String
  exclusiveMin : Bool
  exclusiveMax : Bool
  current : String
  deriving DecidableEq, Repr

/-- Why a value is refused. -/
inductive Cause
  | missing
  | noMatch (target pattern current : String)
  | notMultiple (target step current : String)
  | notListed (target : String) (allowed : List String) (current : String)
  | outOfRange (o : OutOfRange)
  | unsupported (rule actual : String)
  | badText (reason : String)
  deriving DecidableEq, Repr

namespace OutOfRange

/-- The bounds that should hold. -/
def bounds (o : OutOfRange) : String :=
  let lower (m : String) := "larger than " ++ m ++ if o.exclusiveMin then "" else " (inclusive)"
  let upper (m : String) := "less than " ++ m ++ if o.exclusiveMax then "" else " (inclusive)"
  match o.min, o.max with
  | none, none => "in range"
  | some lo, none => lower lo
  | none, some hi => upper hi
  | some lo, some hi => lower lo ++ " and " ++ upper hi

/-- The wording. -/
def message (o : OutOfRange) : String :=
  o.target ++ " should be " ++ o.bounds ++ ", but got " ++ o.current

end OutOfRange

namespace Cause

/-- The name of the kind of cause. -/
def code : Cause → String
  | missing => "missing_required"
  | noMatch .. => "not_match"
  | notMultiple .. => "multiple_of"
  | notListed .. => "not_in_enum"
  | outOfRange _ => "out_of_range"
  | unsupported .. => "unsupported_type"
  | badText _ => "invalid_text"

/-- The wording. -/
def message : Cause → String
  | missing => "missing required field"
  | noMatch target pattern current =>
    target ++ " should match " ++ pattern ++ ", but got " ++ Text.quote current
  | notMultiple target step current => target ++ " should be multiple of " ++ step ++ ", but got " ++ current
  | notListed target allowed current =>
    target ++ " should be one of [" ++ ", ".intercalate allowed ++ "], but got " ++ current
  | outOfRange o => o.message
  | unsupported rule actual => "rule `" ++ rule ++ "` cannot validate " ++ actual ++ " value"
  | badText reason => "text conversion failed: " ++ reason

end Cause

end FieldRules
