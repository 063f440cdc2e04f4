import FieldRules.Json.Printer
import FieldRules.Report.Cause
import FieldRules.Report.Path

/-!
# Violations and reports

A violation is a cause at a path, with a message that may have been replaced. A report lists violations
in the order in which they were found; a value passes when its report is empty.
-/

namespace FieldRules

/-- A cause, where it was found, and the message that replaces its own wording, if one does. -/
structure Violation where
  path : Path := []
  cause : Cause
  override : Option String := none
  deriving DecidableEq, Repr

namespace Violation

/-- The message: the replacement, or else the wording of the cause. -/
def message (v : Violation) : String :=
  v.override.getD v.cause.message

/-- The wording of the cause when it was replaced. -/
def detail? (v : Violation) : Option String :=
  v.override.map fun _ => v.cause.message

/-- The message behind the path. -/
def line (v : Violation) : String :=
  if v.path.isEmpty then v.message else v.path.toString ++ ": " ++ v.message

end Violation

/-- Violations in the order in which they were found. -/
abbrev Report := List Violation

namespace Report

/-- The report of one cause at the outermost value. -/
def single (cause : Cause) : Report :=
  [{ cause }]

/-- The report of an optional cause at a path. -/
def ofCause? (cause : Option Cause) (path : Path) : Report :=
  match cause with
  | some cause => [{ cause, path }]
  | none => []

/-- The report of a part, seen from one step further out. -/
def under (segment : Segment) (r : Report) : Report :=
  r.map fun v => { v with path := v.path.prepend segment }

/-- The report with all messages replaced. -/
def withMessage (message : String) (r : Report) : Report :=
  r.map fun v => { v with override := some message }

/-- Whether nothing was found. -/
def passes (r : Report) : Bool :=
  r.isEmpty

/-- Numbered lines, from a number on. -/
def numbered : Nat → Report → String
  | _, [] => ""
  | i, v :: vs => "  " ++ String.ofList (Text.digits i) ++ ". " ++ v.line ++ "\n" ++ numbered (i + 1) vs

/-- The text of a report: a headline with the number of violations and a line for each. -/
protected def toString (r : Report) : String :=
  "Validation failed with " ++ String.ofList (Text.digits r.length) ++ " error(s):\n" ++ r.numbered 1

/-- The report as a document: path, code and message of each violation. -/
def toJson (r : Report) : Json :=
  .array (r.map fun v => .object [("code", .string v.cause.code), ("message", .string v.message),
    ("path", .string v.path.toString)])

theorem under_eq_nil {s : Segment} {r : Report} : under s r = [] ↔ r = [] := by
  simp [under]

theorem withMessage_eq_nil {m : String} {r : Report} : withMessage m r = [] ↔ r = [] := by
  simp [withMessage]

end Report

end FieldRules
