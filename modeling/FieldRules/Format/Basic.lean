import FieldRules.Regex.Pattern
import FieldRules.Report.Cause
import FieldRules.Value.Json

/-!
# Formats

A format is a named set of texts, given by a pattern or by a test with a description. Its first name
stands for it in messages and rule text.
-/

namespace FieldRules

/-- How a format tells its texts. -/
inductive Matcher
  | pattern (p : Pattern)
  | test (description : String) (holds : String → Bool)

/-- A named format; further names are aliases. -/
structure Format where
  names : List String
  matcher : Matcher

namespace Format

/-- A format given by a pattern. -/
def ofPattern (names : List String) (p : Pattern) : Format :=
  ⟨names, .pattern p⟩

/-- A format given by a test. -/
def ofTest (names : List String) (description : String) (holds : String → Bool) : Format :=
  ⟨names, .test description holds⟩

/-- The first name. -/
def name (f : Format) : String :=
  f.names.headD ""

/-- Whether a text is in the format. -/
def isMatch (f : Format) (s : String) : Bool :=
  match f.matcher with
  | .pattern p => p.isMatch s
  | .test _ holds => holds s

/-- What messages show for the format: the pattern, or the description of the test. -/
def shown (f : Format) : String :=
  match f.matcher with
  | .pattern p => p.source
  | .test description _ => description

/-- The rule text. -/
def text (f : Format) : String :=
  "@" ++ f.name

/-- Why a value is not a text in the format. -/
def check (f : Format) : Value → Option Cause
  | .string s => if f.isMatch s then none else some (.noMatch f.name f.shown s)
  | v => some (.unsupported f.text v.kindName)

/-- The description of a format in logs. -/
def describe (f : Format) : String :=
  "StrFmt \x7b names: [" ++ ", ".intercalate (f.names.map Text.quote) ++ "], pattern: " ++
    Text.quote f.shown ++ " \x7d"

end Format

end FieldRules
