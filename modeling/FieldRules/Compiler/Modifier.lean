import FieldRules.Rule.Basic
import FieldRules.Text.Quoted

/-!
# Modifiers

A modifier changes a rule from outside, as the tag of a field does.
-/

namespace FieldRules

/-- What a tag or a caller adds to a rule. -/
inductive Modifier
  | optional
  | default (text : String)
  | message (text : String)
  deriving DecidableEq, Repr

namespace Modifier

/-- A modifier in keys. -/
def describe : Modifier → String
  | optional => "Optional"
  | default text => "Default(" ++ Text.quote text ++ ")"
  | message text => "ErrMsg(" ++ Text.quote text ++ ")"

/-- The rule with what a modifier adds. -/
def apply (r : Rule) : Modifier → Rule
  | optional => { r with presence := r.presence.relax }
  | default text => r.withDefault text
  | message _ => r

/-- The message that modifiers ask for; the last one counts. -/
def message? : List Modifier → Option String
  | [] => none
  | .message text :: rest => some ((message? rest).getD text)
  | _ :: rest => message? rest

end Modifier

end FieldRules
