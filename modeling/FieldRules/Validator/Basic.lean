import FieldRules.Format.Basic
import FieldRules.Validator.Float
import FieldRules.Validator.Text

/-!
# Validators

A validator is the compiled form of a rule for one schema. Every compiled rule sits in a loader, which
knows when a value counts as empty and what happens then; the families of rules are below it. `text` is
the canonical rule text of a validator.
-/

namespace FieldRules

/-- What happens to an empty value: it is refused, let pass, or replaced by a default. -/
inductive EmptyPolicy
  | refuse
  | pass
  | fill (text : String) (value : Value)

namespace EmptyPolicy

/-- Whether an empty value passes. -/
def isOptional : EmptyPolicy → Bool
  | refuse => false
  | _ => true

/-- The default. -/
def default? : EmptyPolicy → Option Value
  | fill _ value => some value
  | _ => none

/-- The text of the default. -/
def defaultText? : EmptyPolicy → Option String
  | fill text _ => some text
  | _ => none

/-- What the rule says of an absent value. -/
def presence : EmptyPolicy → Presence
  | refuse => .required
  | pass => .optional
  | fill text _ => .default text

end EmptyPolicy

mutual

/-- A compiled rule. -/
inductive Validator
  | integer (c : IntegerCheck)
  | float (c : FloatCheck)
  | text (c : TextCheck)
  | format (f : Format)
  | slice (item : Option Validator) (bounds : Bounds Nat) (length? : Option Nat)
  | map (key item : Option Validator) (bounds : Bounds Nat)
  | struct (fields : List FieldCheck)
  | loader (l : Loader)

/-- The check of a struct field: the embedded fields to pass through, the name of the field, and the name
under which it is reported. -/
structure FieldCheck where
  access : List String
  name : String
  label : String
  validator : Validator

/-- The shell around a rule: what counts as empty, what happens then, the check of other values, a message
that replaces all others, and the codec through which values are seen. -/
structure Loader where
  schema : Schema
  inner : Option Validator
  onEmpty : EmptyPolicy
  message? : Option String
  codec? : Option Codec

end

namespace Loader

/-- Whether a value counts as empty: for pointers only null, else what is zero for the schema. -/
def isEmpty (l : Loader) (v : Value) : Bool :=
  match l.schema.kind, v with
  | .pointer, .null => true
  | .pointer, _ => false
  | _, v => l.schema.isZero v

/-- Whether the loader neither checks nor fills anything. -/
def isNoop (l : Loader) : Bool :=
  l.inner.isNone && l.onEmpty.default?.isNone

end Loader

namespace Validator

/-- Whether nothing is checked or filled. -/
def isNoop : Validator → Bool
  | loader l => l.isNoop
  | _ => false

/-- Whether a check of a composite accepts all values of its schema. -/
def isVacuous : Validator → Bool
  | slice item bounds length? =>
    item.isNone && bounds.min.isNone && (bounds.max.isNone || bounds.max == length?)
  | map key item bounds => key.isNone && item.isNone && bounds.isTrivial
  | struct fields => fields.isEmpty
  | _ => false

end Validator

mutual

/-- The canonical rule text. -/
def Validator.toText : Validator → String
  | .integer c => c.text
  | .float c => c.text
  | .text c => c.text
  | .format f => f.text
  | .slice none bounds _ => "@slice" ++ bounds.text
  | .slice (some item) bounds _ => "@slice<" ++ item.toText ++ ">" ++ bounds.text
  | .map none none bounds => "@map" ++ bounds.text
  | .map (some key) none bounds => "@map<" ++ key.toText ++ ">" ++ bounds.text
  | .map none (some item) bounds => "@map<," ++ item.toText ++ ">" ++ bounds.text
  | .map (some key) (some item) bounds => "@map<" ++ key.toText ++ "," ++ item.toText ++ ">" ++ bounds.text
  | .struct _ => "@struct"
  | .loader l => l.toText

/-- The text of the check with the mark for empty values; nothing when there is no check. -/
def Loader.toText : Loader → String
  | ⟨_, none, _, _, _⟩ => ""
  | ⟨_, some inner, onEmpty, _, _⟩ => inner.toText ++ String.ofList onEmpty.presence.text

end

/-- The names under which the fields of a struct are reported. -/
def Validator.fieldLabels : Validator → List String
  | .struct fields => fields.map (·.label)
  | _ => []

end FieldRules
