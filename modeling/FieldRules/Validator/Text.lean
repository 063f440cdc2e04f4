import FieldRules.Text.Bytes
import FieldRules.Value.Basic
import FieldRules.Validator.Bounds

/-!
# Text rules

A text rule lists the texts that pass, or asks for a pattern, or else bounds the length, measured in bytes
or in characters. A list makes the others irrelevant, and a pattern the length.
-/

namespace FieldRules

/-- What lengths of texts count. -/
inductive LengthUnit
  | bytes
  | characters
  deriving DecidableEq, Repr

namespace LengthUnit

/-- The length of a text. -/
def measure (u : LengthUnit) (s : String) : Nat :=
  match u with
  | bytes => Text.byteLength s.toList
  | characters => s.toList.length

/-- The unit under one of its names. -/
def ofName? : String → Option LengthUnit
  | "length" | "bytes" => some bytes
  | "rune_count" | "chars" => some characters
  | _ => none

end LengthUnit

/-- A compiled text rule. -/
structure TextCheck where
  unit : LengthUnit
  bounds : Bounds Nat := {}
  listed : List String := []
  pattern? : Option Pattern := none

namespace TextCheck

/-- The unit that a rule name stands for. -/
def unitOfName (name : String) : LengthUnit :=
  if name = "char" then .characters else .bytes

/-- The unit that a param asks for, if there is one. -/
def unitOfParams (unit : LengthUnit) : List Param → Except Defect LengthUnit
  | [] => .ok unit
  | [.literal text] => match LengthUnit.ofName? text with
    | some unit => .ok unit
    | none => .error (.unknownLengthMode text)
  | _ => .error .lengthModeParams

/-- Gives a rule its meaning; beside a pattern the range is not looked at. -/
def ofRule? (r : Rule) : Except Defect TextCheck := do
  let unit ← unitOfParams (unitOfName r.name) r.params
  let bounds ← if r.pattern.isSome then pure {} else Bounds.ofLengths? r.range
  return { unit, bounds, listed := r.computedValues, pattern? := r.pattern }

/-- The canonical rule text. -/
def text (c : TextCheck) : String :=
  "@string" ++ (if c.unit = .characters then "<chars>" else "") ++ c.bounds.text ++
    (if c.listed.isEmpty then "" else listedText c.listed) ++ ((c.pattern?.map (·.toString)).getD "")

/-- Why a text does not pass. -/
def checkText (c : TextCheck) (s : String) : Option Cause :=
  if c.listed ≠ [] then
    if s ∈ c.listed then none else some (.notListed "string value" c.listed s)
  else match c.pattern? with
    | some p => if p.isMatch s then none else some (.noMatch "string value" p.toString s)
    | none => c.bounds.check "string length" (c.unit.measure s)

/-- Why a value does not pass. -/
def check (c : TextCheck) : Value → Option Cause
  | .string s => c.checkText s
  | v => some (.unsupported c.text v.kindName)

end TextCheck

end FieldRules
