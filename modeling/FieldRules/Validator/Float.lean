import FieldRules.Decimal.Fixed
import FieldRules.Validator.Integer

/-!
# Floating-point rules

A floating-point rule has a budget of digits: so many in all, and so many of them behind the point, both
counted on the shortest decimal of a number. Within the budget it lists the numbers that pass, or bounds
them and asks for multiples of a step. Literals are rounded to the decimal places of the budget.
-/

namespace FieldRules

/-- A compiled floating-point rule. -/
structure FloatCheck where
  bits : Nat
  maxDigits : Nat
  decimalDigits : Nat
  bounds : Bounds Float := {}
  listed : List Float := []
  step? : Option Float := none

namespace FloatCheck

/-- The width and the greatest budget that a rule name stands for. -/
def widthOfName (name : String) : Nat × Nat :=
  if name = "float" ∨ name = "float32" then (32, 7) else (64, 15)

/-- A count of digits: a number of 32 bits, absent when the param is blank or missing. -/
def digitParam (r : Rule) (i : Nat) : Except Defect (Option Nat) :=
  match r.params[i]? with
  | none | some .blank => .ok none
  | some (.rule _) => .error .digitCountIsRule
  | some (.literal text) => match Text.readWord? 32 text.toList with
    | some n => .ok (some n)
    | none => .error (.digitCountNotNumber text)

/-- The digits before and behind the point of a number, counted on its shortest decimal. -/
def digitCounts (x : Float) : Nat × Nat :=
  match Decimal.classify x with
  | .finite b => Decimal.digitCounts b
  | _ => (0, 0)

/-- The number of digits of a number. -/
def totalDigits (x : Float) : Nat :=
  (digitCounts x).1 + (digitCounts x).2

/-- Reads a number, rounded to the decimal places and within the budget. -/
def readLiteral (maxDigits decimalDigits : Nat) (text : String) : Except Defect Float :=
  match (Decimal.readFloat? text.toList).filter Decimal.isFinite with
  | none => .error (.notFinite text)
  | some x =>
    let x := Decimal.roundTo x decimalDigits
    if maxDigits < totalDigits x then .error (.tooManyDigits text (natText maxDigits)) else .ok x

/-- Gives a rule its meaning. -/
def ofRule? (r : Rule) : Except Defect FloatCheck := do
  Section.refuse r [.pattern]
  let (bits, limit) := widthOfName r.name
  if 2 < r.params.length then throw .digitCountParams
  let maxDigits := (← digitParam r 0).getD limit
  let decimalDigits := (← digitParam r 1).getD 2
  if maxDigits = 0 ∨ limit < maxDigits then throw (.maxDigitsOutOfRange (natText maxDigits) (natText limit))
  if maxDigits < decimalDigits then throw (.decimalsExceedMax (natText decimalDigits) (natText maxDigits))
  let read := readLiteral maxDigits decimalDigits
  let bounds ← Bounds.ofRange? read r.range
  match r.computedValues with
  | [value] => match IntegerCheck.stepText? value with
    | some text =>
      let step ← read text
      if Decimal.isZero step then throw .multipleOfZero
      return { bits, maxDigits, decimalDigits, bounds, step? := some step }
    | none => return { bits, maxDigits, decimalDigits, bounds, listed := [← read value] }
  | values => return { bits, maxDigits, decimalDigits, bounds, listed := ← values.mapM read }

/-- The canonical rule text. -/
def text (c : FloatCheck) : String :=
  "@float" ++ natText c.bits ++ "<" ++ natText c.maxDigits ++ "," ++ natText c.decimalDigits ++ ">" ++
    c.bounds.text ++
    match c.step? with
    | some step => stepText (Quantity.text step)
    | none => if c.listed.isEmpty then "" else listedText (c.listed.map Quantity.text)

/-- The number nearest to a signed integer. -/
def ofInt (n : Int64) : Float :=
  let size := (UInt64.ofNat n.toInt.natAbs).toFloat
  if n.toInt < 0 then -size else size

/-- The number that a value denotes; integers are rounded to the nearest. -/
def denoted? : Value → Option Float
  | .float x => if Decimal.isFinite x then some x else none
  | .int n => some (ofInt n)
  | .uint n => some n.toFloat
  | _ => none

/-- The kind of a value that denotes no number. -/
def refusedKind : Value → String
  | .float _ => "non-finite float"
  | v => v.kindName

/-- Why a number does not keep a count of digits. -/
def digitCause (target : String) (max current : Nat) : Option Cause :=
  if current ≤ max then none
  else some (.outOfRange {
    target, min := none, max := some (natText max), exclusiveMin := false, exclusiveMax := false
    current := natText current })

/-- Whether a quotient, rounded to the decimal places, is a whole number. -/
def isMultiple (c : FloatCheck) (x step : Float) : Bool :=
  (Decimal.integer? (Decimal.roundTo (x / step) c.decimalDigits)).isSome

/-- Why a finite number does not pass: the list decides alone; else first the digits, then the bounds,
then the step. -/
def checkFloat (c : FloatCheck) (x : Float) : Option Cause :=
  if c.listed.isEmpty then
    digitCause "total digits of float value" c.maxDigits (totalDigits x) <|>
      digitCause "decimal digits of float value" c.decimalDigits (digitCounts x).2 <|>
      c.bounds.check "float value" x <|>
      match c.step? with
      | some step =>
        if c.isMultiple x step then none
        else some (.notMultiple "float value" (Quantity.text step) (Quantity.text x))
      | none => none
  else if c.listed.any (· == Decimal.roundTo x c.decimalDigits) && (digitCounts x).2 ≤ c.decimalDigits then
    none
  else some (.notListed "float value" (c.listed.map Quantity.text) (Quantity.text x))

/-- Why a value does not pass. -/
def check (c : FloatCheck) (v : Value) : Option Cause :=
  match denoted? v with
  | some x => c.checkFloat x
  | none => some (.unsupported c.text (refusedKind v))

end FloatCheck

end FieldRules
