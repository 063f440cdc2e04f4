import FieldRules.Schema.Literal
import FieldRules.Validator.Bounds

/-!
# Integer rules

An integer rule limits signed or unsigned integers to a width in bits and then either lists the values
that pass, or bounds them and asks for multiples of a step. Integers, unsigned integers and
floating-point numbers without fraction are judged by the integer that they denote.
-/

namespace FieldRules

/-- A compiled integer rule. -/
structure IntegerCheck where
  signed : Bool
  bits : Nat
  bounds : Bounds Int := {}
  listed : List Int := []
  step? : Option Int := none

namespace IntegerCheck

/-- The family that a rule name belongs to. -/
def family (signed : Bool) : String :=
  if signed then "int" else "uint"

/-- The least and the greatest integer of a width. -/
def limits (signed : Bool) (bits : Nat) : Int × Int :=
  if signed then (Width.minSigned bits, Width.maxSigned bits) else (0, Width.maxUnsigned bits)

/-- The width that the end of a rule name asks for, without one 32 bits. -/
def widthOfSuffix (suffix : String) : Except Defect Nat :=
  match suffix with
  | "" => .ok 32
  | "8" => .ok 8
  | "16" => .ok 16
  | "32" => .ok 32
  | "64" => .ok 64
  | _ => .error (.unknownWidth suffix)

/-- The part of a rule name behind that of its family. -/
def suffix (signed : Bool) (name : String) : String :=
  let front := (family signed).toList
  if front.isPrefixOf name.toList then String.ofList (name.toList.drop front.length) else ""

/-- The width that a param asks for, if there is one. -/
def widthOfParams (width : Nat) : List Param → Except Defect Nat
  | [] => .ok width
  | [.literal text] => match (Text.readNatUpTo? 255 text.toList).filter fun b => 1 ≤ b && b ≤ 64 with
    | some b => .ok b
    | none => .error (.widthOutOfRange text)
  | _ => .error .widthParams

/-- The integers that the literals of a rule are read in: those of 128 bits. -/
def readInteger? (text : String) : Option Int :=
  Text.readSigned? 128 text.toList

/-- Reads a bound or a listed value, which has to fit the width. -/
def readLiteral (signed : Bool) (bits : Nat) (text : String) : Except Defect Int :=
  match readInteger? text with
  | none => .error (.notInteger text)
  | some n =>
    let (lo, hi) := limits signed bits
    if lo ≤ n ∧ n ≤ hi then .ok n else .error (.doesNotFit text (family signed ++ natText bits))

/-- Reads a step, which must not be zero. -/
def readStep (text : String) : Except Defect Int :=
  match readInteger? text with
  | none => .error (.notInteger text)
  | some n => if n = 0 then .error .multipleOfZero else .ok n

/-- The text behind a percent sign. -/
def stepText? (text : String) : Option String :=
  match text.toList with
  | '%' :: rest => some (String.ofList rest)
  | _ => none

/-- Gives a rule its meaning. A lone value behind a percent sign is a step, other values are listed. -/
def ofRule? (signed : Bool) (r : Rule) : Except Defect IntegerCheck := do
  Section.refuse r [.pattern]
  let width ← widthOfSuffix (suffix signed r.name)
  let bits ← widthOfParams width r.params
  let bounds ← Bounds.ofRange? (readLiteral signed bits) r.range
  match r.computedValues with
  | [value] => match stepText? value with
    | some step => return { signed, bits, bounds, step? := some (← readStep step) }
    | none => return { signed, bits, bounds, listed := [← readLiteral signed bits value] }
  | values => return { signed, bits, bounds, listed := ← values.mapM (readLiteral signed bits) }

/-- The canonical rule text. -/
def text (c : IntegerCheck) : String :=
  "@" ++ family c.signed ++ "<" ++ natText c.bits ++ ">" ++ c.bounds.text ++
    match c.step? with
    | some step => FieldRules.stepText (Quantity.text step)
    | none => if c.listed.isEmpty then "" else listedText (c.listed.map Quantity.text)

/-- Floating-point numbers stand for integers only up to this size. -/
def floatLimit : Int := 19000000000000000000

/-- The integer that a value denotes. -/
def denoted? : Value → Option Int
  | .int n => some n.toInt
  | .uint n => some n.toNat
  | .float x => (Decimal.integer? x).filter fun n => -floatLimit < n && n < floatLimit
  | _ => none

/-- The name of the judged quantity in messages. -/
def targetName (c : IntegerCheck) : String :=
  family c.signed ++ " value"

/-- Why an integer does not pass: the list decides alone; else first the width, then the bounds, then the
step. -/
def checkInteger (c : IntegerCheck) (n : Int) : Option Cause :=
  if c.listed ≠ [] then
    if n ∈ c.listed then none
    else some (.notListed c.targetName (c.listed.map Quantity.text) (Quantity.text n))
  else
    let (lo, hi) := limits c.signed c.bits
    let width : Bounds Int := { min := some lo, max := some hi }
    width.check c.targetName n <|> c.bounds.check c.targetName n <|>
      match c.step? with
      | some step =>
        if n % step = 0 then none
        else some (.notMultiple c.targetName (Quantity.text step) (Quantity.text n))
      | none => none

/-- Why a value does not pass. -/
def check (c : IntegerCheck) (v : Value) : Option Cause :=
  match denoted? v with
  | some n => c.checkInteger n
  | none => some (.unsupported c.text v.kindName)

end IntegerCheck

end FieldRules
