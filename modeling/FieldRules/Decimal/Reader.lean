import FieldRules.Text.Numeral

/-!
# Reading decimal numbers

A number is an optional sign and either digits with an optional point and exponent, at least one digit
among them, or one of the names `inf`, `infinity` and `nan` in any case.
-/

namespace FieldRules.Decimal

/-- What a text says about a number, before rounding. -/
inductive Numeral
  | nan
  | infinite (negative : Bool)
  /-- The value `digits * 10 ^ exponent`. -/
  | decimal (negative : Bool) (digits : Nat) (exponent : Int)
  deriving DecidableEq, Repr

/-- The digits at the front of a text: their value behind the value of those before, their number, and
the rest of the text. -/
def leadingDigits (acc count : Nat) : List Char → Nat × Nat × List Char
  | [] => (acc, count, [])
  | c :: cs => match Text.digit? c with
    | some d => leadingDigits (10 * acc + d) (count + 1) cs
    | none => (acc, count, c :: cs)

/-- An exponent that spans the rest of the text. -/
def readExponent? : List Char → Option Int
  | [] => some 0
  | c :: cs =>
    if c = 'e' ∨ c = 'E' then Text.readInt? cs else none

/-- A number without its sign. -/
def readMagnitude? (negative : Bool) (cs : List Char) : Option Numeral :=
  match String.ofList (cs.map Char.toLower) with
  | "inf" | "infinity" => some (.infinite negative)
  | "nan" => some .nan
  | _ =>
    let (whole, wholeCount, rest) := leadingDigits 0 0 cs
    let (all, places, rest) := match rest with
      | '.' :: rest => leadingDigits whole 0 rest
      | rest => (whole, 0, rest)
    if wholeCount + places = 0 then none
    else (readExponent? rest).map fun e => .decimal negative all (e - places)

/-- A number that spans the whole text. -/
def readNumeral? : List Char → Option Numeral
  | '-' :: cs => readMagnitude? true cs
  | '+' :: cs => readMagnitude? false cs
  | cs => readMagnitude? false cs

/-- Exponents beyond this size leave the range of every floating-point number with so many digits. -/
def exponentLimit (digits : Nat) : Int :=
  400 + (Nat.log2 digits : Nat)

/-- The double-precision number nearest to a numeral. -/
def Numeral.toFloat : Numeral → Float
  | nan => 0.0 / 0.0
  | infinite negative => if negative then -1.0 / 0.0 else 1.0 / 0.0
  | decimal negative digits exponent =>
    let size : Float :=
      if digits = 0 ∨ exponent < -exponentLimit digits then 0.0
      else if exponentLimit digits < exponent then 1.0 / 0.0
      else Float.ofScientific digits (exponent < 0) exponent.natAbs
    if negative then -size else size

/-- The single-precision number nearest to a numeral. -/
def Numeral.toFloat32 : Numeral → Float32
  | nan => 0.0 / 0.0
  | infinite negative => if negative then -1.0 / 0.0 else 1.0 / 0.0
  | decimal negative digits exponent =>
    let size : Float32 :=
      if digits = 0 ∨ exponent < -exponentLimit digits then 0.0
      else if exponentLimit digits < exponent then 1.0 / 0.0
      else Float32.ofScientific digits (exponent < 0) exponent.natAbs
    if negative then -size else size

/-- The double-precision number that a text denotes. -/
def readFloat? (text : List Char) : Option Float :=
  (readNumeral? text).map Numeral.toFloat

/-- The single-precision number that a text denotes. -/
def readFloat32? (text : List Char) : Option Float32 :=
  (readNumeral? text).map Numeral.toFloat32

end FieldRules.Decimal
