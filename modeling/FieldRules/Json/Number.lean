import FieldRules.Decimal.Binary
import FieldRules.Decimal.Reader
import FieldRules.Json.Basic

/-!
# Numbers in JSON text

A number is split into its parts before it is valued (`NumberParts`). One without point and exponent that
fits 64 bits, signed or unsigned, is an integer. Any other is a floating-point number: the leading digits
that fit 64 bits are converted and then scaled by a power of ten, both in floating point.
-/

namespace FieldRules.Json

/-- A number as written: its digits before and behind the point, and its exponent. -/
structure NumberParts where
  negative : Bool
  whole : List Nat
  fraction : Option (List Nat)
  exponent : Option Int

/-- The values of the digits at the front, and the rest. -/
def digitsOf : List Char → List Nat × List Char
  | [] => ([], [])
  | c :: cs => match Text.digit? c with
    | some d =>
      let (ds, rest) := digitsOf cs
      (d :: ds, rest)
    | none => ([], c :: cs)

/-- The digits before the point: a lone zero, or no leading zero. -/
def readWhole? (cs : List Char) : Option (List Nat × List Char) :=
  match digitsOf cs with
  | ([], _) => none
  | (0 :: _ :: _, _) => none
  | parts => some parts

/-- The digits behind a point, if one stands here. -/
def readFraction? : List Char → Option (Option (List Nat) × List Char)
  | '.' :: cs => match digitsOf cs with
    | ([], _) => none
    | (ds, rest) => some (some ds, rest)
  | cs => some (none, cs)

/-- The parts of a number that spans the whole text. -/
def readParts? (cs : List Char) : Option NumberParts := do
  let (negative, cs) := match cs with
    | '-' :: cs => (true, cs)
    | cs => (false, cs)
  let (whole, rest) ← readWhole? cs
  let (fraction, rest) ← readFraction? rest
  match rest with
  | [] => return ⟨negative, whole, fraction, none⟩
  | rest => return ⟨negative, whole, fraction, some (← Decimal.readExponent? rest)⟩

/-- Appends digits to a number while it fits 64 bits; also tells how many digits are left over. -/
def appendDigits (n : Nat) : List Nat → Nat × Nat
  | [] => (n, 0)
  | d :: ds =>
    if 10 * n + d ≤ Width.maxUnsigned 64 then appendDigits (10 * n + d) ds else (n, ds.length + 1)

/-- A power of ten that a floating-point number can hold. -/
def powerOfTen (n : Nat) : Float :=
  Float.ofScientific 1 false n

/-- A number scaled by a power of ten, if the result is finite. -/
def scale? (n : Nat) (exponent : Int) : Option Float :=
  let x := (UInt64.ofNat n).toFloat
  if n = 0 then some 0.0
  else if 308 < exponent then none
  else if 0 ≤ exponent then
    let y := x * powerOfTen exponent.natAbs
    if Decimal.isFinite y then some y else none
  else if -308 ≤ exponent then some (x / powerOfTen exponent.natAbs)
  else if -616 ≤ exponent then some (x / powerOfTen 308 / powerOfTen (exponent.natAbs - 308))
  else some 0.0

/-- The value of a number, if it is in range. It is an integer if it is written as one and has 64 bits with or
without a sign. -/
def NumberParts.value? (p : NumberParts) : Option Json :=
  let (n, dropped) := appendDigits 0 p.whole
  let isWhole := dropped = 0 && p.fraction.isNone && p.exponent.isNone
  let fits := !p.negative || (1 ≤ n && Width.minSigned 64 ≤ -(n : Int))
  if isWhole && fits then some (.integer (if p.negative then -(n : Int) else n))
  else
    let fraction := p.fraction.getD []
    let (n, ignored) := appendDigits n fraction
    let places : Int := fraction.length - ignored
    (scale? n (dropped - places + p.exponent.getD 0)).map fun x => .float (if p.negative then -x else x)

end FieldRules.Json
