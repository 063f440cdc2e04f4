/-!
# Floating-point numbers as exact values

A finite floating-point number is plus or minus a whole number of times a power of two. `Binary` holds
that value together with the information that its neighbour towards zero is only half as far as the one
away from zero, as it is at the powers of two. Questions of size and divisibility are answered here in
integer arithmetic.
-/

namespace FieldRules.Decimal

/-- The value `mantissa * 2 ^ exponent`, negated if so marked. -/
structure Binary where
  negative : Bool
  mantissa : Nat
  exponent : Int
  /-- Whether the gap below the value is half the gap above it. -/
  halfGap : Bool
  deriving DecidableEq, Repr

/-- The classes of floating-point data. -/
inductive FloatClass
  | nan
  | infinite (negative : Bool)
  | finite (b : Binary)
  deriving DecidableEq, Repr

/-- Decodes a word with the given widths of fraction and exponent. -/
def decode (fractionBits exponentBits word : Nat) : FloatClass :=
  let fraction := word % Nat.pow 2 fractionBits
  let exponent := word / Nat.pow 2 fractionBits % Nat.pow 2 exponentBits
  let negative := word / Nat.pow 2 (fractionBits + exponentBits) % 2 = 1
  let lowest : Int := 2 - Int.ofNat (Nat.pow 2 (exponentBits - 1)) - fractionBits
  if exponent = Nat.pow 2 exponentBits - 1 then
    if fraction = 0 then .infinite negative else .nan
  else if exponent = 0 then .finite ⟨negative, fraction, lowest, false⟩
  else
    let mantissa := Nat.pow 2 fractionBits + fraction
    .finite ⟨negative, mantissa, lowest + exponent - 1, fraction = 0 && 1 < exponent⟩

/-- The exact content of a number in double precision. -/
def classify (x : Float) : FloatClass :=
  decode 52 11 x.toBits.toNat

/-- The exact content of a number in single precision. -/
def classify32 (x : Float32) : FloatClass :=
  decode 23 8 x.toBits.toNat

/-- Whether the number is finite. -/
def isFinite (x : Float) : Bool :=
  match classify x with
  | .finite _ => true
  | _ => false

/-- Whether the number is zero, of either sign. -/
def isZero (x : Float) : Bool :=
  match classify x with
  | .finite b => b.mantissa == 0
  | _ => false

namespace Binary

/-- The integer with this value, if the value is one. -/
def toInt? (b : Binary) : Option Int :=
  let sign (n : Nat) : Int := if b.negative then -(n : Int) else n
  match b.exponent with
  | .ofNat e => some (sign (b.mantissa * Nat.pow 2 e))
  | .negSucc e =>
    let unit := Nat.pow 2 (e + 1)
    if b.mantissa % unit = 0 then some (sign (b.mantissa / unit)) else none

end Binary

/-- The integer that equals a finite number, if one does. -/
def integer? (x : Float) : Option Int :=
  match classify x with
  | .finite b => b.toInt?
  | _ => none

end FieldRules.Decimal
