import FieldRules.Width

/-!
# Decimal integers

Reading integers from text: an optional sign and ASCII digits, nothing else. `digits` writes a
natural number. Core's readers are not used, since they accept underscores and refuse a plus sign.
-/

namespace FieldRules.Text

/-- The value of an ASCII digit. -/
def digit? (c : Char) : Option Nat :=
  if '0' ≤ c ∧ c ≤ '9' then some (c.toNat - '0'.toNat) else none

/-- Reads the remaining digits behind the value of those before. -/
def readDigits : Nat → List Char → Option Nat
  | acc, [] => some acc
  | acc, c :: cs => match digit? c with
    | some d => readDigits (10 * acc + d) cs
    | none => none

/-- One or more ASCII digits. -/
def readUnsigned? : List Char → Option Nat
  | [] => none
  | cs => readDigits 0 cs

/-- A natural number: digits behind an optional plus sign. -/
def readNat? : List Char → Option Nat
  | '+' :: cs => readUnsigned? cs
  | cs => readUnsigned? cs

/-- An integer: digits behind an optional sign. -/
def readInt? : List Char → Option Int
  | '-' :: cs => (readUnsigned? cs).map fun n => -(n : Int)
  | cs => (readNat? cs).map fun n => (n : Int)

/-- A natural number that is at most `max`. -/
def readNatUpTo? (max : Nat) (cs : List Char) : Option Nat :=
  (readNat? cs).filter (· ≤ max)

/-- An integer between `min` and `max`. -/
def readIntIn? (min max : Int) (cs : List Char) : Option Int :=
  (readInt? cs).filter fun n => min ≤ n && n ≤ max

/-- A signed integer of a width. -/
def readSigned? (bits : Nat) (cs : List Char) : Option Int :=
  readIntIn? (Width.minSigned bits) (Width.maxSigned bits) cs

/-- An unsigned integer of a width. -/
def readWord? (bits : Nat) (cs : List Char) : Option Nat :=
  readNatUpTo? (Width.maxUnsigned bits) cs

/-- The decimal digits of a natural number. -/
def digits (n : Nat) : List Char :=
  Nat.toDigits 10 n

/-- The decimal text of an integer. -/
def integer : Int → List Char
  | .ofNat n => digits n
  | .negSucc n => '-' :: digits (n + 1)

end FieldRules.Text
