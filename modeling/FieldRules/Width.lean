/-!
# Widths

The limits of signed and unsigned integers of a width in bits.
-/

namespace FieldRules.Width

/-- The least signed integer. -/
def minSigned (bits : Nat) : Int :=
  -Int.ofNat (Nat.pow 2 (bits - 1))

/-- The greatest signed integer. -/
def maxSigned (bits : Nat) : Int :=
  Int.ofNat (Nat.pow 2 (bits - 1)) - 1

/-- The greatest unsigned integer. -/
def maxUnsigned (bits : Nat) : Nat :=
  Nat.pow 2 bits - 1

/-- The width nearest to the given one that an integer can have. -/
def clamp (bits : Nat) : Nat :=
  max 1 (min 64 bits)

end FieldRules.Width
