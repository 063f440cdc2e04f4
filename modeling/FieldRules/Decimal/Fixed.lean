import FieldRules.Decimal.Binary

/-!
# Rounding to decimal places

`roundTo` takes a number to the nearest one with so many decimal places, counted on its exact value;
a tie goes to the even neighbour.
-/

namespace FieldRules.Decimal

/-- The natural number nearest to a quotient; of two equally near ones the even one. -/
def roundDiv (numerator denominator : Nat) : Nat :=
  let q := numerator / denominator
  let r := numerator % denominator
  if 2 * r < denominator then q
  else if denominator < 2 * r then q + 1
  else if q % 2 = 0 then q else q + 1

theorem roundDiv_mul_le (n d : Nat) (hd : 0 < d) : 2 * (roundDiv n d * d) ≤ 2 * n + d := by
  have h := Nat.div_add_mod n d
  have hr := Nat.mod_lt n hd
  have hm : n / d * d = d * (n / d) := Nat.mul_comm ..
  have hs : (n / d + 1) * d = d * (n / d) + d := by rw [Nat.add_mul, Nat.one_mul, hm]
  simp only [roundDiv]
  split
  · omega
  · split
    · omega
    · split <;> omega

theorem le_roundDiv_mul (n d : Nat) (hd : 0 < d) : 2 * n ≤ 2 * (roundDiv n d * d) + d := by
  have h := Nat.div_add_mod n d
  have hr := Nat.mod_lt n hd
  have hm : n / d * d = d * (n / d) := Nat.mul_comm ..
  have hs : (n / d + 1) * d = d * (n / d) + d := by rw [Nat.add_mul, Nat.one_mul, hm]
  simp only [roundDiv]
  split
  · omega
  · split
    · omega
    · split <;> omega

namespace Binary

/-- The size of the number as a multiple of the last of so many decimal places. -/
def inPlaces (b : Binary) (places : Nat) : Nat :=
  roundDiv (b.mantissa * Nat.pow 2 b.exponent.toNat * Nat.pow 10 places) (Nat.pow 2 (-b.exponent).toNat)

end Binary

/-- The number nearest to so many decimal places; numbers that are not finite stay as they are. -/
def roundTo (x : Float) (places : Nat) : Float :=
  match classify x with
  | .finite b =>
    let size := Float.ofScientific (b.inPlaces places) true places
    if b.negative then -size else size
  | _ => x

end FieldRules.Decimal
