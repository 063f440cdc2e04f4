import FieldRules.Decimal.Binary
import Mathlib.Data.Rat.Floor
import Mathlib.Tactic.FieldSimp

/-!
# The exact value of a floating-point number

The content of a finite number has a rational value (`Decimal.Binary.value`), and the integer it is taken for is
that value (`Decimal.integer?_eq_some_iff`).
-/

namespace FieldRules.Decimal

namespace Binary

/-- The sign as a factor. -/
def sign (b : Binary) : Int :=
  if b.negative then -1 else 1

/-- The number that is meant, exactly. -/
def value (b : Binary) : ℚ :=
  b.sign * b.mantissa * (2 : ℚ) ^ b.exponent

theorem sign_mul_sign (b : Binary) : b.sign * b.sign = 1 := by
  unfold sign
  split <;> rfl

private theorem sign_mul_eq (b : Binary) (n : Nat) : b.sign * n = if b.negative then -(n : Int) else n := by
  unfold sign
  split <;> simp

private theorem toInt?_eq_some_iff {b : Binary} {n : Int} : b.toInt? = some n ↔ b.value = n := by
  have hsign (k : Nat) : (if b.negative then -(k : Int) else k) = b.sign * k := (b.sign_mul_eq k).symm
  unfold toInt? value
  cases b.exponent with
  | ofNat e =>
    simp only [hsign, Option.some.injEq, Int.ofNat_eq_natCast, zpow_natCast]
    rw [← Int.cast_inj (α := ℚ)]
    push_cast
    rw [mul_assoc]
    simp
  | negSucc e =>
    have hunit : (0 : Int) < 2 ^ (e + 1) := by positivity
    have hscale : (b.sign * b.mantissa * (2 : ℚ) ^ Int.negSucc e = n) ↔ b.sign * b.mantissa = n * 2 ^ (e + 1) := by
      rw [zpow_negSucc, ← div_eq_mul_inv, div_eq_iff (by positivity)]
      exact_mod_cast Iff.rfl
    rw [hscale]
    simp only [hsign]
    have hwhole (h : b.mantissa % Nat.pow 2 (e + 1) = 0) :
        b.sign * b.mantissa = b.sign * (b.mantissa / Nat.pow 2 (e + 1) : Nat) * 2 ^ (e + 1) := by
      rw [mul_assoc]
      have hdiv := Nat.div_mul_cancel (Nat.dvd_of_mod_eq_zero h)
      exact_mod_cast congrArg (fun k : Nat => b.sign * k) hdiv.symm
    constructor
    · intro h
      split at h
      next hdvd => rw [hwhole hdvd, Option.some.inj h]
      next => cases h
    · intro h
      have hdvd : b.mantissa % Nat.pow 2 (e + 1) = 0 := by
        have hmantissa : (b.mantissa : Int) = b.sign * n * 2 ^ (e + 1) := by
          rw [mul_assoc, ← h, ← mul_assoc, b.sign_mul_sign, one_mul]
        refine Nat.mod_eq_zero_of_dvd (Int.natCast_dvd_natCast.1 ⟨b.sign * n, ?_⟩)
        rw [hmantissa, mul_comm]
        rfl
      rw [if_pos hdvd, Option.some.injEq]
      rw [hwhole hdvd] at h
      exact mul_right_cancel₀ hunit.ne' h

end Binary

theorem integer?_eq_some_iff {x : Float} {n : Int} :
    integer? x = some n ↔ ∃ b, classify x = .finite b ∧ b.value = n := by
  unfold integer?
  cases classify x with
  | finite b => simp [Binary.toInt?_eq_some_iff]
  | nan | infinite => simp

end FieldRules.Decimal
