import FieldRules.Proofs.Decimal.Places
import FieldRules.Proofs.Decimal.Shortest
import FieldRules.Proofs.Validator.ReadBack
import FieldRules.Validator.Float

/-!
# Multiples of a floating-point step

A floating-point rule divides by its step in double precision and rounds the quotient to the decimal places of its
budget. What this says about the decimals that are meant (`Value.StandsFor`) is `FloatCheck.check_multiples`: as long
as double precision holds the digits of the quotient, multiples pass, what passes is nearly a multiple, and there is
no difference between the two if the step has few enough digits. The quotient of a whole number by one of its divisors
is exact, so whole multiples pass in any case.
-/

namespace FieldRules

/-- The decimal that a value stands for: an integer itself, or the shortest decimal of a floating-point number. -/
inductive Value.StandsFor : Value → ℚ → Prop
  | int (n : Int64) : StandsFor (.int n) n.toInt
  | uint (n : UInt64) : StandsFor (.uint n) n.toNat
  | float {x : Float} {b : Decimal.Binary} (finite : Decimal.classify x = .finite b) :
    StandsFor (.float x) (b.sign * (Decimal.shortest .up b).value)

private theorem Value.StandsFor.unique {v : Value} {p q : ℚ} (hp : v.StandsFor p) (hq : v.StandsFor q) : p = q := by
  cases hp with
  | int | uint => cases hq; rfl
  | float hfinite =>
    cases hq with
    | float hfinite' =>
      obtain rfl := Decimal.FloatClass.finite.inj (hfinite.symm.trans hfinite')
      rfl

private theorem Value.StandsFor.of_shortest {x : Float} {b : Decimal.Binary} {d : Decimal.Digits} {q : ℚ}
    (hx : Decimal.classify x = .finite b) (hd : Decimal.shortest .up b = d) (hq : b.sign * d.value = q) :
    (Value.float x).StandsFor q := by
  rw [← hq, ← hd]
  exact .float hx

namespace Decimal

/-- The floating-point number is zero as the decimal is, or in the middle of the range and as close to it as 53 places
allow. -/
def Approximates (x : Float) (q : ℚ) : Prop :=
  ∃ b : Binary, classify x = .finite b ∧
    (b.mantissa = 0 ∧ q = 0 ∨ b.Normal ∧ |b.exponent| ≤ 110 ∧ q ≠ 0 ∧ |(|q| - b.size)| ≤ b.size / 2 ^ 53)

private theorem isFinite_iff {x : Float} : isFinite x = true ↔ ∃ b, classify x = .finite b := by
  unfold isFinite
  cases classify x <;> simp

/-- What a nonzero number approximates is not zero. -/
private theorem Approximates.of_mantissa_ne_zero {x : Float} {q : ℚ} (h : Approximates x q) {b : Binary}
    (hb : classify x = .finite b) (hb0 : b.mantissa ≠ 0) : q ≠ 0 ∧ |(|q| - b.size)| ≤ b.size / 2 ^ 53 := by
  obtain ⟨b', hb', hzero | ⟨-, -, hq, hclose⟩⟩ := h <;> obtain rfl := FloatClass.finite.inj (hb.symm.trans hb')
  · exact absurd hzero.1 hb0
  · exact ⟨hq, hclose⟩

/-- A number with few digits approximates its shortest decimal. -/
private theorem approximates_shortest {x : Float} {b : Binary} (hx : classify x = .finite b)
    (hdigits : (digitCounts b).1 + (digitCounts b).2 ≤ 15) : Approximates x (b.sign * (shortest .up b).value) := by
  refine ⟨b, hx, ?_⟩
  by_cases hb : b.mantissa = 0
  · have hzero : (shortest .up b).value = 0 := by simp [shortest, hb, Digits.value]
    exact .inl ⟨hb, by rw [hzero, mul_zero]⟩
  · obtain ⟨hnormal, hexponent, hclose, hpos, -⟩ := shortest_near hx hb hdigits
    have hsign : |(b.sign : ℚ)| = 1 := by
      unfold Binary.sign
      split <;> simp
    have hsize : |b.sign * (shortest .up b).value| = (shortest .up b).value := by
      rw [abs_mul, hsign, one_mul, abs_of_pos hpos]
    refine .inr ⟨hnormal, hexponent, ?_, by rwa [hsize]⟩
    rw [← abs_pos, hsize]
    exact hpos

/-- A number with few digits that a whole number was rounded to is that whole number. -/
private theorem approximates_of_near {x : Float} {b : Binary} (hx : classify x = .finite b)
    (hdigits : (digitCounts b).1 + (digitCounts b).2 ≤ 15) {n : ℕ} (hnear : Near n b.size) {q : ℚ} (hq : |q| = n) :
    Approximates x q := by
  refine ⟨b, hx, ?_⟩
  have herror := abs_le.1 hnear.abs_sub_le
  by_cases hb : b.mantissa = 0
  · have hsize : b.size = 0 := by simp [Binary.size, hb]
    have hzero : (n : ℚ) ≤ 0 := by linarith
    exact .inl ⟨hb, abs_nonpos_iff.1 (hq ▸ hzero)⟩
  · obtain ⟨hnormal, hexponent, hclose, hpos, hlt⟩ := shortest_near hx hb hdigits
    have hclose := abs_le.1 hclose
    have hsmall : n < 2 ^ 53 := by
      have : (n : ℚ) < 2 ^ 53 := by linarith
      exact_mod_cast this
    have hexact : b.size = n := hnear.eq_natCast hsmall
    refine .inr ⟨hnormal, hexponent, ?_, ?_⟩
    · rw [← abs_pos, hq]
      linarith
    · rw [hq, hexact, sub_self, abs_zero]
      positivity

/-- A number in the middle of the range that approximates a whole number with fewer than 53 places is that number. -/
private theorem Approximates.size_eq {x : Float} {q : ℚ} (h : Approximates x q) {b : Binary}
    (hb : classify x = .finite b) {n : ℕ} (hq : |q| = n) (hn : n ≤ 2 ^ 52) : b.size = n := by
  obtain ⟨b', hb', hcases⟩ := h
  obtain rfl := FloatClass.finite.inj (hb.symm.trans hb')
  obtain ⟨hb0, rfl⟩ | ⟨hnormal, -, -, hclose⟩ := hcases
  · rw [← hq, abs_zero, Binary.size, hb0, Nat.cast_zero, zero_mul]
  · rw [hq, abs_sub_comm] at hclose
    have hn' : (n : ℚ) ≤ 2 ^ 52 := by exact_mod_cast hn
    have hlt : b.size < 2 ^ (53 : ℤ) := by
      have := (abs_le.1 hclose).2
      norm_num
      linarith
    have hunit : b.size / 2 ^ 53 < 2 ^ b.exponent := by
      rw [div_lt_iff₀ (by positivity), mul_comm]
      exact mul_lt_mul_of_pos_right (by exact_mod_cast (classify_bounds hb).1) (by positivity)
    exact eq_natCast_of_unit (by have := hnormal.exponent_lt hlt; omega) (hclose.trans_lt hunit)

end Decimal

open Decimal

/-- What a value denotes approximates what it stands for, if it has few digits. -/
private theorem Value.StandsFor.approximates {v : Value} {q : ℚ} (h : v.StandsFor q) {x : Float}
    (hx : FloatCheck.denoted? v = some x) (hdigits : FloatCheck.totalDigits x ≤ 15) : Approximates x q := by
  cases h with
  | uint n =>
    obtain rfl : n.toFloat = x := Option.some.inj hx
    obtain ⟨b, hb, -, -, hnear⟩ := classify_toFloat n
    simp only [FloatCheck.totalDigits, FloatCheck.digitCounts, hb] at hdigits
    exact approximates_of_near hb hdigits hnear (Nat.abs_cast _)
  | int n =>
    obtain rfl : FloatCheck.ofInt n = x := Option.some.inj hx
    have hword : (UInt64.ofNat n.toInt.natAbs).toNat = n.toInt.natAbs := by
      have := n.le_toInt
      have := n.toInt_lt
      exact Nat.mod_eq_of_lt (by omega)
    obtain ⟨b, hb, -, hshape, hnear⟩ := classify_toFloat (UInt64.ofNat n.toInt.natAbs)
    rw [hword] at hnear
    have hsigned : ∃ q : Binary, classify (FloatCheck.ofInt n) = .finite q ∧ q.size = b.size := by
      simp only [FloatCheck.ofInt]
      split
      · obtain ⟨q, hq, -, hsize⟩ := classify_neg hb (hshape.imp And.right And.right)
        exact ⟨q, hq, hsize⟩
      · exact ⟨b, hb, rfl⟩
    obtain ⟨q, hq, hsize⟩ := hsigned
    simp only [FloatCheck.totalDigits, FloatCheck.digitCounts, hq] at hdigits
    refine approximates_of_near hq hdigits (hsize ▸ hnear) ?_
    rw [Nat.cast_natAbs, Int.cast_abs]
  | @float y b hfinite =>
    obtain rfl : y = x := by simpa [FloatCheck.denoted?, isFinite, hfinite] using hx
    simp only [FloatCheck.totalDigits, FloatCheck.digitCounts, hfinite] at hdigits
    exact approximates_shortest hfinite hdigits

/-- A number with few digits stands for a decimal that is not large. -/
private theorem Decimal.Approximates.abs_lt {x : Float} {q : ℚ} (h : Approximates x q) {n : ℕ} (hn : n ≤ 15)
    (hdigits : FloatCheck.totalDigits x ≤ n) : |q| < 9 / 8 * 10 ^ n := by
  obtain ⟨b, hb, ⟨-, rfl⟩ | ⟨hnormal, -, -, hclose⟩⟩ := h
  · rw [abs_zero]
    positivity
  · have hb0 := hnormal.mantissa_ne_zero
    simp only [FloatCheck.totalDigits, FloatCheck.digitCounts, hb] at hdigits
    obtain ⟨-, -, hnear, -, -⟩ := shortest_near hb hb0 (hdigits.trans hn)
    have hvalue : (shortest .up b).value < 10 ^ n := by
      simp only [digitCounts, hb0, if_false] at hdigits
      simpa using (Digits.value_bounds (shortest_close .up hb0).1 hdigits).2
    have hbelow := (abs_le.1 hnear).1
    have habove := (abs_le.1 hclose).2
    have hten : (0 : ℚ) < 10 ^ n := by positivity
    linarith

/-- A whole number with few digits is not large. -/
private theorem Decimal.Approximates.abs_lt_of_int {x : Float} {n : ℤ} (h : Approximates x n)
    (hdigits : FloatCheck.totalDigits x ≤ 15) : 4 * |n| < 5 * 10 ^ 15 := by
  have hlt := h.abs_lt le_rfl hdigits
  have hlt' : 4 * |(n : ℚ)| < 5 * 10 ^ 15 := by linarith
  exact_mod_cast hlt'

/-- Every value that denotes a number stands for a decimal. -/
private theorem FloatCheck.exists_standsFor {v : Value} {x : Float} (h : denoted? v = some x) :
    ∃ q, v.StandsFor q := by
  cases v with
  | int n => exact ⟨_, .int n⟩
  | uint n => exact ⟨_, .uint n⟩
  | float y =>
    have hdenoted : denoted? (.float y) = if isFinite y then some y else none := rfl
    rw [hdenoted] at h
    split at h
    next hfinite =>
      obtain ⟨b, hb⟩ := isFinite_iff.1 hfinite
      exact ⟨_, .float hb⟩
    next => cases h
  | null | bool | string | list | map | struct => cases h

/-! ### The quotient -/

/-- Three roundings, of the number, of the step and of the quotient, change the quotient by a small part of it. -/
private theorem quotient_near {x s y t q : ℚ} (ht : 0 < t) (hx : |x - y| ≤ y / 2 ^ 53) (hs : |s - t| ≤ t / 2 ^ 53)
    (hq : |q - y / t| ≤ y / t / 2 ^ 53) : |q - x / s| ≤ x / s * (2 / 5 / 10 ^ 15) := by
  obtain ⟨hxlow, hxhigh⟩ := abs_le.1 hx
  obtain ⟨hslow, hshigh⟩ := abs_le.1 hs
  have hspos : 0 < s := by linarith
  have hy : 0 ≤ y := by linarith
  have hqt : |q * t - y| ≤ y / 2 ^ 53 := by
    have hscaled : q * t - y = (q - y / t) * t := by field_simp
    rw [hscaled, abs_mul, abs_of_pos ht]
    calc |q - y / t| * t ≤ y / t / 2 ^ 53 * t := mul_le_mul_of_nonneg_right hq ht.le
      _ = y / 2 ^ 53 := by field_simp
  obtain ⟨hqlow, hqhigh⟩ := abs_le.1 hqt
  have hqnonneg : 0 ≤ q := by
    have : 0 ≤ q * t := by linarith
    exact nonneg_of_mul_nonneg_left this ht
  have hupper : q * s ≤ q * t * (1 + 1 / 2 ^ 53) := by
    rw [mul_assoc]
    exact mul_le_mul_of_nonneg_left (by linarith) hqnonneg
  have hlower : q * t * (1 - 1 / 2 ^ 53) ≤ q * s := by
    rw [mul_assoc]
    exact mul_le_mul_of_nonneg_left (by linarith) hqnonneg
  have hgoal : q - x / s = (q * s - x) / s := by field_simp
  rw [hgoal, abs_div, abs_of_pos hspos, div_mul_eq_mul_div, div_le_div_iff_of_pos_right hspos, abs_le]
  constructor <;> linarith

/-- The quotient in double precision, counted in decimal places; that of a whole number and one of its divisors is
exact. -/
private theorem exists_count {x step : Float} {p s : ℚ} {places : ℕ} (hx : Approximates x p)
    (hstep : Approximates step s) (hs : s ≠ 0) (hplaces : places ≤ 15) :
    ∃ n : ℕ, ((integer? (roundTo (x / step) places)).isSome ↔ 10 ^ places ∣ n) ∧
      |n - |p / s| * 10 ^ places| ≤ 1 / 2 + |p / s| * 10 ^ places * (2 / 5 / 10 ^ 15) ∧
      ∀ i j : ℤ, p = i → s = j → |i| ≤ 2 ^ 52 → |j| ≤ 2 ^ 52 → j ∣ i → 10 ^ places ∣ n := by
  obtain ⟨b, hb, hshape⟩ := id hx
  obtain ⟨d, hd, hzero | ⟨hdnormal, hdexponent, -, hdclose⟩⟩ := id hstep
  · exact absurd hzero.2 hs
  have hten : (0 : ℚ) < 10 ^ places := by positivity
  obtain ⟨hdlow, hdhigh⟩ := abs_le.1 hdexponent
  have hdpos : 0 < d.size := lt_of_lt_of_le (by positivity) hdnormal.size_bounds.1
  have hdividend : b.mantissa = 0 ∨ b.Normal ∧ |b.exponent - d.exponent| ≤ 900 := by
    refine hshape.imp And.left fun ⟨hnormal, hexponent, _⟩ => ⟨hnormal, abs_le.2 ?_⟩
    obtain ⟨hlow, hhigh⟩ := abs_le.1 hexponent
    omega
  have hpclose : |(|p| - b.size)| ≤ b.size / 2 ^ 53 := by
    obtain ⟨hmantissa, rfl⟩ | ⟨-, -, -, hclose⟩ := hshape
    · simp [Binary.size, hmantissa]
    · exact hclose
  obtain ⟨r, hr, -, -, hnear⟩ := classify_div hb hd hdnormal hdividend
  have hcount := r.inPlaces_near places
  refine ⟨r.inPlaces places, integer?_roundTo_isSome hr (by omega), ?_, fun i j hi hj hi52 hj52 hdvd => ?_⟩
  · have hquotient : |(r.size - |p / s|)| ≤ |p / s| * (2 / 5 / 10 ^ 15) := by
      rw [abs_div]
      exact quotient_near hdpos hpclose hdclose hnear.abs_sub_le
    have hscaled : |r.size * 10 ^ places - |p / s| * 10 ^ places| ≤ |p / s| * 10 ^ places * (2 / 5 / 10 ^ 15) := by
      rw [← sub_mul, abs_mul, abs_of_pos hten, mul_right_comm]
      exact mul_le_mul_of_nonneg_right hquotient hten.le
    have htriangle := abs_sub_le (r.inPlaces places : ℚ) (r.size * 10 ^ places) (|p / s| * 10 ^ places)
    linarith
  · -- Neither the numbers nor the quotient is rounded, so the count is that of a whole number.
    obtain ⟨k, rfl⟩ := hdvd
    rw [Int.abs_eq_natAbs] at hi52 hj52
    have hj0 : j ≠ 0 := by
      rintro rfl
      exact hs (by rw [hj, Int.cast_zero])
    have hbsize : b.size = (j * k).natAbs := hx.size_eq hb (by rw [hi, Nat.cast_natAbs, Int.cast_abs]) (by omega)
    have hdsize : d.size = j.natAbs := hstep.size_eq hd (by rw [hj, Nat.cast_natAbs, Int.cast_abs]) (by omega)
    have hsmall : k.natAbs < 2 ^ 53 := by
      have hle := Nat.le_mul_of_pos_left k.natAbs (Int.natAbs_pos.2 hj0)
      rw [← Int.natAbs_mul] at hle
      omega
    have hexact : r.size = k.natAbs := by
      have hj' : (j.natAbs : ℚ) ≠ 0 := by exact_mod_cast Int.natAbs_ne_zero.2 hj0
      rw [hbsize, hdsize, Int.natAbs_mul, Nat.cast_mul, mul_div_cancel_left₀ _ hj'] at hnear
      exact hnear.eq_natCast hsmall
    rw [hexact] at hcount
    have hdist : 2 * |(r.inPlaces places : ℤ) - (k.natAbs * 10 ^ places : ℕ)| ≤ 1 := by exact_mod_cast hcount
    have hzero := Int.abs_lt_one_iff.1
      (show |(r.inPlaces places : ℤ) - (k.natAbs * 10 ^ places : ℕ)| < 1 by omega)
    exact ⟨k.natAbs, by rw [mul_comm]; omega⟩

/-- A quotient of a number within the budget has few digits when the budget is small. -/
private theorem precise_of_few {x s : ℚ} {n places : ℕ} (hx : |x| < 9 / 8 * 10 ^ n) (hs : 3 / 4 ≤ |s| * 10 ^ places)
    (hfew : n + 2 * places ≤ 14) : |x / s| * 10 ^ places ≤ 10 ^ 15 := by
  have hten : (0 : ℚ) < 10 ^ places := by positivity
  have hpos : 0 < |s| := pos_of_mul_pos_left (by linarith) hten.le
  have hpower : (10 : ℚ) ^ n * 10 ^ places * 10 ^ places ≤ 10 ^ 14 := by
    rw [← pow_add, ← pow_add]
    exact pow_le_pow_right₀ (by norm_num) (by omega)
  have hscaled : |x| * 10 ^ places * 10 ^ places ≤ 9 / 8 * (10 ^ n * 10 ^ places * 10 ^ places) := by
    rw [← mul_assoc, ← mul_assoc]
    exact mul_le_mul_of_nonneg_right (mul_le_mul_of_nonneg_right hx.le hten.le) hten.le
  rw [abs_div, div_mul_eq_mul_div, div_le_iff₀ hpos]
  refine le_of_mul_le_mul_right ?_ hten
  linarith

section Count

variable {q : ℚ} {n places : ℕ} (hcount : |n - |q| * 10 ^ places| ≤ 1 / 2 + |q| * 10 ^ places * (2 / 5 / 10 ^ 15))
include hcount

/-- A count near that of a whole number is the count of the whole number. -/
private theorem dvd_of_near {k : ℤ} (hk : |q - k| * 10 ^ places < 1 / 2 - |q| * 10 ^ places * (2 / 5 / 10 ^ 15)) :
    10 ^ places ∣ n := by
  have hten : (0 : ℚ) < 10 ^ places := by positivity
  have hsizes : |(|q| * 10 ^ places - |(k : ℚ)| * 10 ^ places)| ≤ |q - k| * 10 ^ places := by
    rw [← sub_mul, abs_mul, abs_of_pos hten]
    exact mul_le_mul_of_nonneg_right (abs_abs_sub_abs_le_abs_sub q k) hten.le
  have htriangle := abs_sub_le (n : ℚ) (|q| * 10 ^ places) (|(k : ℚ)| * 10 ^ places)
  have hlt : |(n : ℚ) - |(k : ℚ)| * 10 ^ places| < 1 := by linarith
  have hzero : |(n : ℤ) - (k.natAbs * 10 ^ places : ℕ)| < 1 := by
    rw [← Int.cast_abs, ← Nat.cast_natAbs] at hlt
    exact_mod_cast hlt
  have heq := Int.abs_lt_one_iff.1 hzero
  exact ⟨k.natAbs, by rw [mul_comm]; omega⟩

/-- A count of whole numbers of places is near a whole number. -/
private theorem near_of_dvd (hdvd : 10 ^ places ∣ n) :
    ∃ k : ℤ, |q - k| * 10 ^ places ≤ 1 / 2 + |q| * 10 ^ places * (2 / 5 / 10 ^ 15) := by
  obtain ⟨m, rfl⟩ := hdvd
  have hten : (0 : ℚ) < 10 ^ places := by positivity
  have hsize : |(|q| - m)| * 10 ^ places ≤ 1 / 2 + |q| * 10 ^ places * (2 / 5 / 10 ^ 15) := by
    have hcast : ((10 ^ places * m : ℕ) : ℚ) - |q| * 10 ^ places = (m - |q|) * 10 ^ places := by
      push_cast
      ring
    rwa [hcast, abs_mul, abs_of_pos hten, abs_sub_comm] at hcount
  obtain hq | hq := abs_choice q
  · exact ⟨m, by rw [hq] at hsize ⊢; exact_mod_cast hsize⟩
  · refine ⟨-m, ?_⟩
    have hflip : |q - ((-m : ℤ) : ℚ)| = |(|q| - m)| := by
      rw [hq, ← abs_neg]
      push_cast
      ring_nf
    rwa [hflip]

end Count

section Units

variable {m n k : ℤ} {places : ℕ}

/-- A whole number that is less than one unit away from a multiple is the multiple. -/
private theorem dvd_of_scaled_lt (h : |(m - k * n : ℚ)| * 10 ^ places < 1 * 10 ^ places) : n ∣ m := by
  have hdist : |m - k * n| < 1 := by exact_mod_cast lt_of_mul_lt_mul_right h (by positivity)
  have hzero := Int.abs_lt_one_iff.1 hdist
  exact ⟨k, by linarith⟩

variable (hn : n ≠ 0)
include hn

private theorem abs_div_sub : |(m / n - k : ℚ)| = |(m - k * n : ℚ)| / |(n : ℚ)| := by
  have hn' : (n : ℚ) ≠ 0 := by exact_mod_cast hn
  rw [← abs_div, sub_div, mul_div_cancel_right₀ _ hn']

/-- A step of few units divides what is near a multiple. -/
private theorem dvd_of_close (hfew : |n| ≤ 10 ^ places) (hk : |(m / n - k : ℚ)| * 10 ^ places < 1) : n ∣ m := by
  have hn' : (0 : ℚ) < |(n : ℚ)| := by exact_mod_cast abs_pos.2 hn
  have hfew' : |(n : ℚ)| ≤ 10 ^ places := by exact_mod_cast hfew
  rw [abs_div_sub hn, div_mul_eq_mul_div, div_lt_one hn'] at hk
  exact dvd_of_scaled_lt (by linarith)

section NearHalf

variable (hk : |(m / n - k : ℚ)| * 10 ^ places ≤ 1 / 2 + |(m / n : ℚ)| * 10 ^ places * (2 / 5 / 10 ^ 15))
include hk

/-- The distance of a number from a multiple of the step, whose quotient is rounded to a whole number. -/
private theorem scaled_le_half :
    |(m - k * n : ℚ)| * 10 ^ places - |(m : ℚ)| * 10 ^ places * (2 / 5 / 10 ^ 15) ≤ 1 / 2 * |(n : ℚ)| := by
  have hn' : (0 : ℚ) < |(n : ℚ)| := by exact_mod_cast abs_pos.2 hn
  rwa [abs_div_sub hn, abs_div, ← sub_le_iff_le_add, div_mul_eq_mul_div, div_mul_eq_mul_div, div_mul_eq_mul_div,
    ← sub_div, div_le_iff₀ hn'] at hk

/-- A step of few units divides a number of at most fifteen digits whose quotient is rounded to a whole number. -/
private theorem dvd_of_near_half (hm : 4 * |m| < 5 * 10 ^ 15) (hfew : |n| ≤ 10 ^ places) : n ∣ m := by
  have hten : (0 : ℚ) < 10 ^ places := by positivity
  have hm' : 4 * |(m : ℚ)| < 5 * 10 ^ 15 := by exact_mod_cast hm
  have hfew' : |(n : ℚ)| ≤ 10 ^ places := by exact_mod_cast hfew
  have hshare : |(m : ℚ)| * 10 ^ places * (2 / 5 / 10 ^ 15) < 1 / 2 * 10 ^ places := by
    rw [mul_right_comm]
    exact mul_lt_mul_of_pos_right (by linarith) hten
  have hscaled := scaled_le_half hn hk
  exact dvd_of_scaled_lt (by linarith)

private theorem le_of_near_half (hsmall : |m| * 10 ^ places ≤ 10 ^ 15) : 2 * |m - k * n| * 10 ^ places ≤ |n| := by
  have hsmall' : |(m : ℚ)| * 10 ^ places ≤ 10 ^ 15 := by exact_mod_cast hsmall
  have hscaled := scaled_le_half hn hk
  have hlt : 2 * |(m - k * n : ℚ)| * 10 ^ places < |(n : ℚ)| + 1 := by linarith
  exact Int.lt_add_one_iff.1 (by exact_mod_cast hlt)

end NearHalf

private theorem near_half_of_lt (hsmall : |m| * 10 ^ places ≤ 10 ^ 15) (hk : 2 * |m - k * n| * 10 ^ places < |n|) :
    |(m / n - k : ℚ)| * 10 ^ places < 1 / 2 - |(m / n : ℚ)| * 10 ^ places * (2 / 5 / 10 ^ 15) := by
  have hn' : (0 : ℚ) < |(n : ℚ)| := by exact_mod_cast abs_pos.2 hn
  have hk' : 2 * |(m - k * n : ℚ)| * 10 ^ places + 1 ≤ |(n : ℚ)| := by exact_mod_cast hk
  have hsmall' : |(m : ℚ)| * 10 ^ places ≤ 10 ^ 15 := by exact_mod_cast hsmall
  rw [abs_div_sub hn, abs_div, lt_sub_iff_add_lt, div_mul_eq_mul_div, div_mul_eq_mul_div, div_mul_eq_mul_div,
    ← add_div, div_lt_iff₀ hn']
  linarith

end Units

/-- What the count of places of a quotient says about the exact quotient. -/
private theorem multiples_of_count {x s : ℚ} {count places : ℕ} (hs0 : s ≠ 0)
    (hprecise : |x / s| * 10 ^ places ≤ 10 ^ 15)
    (hcount : |count - |x / s| * 10 ^ places| ≤ 1 / 2 + |x / s| * 10 ^ places * (2 / 5 / 10 ^ 15)) :
    ((∃ k : ℤ, x = k * s) → 10 ^ places ∣ count) ∧
      (10 ^ places ∣ count → ∃ k : ℤ, |x / s - k| * 10 ^ places < 1) ∧
      ∀ (unit : ℚ) (m n : ℤ), x = m * unit → s = n * unit →
        (|n| ≤ 10 ^ places → (10 ^ places ∣ count ↔ n ∣ m)) ∧
        (|m| * 10 ^ places ≤ 10 ^ 15 →
          ((∃ k : ℤ, 2 * |m - k * n| * 10 ^ places < |n|) → 10 ^ places ∣ count) ∧
          (10 ^ places ∣ count → ∃ k : ℤ, 2 * |m - k * n| * 10 ^ places ≤ |n|)) := by
  have hmultiple : (∃ k : ℤ, x = k * s) → 10 ^ places ∣ count := by
    rintro ⟨k, hk⟩
    refine dvd_of_near (k := k) hcount ?_
    have hquotient : x / s = k := by rw [hk, mul_div_cancel_right₀ _ hs0]
    rw [hquotient] at hprecise ⊢
    rw [sub_self, abs_zero, zero_mul]
    linarith
  have hclose : 10 ^ places ∣ count → ∃ k : ℤ, |x / s - k| * 10 ^ places < 1 := fun h => by
    obtain ⟨k, hk⟩ := near_of_dvd hcount h
    exact ⟨k, by linarith⟩
  refine ⟨hmultiple, hclose, fun unit m n hm hn => ?_⟩
  have hunit : unit ≠ 0 := fun h => hs0 (by rw [hn, h, mul_zero])
  have hn0 : n ≠ 0 := by
    rintro rfl
    exact hs0 (by rw [hn, Int.cast_zero, zero_mul])
  have hquotient : x / s = m / n := by rw [hm, hn, mul_div_mul_right _ _ hunit]
  rw [hquotient] at hcount hclose
  refine ⟨fun hfew => ⟨fun h => ?_, ?_⟩, fun hsmall => ⟨?_, fun h => ?_⟩⟩
  · obtain ⟨k, hk⟩ := hclose h
    exact dvd_of_close hn0 hfew hk
  · rintro ⟨k, rfl⟩
    exact hmultiple ⟨k, by rw [hm, hn]; push_cast; ring⟩
  · rintro ⟨k, hk⟩
    exact dvd_of_near hcount (near_half_of_lt hn0 hsmall hk)
  · obtain ⟨k, hk⟩ := near_of_dvd hcount h
    exact ⟨k, le_of_near_half hn0 hk hsmall⟩

namespace FloatCheck

/-- The check of the digits and the range alone. -/
def withoutStep (c : FloatCheck) : FloatCheck :=
  { c with step? := none }

variable {r : Rule} {c : FloatCheck} {step : Float}

/-- A literal that can be read is finite, within the budget, and not smaller than the last decimal place. -/
private theorem of_readLiteral {maxDigits decimalDigits : ℕ} {text : String} {x : Float}
    (hplaces : decimalDigits ≤ 22) (h : readLiteral maxDigits decimalDigits text = .ok x) :
    ∃ b, classify x = .finite b ∧ (b.mantissa ≠ 0 → 4 / 5 ≤ b.size * 10 ^ decimalDigits) ∧
      totalDigits x ≤ maxDigits := by
  unfold readLiteral at h
  split at h
  · cases h
  next y hy =>
    obtain ⟨b, hb⟩ := isFinite_iff.1 (Option.filter_eq_some_iff.1 hy).2
    dsimp only at h
    split at h
    · cases h
    next hdigits =>
      cases h
      obtain ⟨d, hd, -⟩ := classify_roundTo hb hplaces
      exact ⟨d, hd, le_size_roundTo hb hplaces hd, Nat.not_lt.1 hdigits⟩

/-- A check with a step lists nothing, and its step is within a budget of at most fifteen digits and neither zero nor
smaller than the last decimal place. -/
private theorem of_ofRule?_step (hc : ofRule? r = .ok c) (hstep : c.step? = some step) :
    c.listed = [] ∧ c.maxDigits ≤ 15 ∧ c.decimalDigits ≤ c.maxDigits ∧ totalDigits step ≤ c.maxDigits ∧
      ∃ b, classify step = .finite b ∧ b.mantissa ≠ 0 ∧ 4 / 5 ≤ b.size * 10 ^ c.decimalDigits := by
  obtain ⟨_, -, h⟩ := bind_eq_ok.1 hc
  obtain ⟨⟨bits, limit⟩, hwidth⟩ : ∃ w, widthOfName r.name = w := ⟨_, rfl⟩
  have hlimit : limit ≤ 15 := by
    have : (widthOfName r.name).2 ≤ 15 := by
      unfold widthOfName
      split <;> decide
    rwa [hwidth] at this
  rw [hwidth] at h
  dsimp only at h
  split at h
  · cases h
  obtain ⟨maxDigits?, -, h⟩ := bind_eq_ok.1 h
  obtain ⟨decimalDigits?, -, h⟩ := bind_eq_ok.1 h
  split at h
  · cases h
  next hmax =>
  split at h
  · cases h
  next hdecimals =>
  obtain ⟨bounds, -, h⟩ := bind_eq_ok.1 h
  split at h
  · split at h
    next text _ =>
      obtain ⟨x, hx, h⟩ := bind_eq_ok.1 h
      split at h
      · cases h
      next hzero =>
      cases h
      obtain rfl := Option.some.inj hstep
      obtain ⟨b, hb, hsize, hdigits⟩ := of_readLiteral (by omega) hx
      have hb0 : b.mantissa ≠ 0 := by simpa [isZero, hb] using hzero
      exact ⟨rfl, by dsimp only; omega, by dsimp only; omega, hdigits, b, hb, hb0, hsize hb0⟩
    · obtain ⟨_, -, h⟩ := bind_eq_ok.1 h
      cases h
      cases hstep
  · obtain ⟨_, -, h⟩ := bind_eq_ok.1 h
    cases h
    cases hstep

/-- A check with a step passes what passes without the step and is a multiple. -/
private theorem check_eq_none_iff (hlisted : c.listed = []) (hstep : c.step? = some step) {v : Value} {x : Float}
    (hx : denoted? v = some x) (hpass : c.withoutStep.check v = none) :
    totalDigits x ≤ c.maxDigits ∧ (c.check v = none ↔ c.isMultiple x step = true) := by
  simp only [check, withoutStep, hx, checkFloat, hlisted, hstep, List.isEmpty_nil, if_true,
    Option.orElse_eq_none] at hpass ⊢
  obtain ⟨htotal, hdecimals, hbounds, -⟩ := hpass
  refine ⟨?_, ?_⟩
  · by_contra hmany
    simp [digitCause, hmany] at htotal
  · simp [htotal, hdecimals, hbounds]

private theorem exists_compiled {text : String} {test : FloatCheck → Bool}
    (h : ((Rule.parse text).toOption.any fun r => (ofRule? r).toOption.any test) = true) :
    ∃ r c, Rule.parse text = .ok r ∧ ofRule? r = .ok c ∧ test c = true := by
  obtain ⟨r, hr, h⟩ := exists_of_toOption_any h
  obtain ⟨c, hc, h⟩ := exists_of_toOption_any h
  exact ⟨r, c, hr, hc, h⟩

/-- A rule with a step divides by it and rounds the quotient to the decimal places of the rule. Of whole numbers the
multiples of a whole step pass, and when the step is no greater than there are units of the last place in one, nothing
else does. In general, if the quotient has no more than fifteen digits with so many places, as it always has in a
small budget, then the multiples pass, and what passes has a quotient less than one unit of the last place away from a
whole number. So a step of no more units than there are in one passes just the multiples; and when the number itself
has no more than fifteen digits with so many places, the exact quotient is rounded, with ties going either way. -/
theorem check_multiples (hc : ofRule? r = .ok c) (hstep : c.step? = some step) {v : Value}
    (hpass : c.withoutStep.check v = none) :
    ∃ x s : ℚ, v.StandsFor x ∧ (Value.float step).StandsFor s ∧ s ≠ 0 ∧
      (c.maxDigits + 2 * c.decimalDigits ≤ 14 → |x / s| * 10 ^ c.decimalDigits ≤ 10 ^ 15) ∧
      (∀ m n : ℤ, x = m → s = n →
        (n ∣ m → c.check v = none) ∧ (|n| ≤ 10 ^ c.decimalDigits → (c.check v = none ↔ n ∣ m))) ∧
      (|x / s| * 10 ^ c.decimalDigits ≤ 10 ^ 15 →
        ((∃ k : ℤ, x = k * s) → c.check v = none) ∧
        (c.check v = none → ∃ k : ℤ, |x / s - k| * 10 ^ c.decimalDigits < 1) ∧
        ∀ (unit : ℚ) (m n : ℤ), x = m * unit → s = n * unit →
          (|n| ≤ 10 ^ c.decimalDigits → (c.check v = none ↔ n ∣ m)) ∧
          (|m| * 10 ^ c.decimalDigits ≤ 10 ^ 15 →
            ((∃ k : ℤ, 2 * |m - k * n| * 10 ^ c.decimalDigits < |n|) → c.check v = none) ∧
            (c.check v = none → ∃ k : ℤ, 2 * |m - k * n| * 10 ^ c.decimalDigits ≤ |n|))) := by
  obtain ⟨hlisted, hmax, hdecimals, hdigits, b, hb, hb0, hsize⟩ := of_ofRule?_step hc hstep
  have hdenoted : denoted? (.float step) = some step := if_pos (isFinite_iff.2 ⟨b, hb⟩)
  obtain ⟨y, hy⟩ : ∃ y, denoted? v = some y := by
    cases hy : denoted? v with
    | none => simp [check, withoutStep, hy] at hpass
    | some y => exact ⟨y, rfl⟩
  obtain ⟨x, hx⟩ := exists_standsFor hy
  obtain ⟨s, hs⟩ := exists_standsFor hdenoted
  obtain ⟨htotal, hcheck⟩ := check_eq_none_iff hlisted hstep hy hpass
  have hxnear := hx.approximates hy (htotal.trans hmax)
  have hsnear := hs.approximates hdenoted (hdigits.trans hmax)
  obtain ⟨hs0, hsclose⟩ := hsnear.of_mantissa_ne_zero hb hb0
  obtain ⟨count, hdvd, hcount, hwhole⟩ := exists_count hxnear hsnear hs0 (hdecimals.trans hmax)
  rw [show c.check v = none ↔ 10 ^ c.decimalDigits ∣ count by rw [hcheck, isMultiple, hdvd]]
  refine ⟨x, s, hx, hs, hs0, fun hfew => ?_, fun m n hm hn => ?_, fun hprecise =>
    multiples_of_count hs0 hprecise hcount⟩
  · have hslow : 3 / 4 ≤ |s| * 10 ^ c.decimalDigits := by
      have := mul_le_mul_of_nonneg_right (abs_le.1 hsclose).1 (by positivity : (0 : ℚ) ≤ 10 ^ c.decimalDigits)
      linarith
    exact precise_of_few (hxnear.abs_lt hmax htotal) hslow hfew
  · have hn0 : n ≠ 0 := by
      rintro rfl
      exact hs0 (by rw [hn, Int.cast_zero])
    rw [hm] at hxnear hcount
    rw [hn] at hsnear hcount
    have hm15 := hxnear.abs_lt_of_int (htotal.trans hmax)
    have hn15 := hsnear.abs_lt_of_int (hdigits.trans hmax)
    have hpasses : n ∣ m → 10 ^ c.decimalDigits ∣ count := hwhole m n hm hn (by omega) (by omega)
    refine ⟨hpasses, fun hfew => ⟨fun h => ?_, hpasses⟩⟩
    obtain ⟨k, hk⟩ := near_of_dvd hcount h
    exact dvd_of_near_half hn0 hk hm15 hfew

/-- Neither bound can be dropped: without decimal places, three halves are rounded to two; and at fifteen places, six
tenths by one tenth have one digit too many. -/
theorem check_multiples_exceptions :
    (∃ r c, Rule.parse "@float<5,0>{%2}" = .ok r ∧ ofRule? r = .ok c ∧ c.step? = some 2 ∧
      (Value.float 2).StandsFor 2 ∧ (Value.int 3).StandsFor 3 ∧ c.withoutStep.check (.int 3) = none ∧
      c.check (.int 3) = none ∧ ¬∃ k : ℤ, (3 : ℚ) = k * 2) ∧
    ∃ r c, Rule.parse "@double<15,15>{%0.1}" = .ok r ∧ ofRule? r = .ok c ∧ c.step? = some 0.1 ∧
      (Value.float 0.1).StandsFor (1 / 10) ∧ (Value.float 0.6).StandsFor (6 / 10) ∧
      c.withoutStep.check (.float 0.6) = none ∧ c.check (.float 0.6) ≠ none ∧ (6 / 10 : ℚ) = (6 : ℤ) * (1 / 10) := by
  constructor
  · obtain ⟨r, c, hr, hc, hruns⟩ := @exists_compiled "@float<5,0>{%2}" (fun c => decide (c.step? = some 2 ∧
      c.withoutStep.check (.int 3) = none ∧ c.check (.int 3) = none)) (by decide +kernel)
    obtain ⟨hstep, hpass, hcheck⟩ := of_decide_eq_true hruns
    have hs : (Value.float 2).StandsFor 2 := by
      refine .of_shortest (b := ⟨false, 2 ^ 52, -51, true⟩) (d := ⟨2, 0⟩) ?_ ?_ ?_
      · decide +kernel
      · decide +kernel
      · norm_num [Binary.sign, Digits.value]
    refine ⟨r, c, hr, hc, hstep, hs, .int 3, hpass, hcheck, ?_⟩
    rintro ⟨k, hk⟩
    have hodd : (3 : ℤ) = k * 2 := by exact_mod_cast hk
    omega
  · obtain ⟨r, c, hr, hc, hruns⟩ := @exists_compiled "@double<15,15>{%0.1}" (fun c => decide (c.step? = some 0.1 ∧
      c.withoutStep.check (.float 0.6) = none ∧ c.check (.float 0.6) ≠ none)) (by decide +kernel)
    obtain ⟨hstep, hpass, hcheck⟩ := of_decide_eq_true hruns
    have hs : (Value.float 0.1).StandsFor (1 / 10) := by
      refine .of_shortest (b := ⟨false, 7205759403792794, -56, false⟩) (d := ⟨1, -1⟩) ?_ ?_ ?_
      · decide +kernel
      · decide +kernel
      · norm_num [Binary.sign, Digits.value]
    have hx : (Value.float 0.6).StandsFor (6 / 10) := by
      refine .of_shortest (b := ⟨false, 5404319552844595, -53, false⟩) (d := ⟨6, -1⟩) ?_ ?_ ?_
      · decide +kernel
      · decide +kernel
      · norm_num [Binary.sign, Digits.value]
    exact ⟨r, c, hr, hc, hstep, hs, hx, hpass, hcheck, by norm_num⟩

/-- A negative number that is a multiple, though neither it nor the step is a binary fraction; and two whole numbers
whose quotient has more than fifteen digits with its places. -/
theorem check_multiples_tenths :
    (∃ r c, Rule.parse "@float{%2.2}" = .ok r ∧ ofRule? r = .ok c ∧ c.decimalDigits = 2 ∧ c.step? = some 2.2 ∧
      (Value.float 2.2).StandsFor (22 / 10) ∧ (Value.float (-6.6)).StandsFor (-66 / 10) ∧
      c.withoutStep.check (.float (-6.6)) = none ∧ |(-66 / 10 : ℚ) / (22 / 10)| * 10 ^ 2 ≤ 10 ^ 15 ∧
      c.check (.float (-6.6)) = none) ∧
    ∃ r c, Rule.parse "@double{%7}" = .ok r ∧ ofRule? r = .ok c ∧ c.decimalDigits = 2 ∧ c.step? = some 7 ∧
      (Value.float 7).StandsFor 7 ∧ c.withoutStep.check (.int 700000000000007) = none ∧
      c.withoutStep.check (.int 700000000000008) = none ∧ 10 ^ 15 < |(700000000000007 / 7 : ℚ)| * 10 ^ 2 ∧
      c.check (.int 700000000000007) = none ∧ c.check (.int 700000000000008) ≠ none := by
  constructor
  · obtain ⟨r, c, hr, hc, hruns⟩ := @exists_compiled "@float{%2.2}" (fun c => decide (c.decimalDigits = 2 ∧
      c.step? = some 2.2 ∧ c.withoutStep.check (.float (-6.6)) = none)) (by decide +kernel)
    obtain ⟨hplaces, hstep, hpass⟩ := of_decide_eq_true hruns
    have hs : (Value.float 2.2).StandsFor (22 / 10) := by
      refine .of_shortest (b := ⟨false, 4953959590107546, -51, false⟩) (d := ⟨22, -1⟩) ?_ ?_ ?_
      · decide +kernel
      · decide +kernel
      · norm_num [Binary.sign, Digits.value]
    have hx : (Value.float (-6.6)).StandsFor (-66 / 10) := by
      refine .of_shortest (b := ⟨true, 7430939385161318, -50, false⟩) (d := ⟨66, -1⟩) ?_ ?_ ?_
      · decide +kernel
      · decide +kernel
      · norm_num [Binary.sign, Digits.value]
    have hprecise : |(-66 / 10 : ℚ) / (22 / 10)| * 10 ^ 2 ≤ 10 ^ 15 := by norm_num
    obtain ⟨x, s, hx', hs', -, -, -, hverdict⟩ := check_multiples hc hstep hpass
    obtain rfl := hx'.unique hx
    obtain rfl := hs'.unique hs
    obtain ⟨hmultiple, -, -⟩ := hverdict (hplaces ▸ hprecise)
    exact ⟨r, c, hr, hc, hplaces, hstep, hs, hx, hpass, hprecise, hmultiple ⟨-3, by norm_num⟩⟩
  · obtain ⟨r, c, hr, hc, hruns⟩ := @exists_compiled "@double{%7}" (fun c => decide (c.decimalDigits = 2 ∧
      c.step? = some 7 ∧ c.withoutStep.check (.int 700000000000007) = none ∧
      c.withoutStep.check (.int 700000000000008) = none)) (by decide +kernel)
    obtain ⟨hplaces, hstep, hpass, hpass'⟩ := of_decide_eq_true hruns
    have hs : (Value.float 7).StandsFor 7 := by
      refine .of_shortest (b := ⟨false, 7881299347898368, -50, false⟩) (d := ⟨7, 0⟩) ?_ ?_ ?_
      · decide +kernel
      · decide +kernel
      · norm_num [Binary.sign, Digits.value]
    have hwhole : ∀ {n : Int64}, c.withoutStep.check (.int n) = none →
        (c.check (.int n) = none ↔ (7 : ℤ) ∣ n.toInt) := by
      intro n hpass
      obtain ⟨x, s, hx', hs', -, -, hwhole, -⟩ := check_multiples hc hstep hpass
      obtain rfl := hx'.unique (.int n)
      obtain rfl := hs'.unique hs
      exact (hwhole _ 7 rfl (by norm_num)).2 (by rw [hplaces]; decide)
    have hseven : (7 : ℤ) ∣ Int64.toInt 700000000000007 := ⟨100000000000001, rfl⟩
    have height : ¬(7 : ℤ) ∣ Int64.toInt 700000000000008 := by decide
    exact ⟨r, c, hr, hc, hplaces, hstep, hs, hpass, hpass', by norm_num, (hwhole hpass).2 hseven,
      (hwhole hpass').not.2 height⟩

end FloatCheck

end FieldRules
