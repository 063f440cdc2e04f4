import FieldRules.Decimal.Fixed
import FieldRules.Proofs.Decimal.Arithmetic

/-!
# Rounding to decimal places

A number counted in units of the last decimal place is at most half a unit off (`Decimal.Binary.inPlaces_near`), and
what it is rounded to is a whole number exactly when that count is a multiple of the units in one
(`Decimal.integer?_roundTo_isSome`).
-/

namespace FieldRules.Decimal

namespace Binary

private theorem size_nonneg (b : Binary) : 0 ≤ b.size := by
  unfold size
  positivity

private theorem value_eq (b : Binary) : b.value = b.sign * b.size := by
  unfold value size
  ring

/-- The count of decimal places is the nearest one. -/
theorem inPlaces_near (b : Binary) (places : ℕ) : 2 * |(b.inPlaces places : ℚ) - b.size * 10 ^ places| ≤ 1 := by
  obtain ⟨n, hn⟩ : ∃ n, b.mantissa * 2 ^ b.exponent.toNat * 10 ^ places = n := ⟨_, rfl⟩
  obtain ⟨d, hd⟩ : ∃ d, 2 ^ (-b.exponent).toNat = d := ⟨_, rfl⟩
  have hdpos : 0 < d := hd ▸ by positivity
  have hcount : b.inPlaces places = roundDiv n d := by rw [← hn, ← hd]; rfl
  have hscaled : b.size * 10 ^ places = n / d := by
    rw [size, zpow_eq_div two_ne_zero, ← hn, ← hd]
    push_cast
    ring
  have hdpos' : (0 : ℚ) < d := by exact_mod_cast hdpos
  have hlow : (2 * n : ℚ) ≤ 2 * (roundDiv n d * d) + d := by exact_mod_cast le_roundDiv_mul n d hdpos
  have hhigh : 2 * (roundDiv n d * d) ≤ (2 * n + d : ℚ) := by exact_mod_cast roundDiv_mul_le n d hdpos
  rw [hcount, hscaled, ← le_div_iff₀' two_pos, abs_le]
  constructor
  · rw [neg_le_sub_iff_le_add, div_le_iff₀ hdpos']
    linarith
  · rw [sub_le_iff_le_add, ← sub_le_iff_le_add', le_div_iff₀ hdpos']
    linarith

end Binary

/-- The number is whole when its size is. -/
private theorem integer?_isSome_iff {x : Float} {b : Binary} (hx : classify x = .finite b) :
    (integer? x).isSome ↔ ∃ n : ℕ, b.size = n := by
  rw [Option.isSome_iff_exists]
  simp only [integer?_eq_some_iff, hx, FloatClass.finite.injEq, exists_eq_left', Binary.value_eq]
  have hsign : (b.sign : ℚ) * b.sign = 1 := by exact_mod_cast b.sign_mul_sign
  constructor
  · rintro ⟨n, hn⟩
    have hsize : b.size = (b.sign * n : ℤ) := by
      rw [Int.cast_mul, ← hn, ← mul_assoc, hsign, one_mul]
    have hnonneg : 0 ≤ b.sign * n := by exact_mod_cast hsize ▸ b.size_nonneg
    refine ⟨(b.sign * n).toNat, ?_⟩
    rw [hsize]
    exact_mod_cast (Int.toNat_of_nonneg hnonneg).symm
  · rintro ⟨n, hn⟩
    exact ⟨b.sign * n, by rw [hn]; push_cast; rfl⟩

/-- The count of decimal places of a number stands for a number in the range. -/
private theorem inPlaces_lt_roundingLimit {x : Float} {b : Binary} (hx : classify x = .finite b) (places : ℕ) :
    (b.inPlaces places / 10 ^ places : ℚ) < roundingLimit := by
  obtain ⟨hmantissa, -, hexponent, -⟩ := classify_bounds hx
  have hten : (1 : ℚ) ≤ 10 ^ places := one_le_pow₀ (by norm_num)
  have hunit : (1 : ℚ) < 2 ^ (971 : ℤ) := one_lt_zpow₀ one_lt_two (by norm_num)
  have hsize : b.size ≤ (2 ^ 53 - 1) * 2 ^ (971 : ℤ) := by
    have hplaces : (b.mantissa : ℚ) ≤ 2 ^ 53 - 1 := by
      rw [le_sub_iff_add_le]
      exact_mod_cast hmantissa
    exact mul_le_mul hplaces (zpow_le_zpow_right₀ one_le_two hexponent) (by positivity) (by norm_num)
  have hcount := (abs_le.1 ((le_div_iff₀' two_pos).2 (b.inPlaces_near places))).2
  have hscaled := mul_le_mul_of_nonneg_right hsize (zero_le_one.trans hten)
  have hproduct : (1 : ℚ) < 2 ^ (971 : ℤ) * 10 ^ places := one_lt_mul_of_lt_of_le hunit hten
  rw [div_lt_iff₀ (by positivity), roundingLimit]
  generalize (2 : ℚ) ^ (971 : ℤ) = u at *
  linarith

/-- A finite number rounded to decimal places is finite, and the one nearest to its count of places. -/
theorem classify_roundTo {x : Float} {b : Binary} {places : ℕ} (hx : classify x = .finite b) (hplaces : places ≤ 22) :
    ∃ r : Binary, classify (roundTo x places) = .finite r ∧ Near (b.inPlaces places / 10 ^ places) r.size := by
  obtain ⟨q, hq, -, hshape, hnear⟩ := classify_ofScientific hplaces (inPlaces_lt_roundingLimit hx places)
  simp only [roundTo, hx]
  split
  · obtain ⟨r, hr, -, hsize⟩ := classify_neg hq hshape
    exact ⟨r, hr, hsize ▸ hnear⟩
  · exact ⟨q, hq, hnear⟩

/-- What is rounded to decimal places is zero or at least about one unit of the last place. -/
theorem le_size_roundTo {x : Float} {b r : Binary} {places : ℕ} (hx : classify x = .finite b) (hplaces : places ≤ 22)
    (hr : classify (roundTo x places) = .finite r) (hr0 : r.mantissa ≠ 0) : 4 / 5 ≤ r.size * 10 ^ places := by
  obtain ⟨r', hr', hnear⟩ := classify_roundTo hx hplaces
  obtain rfl : r = r' := FloatClass.finite.inj (hr.symm.trans hr')
  have hten : (0 : ℚ) < 10 ^ places := by positivity
  have hcount : b.inPlaces places ≠ 0 := by
    intro hzero
    rw [hzero, Nat.cast_zero, zero_div] at hnear
    have hsize := hnear.eq_zero
    rw [Binary.size, mul_eq_zero] at hsize
    exact hsize.elim (fun h => hr0 (by exact_mod_cast h)) (zpow_ne_zero _ two_ne_zero)
  have hone : (1 : ℚ) ≤ b.inPlaces places / 10 ^ places * 10 ^ places := by
    rw [div_mul_cancel₀ _ hten.ne']
    exact_mod_cast Nat.pos_of_ne_zero hcount
  have hlow := mul_le_mul_of_nonneg_right (abs_le.1 hnear.abs_sub_le).1 hten.le
  linarith

/-- A number rounded to decimal places is whole when the count of places is a multiple of the places of one, however
many binary places that takes: the number itself is near the count, and none is nearer than what it is rounded to. -/
theorem integer?_roundTo_isSome {x : Float} {b : Binary} {places : ℕ} (hx : classify x = .finite b)
    (hplaces : places ≤ 22) : (integer? (roundTo x places)).isSome ↔ 10 ^ places ∣ b.inPlaces places := by
  obtain ⟨r, hr, hnear⟩ := classify_roundTo hx hplaces
  have hten : (0 : ℚ) < 10 ^ places := by positivity
  rw [integer?_isSome_iff hr]
  constructor
  · rintro ⟨n, hn⟩
    have hscale (q : ℚ) : |q - b.inPlaces places / 10 ^ places| * 10 ^ places =
        |q * 10 ^ places - b.inPlaces places| := by
      rw [← abs_of_pos hten, ← abs_mul, abs_of_pos hten, sub_mul, div_mul_cancel₀ _ hten.ne']
    have hclose : |(n * 10 ^ places - b.inPlaces places : ℚ)| ≤ |b.size * 10 ^ places - b.inPlaces places| := by
      rw [← hscale, ← hscale, ← hn]
      exact mul_le_mul_of_nonneg_right (hnear.abs_sub_le_abs_sub (classify_bounds hx).1 b.exponent) hten.le
    have hcount := b.inPlaces_near places
    rw [abs_sub_comm] at hcount
    have hhalf : 2 * |(n * 10 ^ places - b.inPlaces places : ℚ)| ≤ 1 := by linarith
    have hdist : 2 * |((n * 10 ^ places : ℕ) : ℤ) - b.inPlaces places| ≤ 1 := by exact_mod_cast hhalf
    have hzero := Int.abs_lt_one_iff.1 (show |((n * 10 ^ places : ℕ) : ℤ) - b.inPlaces places| < 1 by omega)
    exact ⟨n, by rw [mul_comm]; omega⟩
  · rintro ⟨n, hn⟩
    have hexact : ((10 ^ places * n : ℕ) / 10 ^ places : ℚ) = n := by
      push_cast
      field_simp
    rw [hn, hexact] at hnear
    exact hnear.exists_eq_natCast

end FieldRules.Decimal
