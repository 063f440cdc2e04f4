import Mathlib

/-!
# Rounding in double precision

A number in the middle of the range is rounded to 53 binary places: what comes out is no farther from it than half of
the last place (`Decimal.Near`), and this is what the logical model of floating-point numbers does
(`Decimal.roundWithAccuracy_near`). The model keeps the whole part of a number and two bits that tell where the number
lies above it (`Decimal.Locates`).
-/

namespace FieldRules.Decimal

open Float.Model Float.Model.UnpackedFloat

/-- The second number is a multiple of a power of two that has no more than the 52nd part of a place of the first, and
none of its multiples is nearer. -/
def Near (x y : ℚ) : Prop :=
  ∃ (m : ℕ) (e : ℤ), y = m * 2 ^ e ∧ 2 * |y - x| ≤ 2 ^ e ∧ (x ≠ 0 → 2 ^ 52 * (2 : ℚ) ^ e ≤ x)

/-- Rounding leaves zero alone. -/
theorem Near.eq_zero {y : ℚ} (h : Near 0 y) : y = 0 := by
  obtain ⟨m, e, rfl, herror, -⟩ := h
  have hunit : (0 : ℚ) < 2 ^ e := by positivity
  rw [sub_zero, abs_of_nonneg (by positivity), ← mul_assoc, mul_le_iff_le_one_left hunit] at herror
  have hm : 2 * m ≤ 1 := by exact_mod_cast herror
  obtain rfl : m = 0 := by omega
  simp

/-- Rounding changes a number by a small part of it. -/
theorem Near.abs_sub_le {x y : ℚ} (h : Near x y) : |y - x| ≤ x / 2 ^ 53 := by
  by_cases hx : x = 0
  · subst hx
    simp [h.eq_zero]
  · obtain ⟨m, e, -, herror, hlow⟩ := h
    rw [le_div_iff₀ (by positivity)]
    have := hlow hx
    linarith

/-- A multiple of a unit that is no greater than one is a whole number when it is less than a unit away from it. -/
theorem eq_natCast_of_unit {m n : ℕ} {e : ℤ} (he : e ≤ 0) (h : |(m * 2 ^ e - n : ℚ)| < 2 ^ e) :
    (m * 2 ^ e : ℚ) = n := by
  obtain ⟨k, rfl⟩ : ∃ k : ℕ, e = -k := ⟨(-e).toNat, by omega⟩
  have hunit : (0 : ℚ) < 2 ^ (-(k : ℤ)) := by positivity
  have hn : (n : ℚ) = (n * 2 ^ k : ℕ) * 2 ^ (-(k : ℤ)) := by
    push_cast
    rw [mul_assoc, zpow_neg, zpow_natCast, mul_inv_cancel₀ (by positivity), mul_one]
  rw [hn, ← sub_mul, abs_mul, abs_of_pos hunit, mul_lt_iff_lt_one_left hunit] at h
  have hdist : |(m : ℤ) - (n * 2 ^ k : ℕ)| < 1 := by exact_mod_cast h
  have hm : m = n * 2 ^ k := by
    have := Int.abs_lt_one_iff.1 hdist
    omega
  rw [hn, hm]

/-- Rounding leaves whole numbers whole. -/
theorem Near.exists_eq_natCast {n : ℕ} {y : ℚ} (h : Near n y) : ∃ k : ℕ, y = k := by
  obtain ⟨m, e, rfl, herror, -⟩ := h
  have hunit : (0 : ℚ) < 2 ^ e := by positivity
  rcases le_total e 0 with he | he
  · exact ⟨n, eq_natCast_of_unit he (by linarith)⟩
  · obtain ⟨k, rfl⟩ := Int.eq_ofNat_of_zero_le he
    exact ⟨m * 2 ^ k, by push_cast; rfl⟩

/-- Rounding leaves whole numbers alone that are not too large. -/
theorem Near.eq_natCast {n : ℕ} {y : ℚ} (h : Near n y) (hn : n < 2 ^ 53) : y = n := by
  obtain rfl | hpos := n.eq_zero_or_pos
  · simpa using h.eq_zero
  obtain ⟨m, e, rfl, herror, hlow⟩ := h
  have hlow := hlow (by positivity)
  have hunit : (0 : ℚ) < 2 ^ e := by positivity
  have he : e ≤ 0 := by
    by_contra hpos
    have htwo : (2 : ℚ) ≤ 2 ^ e := by
      simpa using zpow_le_zpow_right₀ (one_le_two (α := ℚ)) (show 1 ≤ e by omega)
    have hlt : (n : ℚ) < 2 ^ 53 := by exact_mod_cast hn
    linarith
  exact eq_natCast_of_unit he (by linarith)

/-- No number of at most 53 places is nearer than the rounded one. -/
theorem Near.abs_sub_le_abs_sub {x y : ℚ} (h : Near x y) {m : ℕ} (hm : m < 2 ^ 53) (e : ℤ) :
    |y - x| ≤ |m * 2 ^ e - x| := by
  obtain rfl | hx := eq_or_ne x 0
  · rw [h.eq_zero, sub_zero, abs_zero]
    exact abs_nonneg _
  obtain ⟨n, k, rfl, herror, hlow⟩ := h
  have hlow := hlow hx
  have hunit : (0 : ℚ) < 2 ^ k := by positivity
  rcases le_or_gt k e with hke | hke
  · -- Both are multiples of the same unit, so they are equal or at least one unit apart.
    obtain ⟨i, rfl⟩ : ∃ i : ℕ, e = i + k := ⟨(e - k).toNat, by omega⟩
    have hsame : (m * 2 ^ (i + k : ℤ) : ℚ) = (m * 2 ^ i : ℕ) * 2 ^ k := by
      rw [zpow_add₀ two_ne_zero, zpow_natCast]
      push_cast
      ring
    rw [hsame]
    by_cases heq : m * 2 ^ i = n
    · rw [heq]
    have hapart : (2 : ℚ) ^ k ≤ |((m * 2 ^ i : ℕ) * 2 ^ k - n * 2 ^ k : ℚ)| := by
      rw [← sub_mul, abs_mul, abs_of_pos hunit]
      refine le_mul_of_one_le_left hunit.le ?_
      exact_mod_cast Int.one_le_abs (show ((m * 2 ^ i : ℕ) : ℤ) - n ≠ 0 by omega)
    have htriangle := abs_sub_abs_le_abs_sub ((m * 2 ^ i : ℕ) * 2 ^ k - n * 2 ^ k : ℚ) (x - n * 2 ^ k)
    rw [sub_sub_sub_cancel_right, abs_sub_comm x] at htriangle
    linarith
  · -- The other number has its last place below the unit, so it lies at least half a unit below.
    have hplaces : (m : ℚ) ≤ 2 ^ 53 - 1 := by
      rw [le_sub_iff_add_le]
      exact_mod_cast hm
    have hhalf : (2 : ℚ) ^ k = 2 * 2 ^ (k - 1) := by
      rw [← zpow_one_add₀ two_ne_zero]
      congr 1
      omega
    have hbelow : (m * 2 ^ e : ℚ) ≤ (2 ^ 53 - 1) * 2 ^ (k - 1) :=
      mul_le_mul hplaces (zpow_le_zpow_right₀ one_le_two (by omega)) (by positivity) (by norm_num)
    have hdistance : x - m * 2 ^ e ≤ |m * 2 ^ e - x| := by
      rw [abs_sub_comm]
      exact le_abs_self _
    linarith

/-! ### The bits behind the whole part -/

/-- The number lies above the whole number as the accuracy says. -/
def Locates (m : ℕ) : Accuracy → ℚ → Prop
  | .exact, x => x = m
  | .inexact .lt, x => m < x ∧ x < m + 1 / 2
  | .inexact .eq, x => x = m + 1 / 2
  | .inexact .gt, x => m + 1 / 2 < x ∧ x < m + 1

private theorem Locates.lt {m : ℕ} {a : Accuracy} {x : ℚ} (h : Locates m a x) : x < m + 1 := by
  rcases a with _ | _ | _ | _ <;> simp only [Locates] at h <;> linarith

private theorem Locates.le {m : ℕ} {a : Accuracy} {x : ℚ} (h : Locates m a x) : m ≤ x := by
  rcases a with _ | _ | _ | _ <;> simp only [Locates] at h <;> linarith

/-- Rounding by the bits goes to the nearest whole number. -/
private theorem Locates.abs_sub_le {m : ℕ} {a : Accuracy} {x : ℚ} (h : Locates m a x) :
    2 * |(a.roundToNearestEven m : ℚ) - x| ≤ 1 := by
  have hbounds : -(1 / 2) ≤ (a.roundToNearestEven m : ℚ) - x ∧ (a.roundToNearestEven m : ℚ) - x ≤ 1 / 2 := by
    rcases a with _ | _ | _ | _ <;> simp only [Locates] at h <;> simp only [Accuracy.roundToNearestEven]
    · constructor <;> linarith
    · constructor <;> linarith
    · rcases Nat.mod_two_eq_zero_or_one m with heven | hodd
      · simp only [heven, add_zero]
        constructor <;> linarith
      · simp only [hodd, Nat.cast_add, Nat.cast_one]
        constructor <;> linarith
    · simp only [Nat.cast_add, Nat.cast_one]
      constructor <;> linarith
  have := abs_le.2 hbounds
  linarith

private theorem roundToNearestEven_bounds (a : Accuracy) (m : ℕ) :
    m ≤ a.roundToNearestEven m ∧ a.roundToNearestEven m ≤ m + 1 := by
  rcases a with _ | _ | _ | _ <;> simp only [Accuracy.roundToNearestEven] <;> omega

/-- The bits of a quotient of natural numbers. -/
theorem locates_accuracyOfFraction {n d : ℕ} (hd : 0 < d) :
    Locates (n / d) (accuracyOfFraction (n % d) d) (n / d : ℚ) := by
  have hd' : (0 : ℚ) < d := by exact_mod_cast hd
  have hsplit : (n / d : ℚ) = (n / d : ℕ) + (n % d : ℕ) / d := by
    rw [div_eq_iff hd'.ne', add_mul, div_mul_cancel₀ _ hd'.ne']
    exact_mod_cast (Nat.div_add_mod' n d).symm
  have hlt : ((n % d : ℕ) : ℚ) < d := by exact_mod_cast Nat.mod_lt n hd
  unfold accuracyOfFraction
  split
  next hzero => simp [Locates, hsplit, hzero]
  next hnonzero =>
    have hpos : (0 : ℚ) < (n % d : ℕ) := by exact_mod_cast Nat.pos_of_ne_zero hnonzero
    have hfraction : (0 : ℚ) < (n % d : ℕ) / d ∧ ((n % d : ℕ) / d : ℚ) < 1 :=
      ⟨div_pos hpos hd', (div_lt_one hd').2 hlt⟩
    rcases hcompare : compare (2 * (n % d)) d with _ | _ | _
    · have hhalf : 2 * ((n % d : ℕ) : ℚ) < d := by exact_mod_cast Nat.compare_eq_lt.1 hcompare
      have : ((n % d : ℕ) / d : ℚ) < 1 / 2 := by rw [div_lt_div_iff₀ hd' (by norm_num)]; linarith
      simp only [Locates, hsplit]
      constructor <;> linarith
    · have hhalf : 2 * ((n % d : ℕ) : ℚ) = d := by exact_mod_cast Nat.compare_eq_eq.1 hcompare
      have : ((n % d : ℕ) / d : ℚ) = 1 / 2 := by rw [div_eq_div_iff hd'.ne' (by norm_num)]; linarith
      simp only [Locates, hsplit]
      linarith
    · have hhalf : (d : ℚ) < 2 * (n % d : ℕ) := by exact_mod_cast Nat.compare_eq_gt.1 hcompare
      have : (1 / 2 : ℚ) < (n % d : ℕ) / d := by rw [div_lt_div_iff₀ (by norm_num) hd']; linarith
      simp only [Locates, hsplit]
      constructor <;> linarith

/-- Halving a number moves the last place of its whole part into the bits. -/
private theorem Locates.shiftRightOne {em : ExtendedMantissa} {x : ℚ} (h : Locates em.mantissa em.accuracy x) :
    Locates em.shiftRightOne.mantissa em.shiftRightOne.accuracy (x / 2) := by
  obtain ⟨m, roundBit, stickyBit⟩ := em
  have hm : (m : ℚ) = 2 * (m / 2 : ℕ) + (m % 2 : ℕ) := by exact_mod_cast (Nat.div_add_mod m 2).symm
  have hodd : (1 != 0) = true := rfl
  rcases Nat.mod_two_eq_zero_or_one m with hlast | hlast <;>
    rw [hlast] at hm <;> push_cast at hm <;>
    cases roundBit <;> cases stickyBit <;>
    simp only [ExtendedMantissa.accuracy, Locates] at h <;>
    simp only [ExtendedMantissa.shiftRightOne, ExtendedMantissa.accuracy, hlast, hodd, Locates, Bool.or_false,
      Bool.or_true, bne_self_eq_false] <;>
    first
    | linarith
    | constructor <;> linarith

private theorem Locates.shiftRight {em : ExtendedMantissa} {x : ℚ} (h : Locates em.mantissa em.accuracy x) (n : ℕ) :
    Locates (em >>> n).mantissa (em >>> n).accuracy (x / 2 ^ n) := by
  induction n with
  | zero =>
    rw [pow_zero, div_one]
    exact h
  | succ n ih =>
    rw [pow_succ, ← div_div]
    exact ih.shiftRightOne

private theorem shiftRight_mantissa (em : ExtendedMantissa) (n : ℕ) : (em >>> n).mantissa = em.mantissa / 2 ^ n := by
  induction n with
  | zero =>
    rw [pow_zero, Nat.div_one]
    rfl
  | succ n ih =>
    rw [pow_succ, ← Nat.div_div_eq_div_mul, ← ih]
    rfl

private theorem accuracy_ofMantissaAndAccuracy (m : ℕ) (a : Accuracy) :
    (ExtendedMantissa.ofMantissaAndAccuracy m a).mantissa = m ∧
      (ExtendedMantissa.ofMantissaAndAccuracy m a).accuracy = a := by
  rcases a with _ | _ | _ | _ <;> exact ⟨rfl, rfl⟩

/-! ### Rounding to 53 places -/

theorem targetExponent_eq (m : ℕ) (e : ℤ) :
    Format.binary64.targetExponent (totalExponent m e) = max (m.log2 + e - 52) (-1074) := by
  simp only [Format.targetExponent, totalExponent, Format.mantissaBits, Format.minExponent]
  norm_num
  omega

/-- A number of 53 places is shifted nowhere. -/
private theorem shiftToTargetExponent_of_log2 {m : ℕ} {e : ℤ} (hm : m.log2 = 52) (he : -1074 ≤ e) :
    shiftToTargetExponent Format.binary64 m e .exact = (⟨m, false, false⟩, e) := by
  have hshift : (max ((m.log2 : ℤ) + e - 52) (-1074) - e).toNat = 0 := by omega
  simp only [shiftToTargetExponent, shiftToExponent, targetExponent_eq, hshift, Nat.cast_zero, add_zero]
  rfl

/-- Rounding up to a power of two costs one place more, which is dropped. -/
private theorem shiftToTargetExponent_carry {e : ℤ} (he : -1074 ≤ e) :
    shiftToTargetExponent Format.binary64 (2 ^ 53) e .exact = (⟨2 ^ 52, false, false⟩, e + 1) := by
  have hshift : (max (((2 ^ 53 : ℕ).log2 : ℤ) + e - 52) (-1074) - e).toNat = 1 := by
    rw [Nat.log2_two_pow]
    omega
  simp only [shiftToTargetExponent, shiftToExponent, targetExponent_eq, hshift, Nat.cast_one]
  rfl

/-- Half of the last place above the greatest number: what lies below it is not rounded to infinity. -/
def roundingLimit : ℚ :=
  (2 ^ 53 - 1 / 2) * 2 ^ (971 : ℤ)

/-- What is known to at least 53 places is rounded to the nearest number with so many. -/
theorem roundWithAccuracy_near (s : Sign) {m : ℕ} {e : ℤ} {a : Accuracy} {x : ℚ} (hx : Locates m a x)
    (hm : 52 ≤ m.log2) (hlow : -1074 ≤ m.log2 + e - 52) (hhigh : x * 2 ^ e < roundingLimit) :
    ∃ (m' : ℕ) (e' : ℤ) (hpos : 0 < m'), roundWithAccuracy Format.binary64 s m e a = .finite s m' e' hpos ∧
      m'.log2 = 52 ∧ -1074 ≤ e' ∧ e' ≤ 971 ∧ Near (x * 2 ^ e) (m' * 2 ^ e') := by
  obtain ⟨k, hk⟩ : ∃ k, m.log2 = 52 + k := ⟨m.log2 - 52, by omega⟩
  have hm0 : m ≠ 0 := by
    rintro rfl
    simp at hm
  obtain ⟨em, hem⟩ : ∃ em, ExtendedMantissa.ofMantissaAndAccuracy m a >>> k = em := ⟨_, rfl⟩
  have hmantissa : em.mantissa = m / 2 ^ k := by
    rw [← hem, shiftRight_mantissa, (accuracy_ofMantissaAndAccuracy m a).1]
  have hlocates : Locates em.mantissa em.accuracy (x / 2 ^ k) := by
    rw [← hem]
    apply Locates.shiftRight
    rwa [(accuracy_ofMantissaAndAccuracy m a).1, (accuracy_ofMantissaAndAccuracy m a).2]
  have hfirst : shiftToTargetExponent Format.binary64 m e a = (em, e + k) := by
    have hshift : (max ((m.log2 : ℤ) + e - 52) (-1074) - e).toNat = k := by omega
    simp only [shiftToTargetExponent, shiftToExponent, targetExponent_eq, hshift, hem]
  -- the whole part has 53 places, and so has the rounded number unless it is the power of two above
  have hplaces : 2 ^ 52 ≤ em.mantissa ∧ em.mantissa < 2 ^ 53 := by
    obtain ⟨hle, hlt⟩ := (Nat.log2_eq_iff hm0).1 hk
    rw [hmantissa, Nat.le_div_iff_mul_le (by positivity), Nat.div_lt_iff_lt_mul (by positivity), ← pow_add, ← pow_add]
    exact ⟨hle, by rwa [show 53 + k = 52 + k + 1 by omega]⟩
  have hrounded := roundToNearestEven_bounds em.accuracy em.mantissa
  have hunit : (0 : ℚ) < 2 ^ (e + (k : ℤ)) := by positivity
  have hscale : x * 2 ^ e = x / 2 ^ k * 2 ^ (e + (k : ℤ)) := by
    rw [zpow_add₀ two_ne_zero, zpow_natCast]
    field_simp
  have hwhole : (2 ^ 52 : ℚ) ≤ x / 2 ^ k := by
    have : (2 ^ 52 : ℚ) ≤ em.mantissa := by exact_mod_cast hplaces.1
    exact this.trans hlocates.le
  have hnear : Near (x * 2 ^ e) (em.roundedMantissa * 2 ^ (e + k)) := by
    refine ⟨_, _, rfl, ?_, fun _ => ?_⟩
    · rw [hscale, ← sub_mul, abs_mul, abs_of_pos hunit, ← mul_assoc, mul_le_iff_le_one_left hunit]
      exact hlocates.abs_sub_le
    · rw [hscale]
      exact mul_le_mul_of_nonneg_right hwhole hunit.le
  rw [hscale, roundingLimit] at hhigh
  by_cases hcarry : em.roundedMantissa = 2 ^ 53
  · have hexponent : e + k < 971 := by
      have hclose := (abs_le.1 ((le_div_iff₀' two_pos).2 hlocates.abs_sub_le)).2
      have hvalue : (em.accuracy.roundToNearestEven em.mantissa : ℚ) = 2 ^ 53 := by exact_mod_cast hcarry
      rw [hvalue] at hclose
      have hbound : (2 ^ 53 - 1 / 2 : ℚ) * 2 ^ (e + (k : ℤ)) < (2 ^ 53 - 1 / 2) * 2 ^ (971 : ℤ) :=
        (mul_le_mul_of_nonneg_right (by linarith) hunit.le).trans_lt hhigh
      exact (zpow_lt_zpow_iff_right₀ one_lt_two).1 (lt_of_mul_lt_mul_left hbound (by norm_num))
    refine ⟨2 ^ 52, e + k + 1, by norm_num, ?_, Nat.log2_two_pow, by omega, by omega, ?_⟩
    · simp only [roundWithAccuracy, hfirst, hcarry, shiftToTargetExponent_carry (by omega : -1074 ≤ e + (k : ℤ))]
      rfl
    · have hvalue : ((2 ^ 52 : ℕ) : ℚ) * 2 ^ (e + k + 1) = em.roundedMantissa * 2 ^ (e + k) := by
        rw [hcarry, zpow_add_one₀ two_ne_zero]
        push_cast
        ring
      rwa [hvalue]
  · have hlog : em.roundedMantissa.log2 = 52 := by
      rw [Nat.log2_eq_iff (by unfold ExtendedMantissa.roundedMantissa; omega)]
      unfold ExtendedMantissa.roundedMantissa at hcarry ⊢
      omega
    have hpos : em.roundedMantissa ≠ 0 := by
      intro h
      simp [h] at hlog
    have hexponent : e + k < 972 := by
      have hbound : (2 : ℚ) ^ 52 * 2 ^ (e + (k : ℤ)) < 2 ^ 52 * 2 ^ (972 : ℤ) := by
        have hdouble : (2 : ℚ) ^ (972 : ℤ) = 2 * 2 ^ (971 : ℤ) := zpow_one_add₀ two_ne_zero 971
        have hlimit : (2 ^ 53 - 1 / 2 : ℚ) * 2 ^ (971 : ℤ) ≤ 2 ^ 52 * (2 * 2 ^ (971 : ℤ)) := by
          rw [← mul_assoc]
          exact mul_le_mul_of_nonneg_right (by norm_num) (by positivity)
        rw [hdouble]
        exact ((mul_le_mul_of_nonneg_right hwhole hunit.le).trans_lt hhigh).trans_le hlimit
      exact (zpow_lt_zpow_iff_right₀ one_lt_two).1 (lt_of_mul_lt_mul_left hbound (by norm_num))
    refine ⟨em.roundedMantissa, e + k, by omega, ?_, hlog, by omega, by omega, hnear⟩
    simp only [roundWithAccuracy, hfirst, shiftToTargetExponent_of_log2 hlog (by omega : -1074 ≤ e + (k : ℤ)), hpos,
      ↓reduceDIte]

/-- The middle of the range lies below the limit. -/
theorem Locates.lt_roundingLimit {m : ℕ} {a : Accuracy} {x : ℚ} (h : Locates m a x) {e : ℤ} (he : m.log2 + e ≤ 1000) :
    x * 2 ^ e < roundingLimit := by
  have hunit : (0 : ℚ) < 2 ^ e := by positivity
  have hm : (m : ℚ) + 1 ≤ 2 ^ (m.log2 + 1) := by exact_mod_cast Nat.lt_log2_self
  calc x * 2 ^ e ≤ 2 ^ (m.log2 + 1) * 2 ^ e := mul_le_mul_of_nonneg_right (h.lt.le.trans hm) hunit.le
    _ = (2 : ℚ) ^ ((m.log2 + 1 : ℕ) + e) := by rw [zpow_add₀ two_ne_zero, zpow_natCast]
    _ ≤ 2 ^ (30 + 971 : ℤ) := zpow_le_zpow_right₀ one_le_two (by push_cast; omega)
    _ < roundingLimit := by
      rw [zpow_add₀ two_ne_zero, roundingLimit]
      exact mul_lt_mul_of_pos_right (by norm_num) (by positivity)

end FieldRules.Decimal
