import FieldRules.Decimal.Printer
import FieldRules.Proofs.Decimal.Arithmetic

/-!
# The shortest decimal is close

The decimal that is written for a number lies in the interval that a reader rounds to the number
(`Decimal.Basin.abs_sub_le_of_holds`). A decimal of at most fifteen digits stands for a number in the middle of the
range and differs from it by a small part of it only (`Decimal.shortest_near`).
-/

namespace FieldRules.Decimal

/-- The number that is written. -/
def Digits.value (d : Digits) : ℚ :=
  d.digits * 10 ^ d.exponent

/-! ### The search -/

namespace Basin

/-- A decimal in a basin lies between its ends, whether these belong to it or not. -/
private theorem bounds_of_holds {z : Basin} {k : ℤ} {n : ℕ} (h : z.holds k n) (hz : 0 < z.denominator) :
    z.low * (z.numerator / z.denominator : ℚ) ≤ (⟨n, k⟩ : Digits).value ∧
      (⟨n, k⟩ : Digits).value ≤ z.high * (z.numerator / z.denominator : ℚ) := by
  have hz' : (0 : ℚ) < z.denominator := by exact_mod_cast hz
  have hten : (10 : ℚ) ^ k = 10 ^ k.toNat / 10 ^ (-k).toNat := zpow_eq_div (by norm_num) k
  have hends : z.low * (z.numerator * 10 ^ (-k).toNat) ≤ n * 10 ^ k.toNat * z.denominator ∧
      n * 10 ^ k.toNat * z.denominator ≤ z.high * (z.numerator * 10 ^ (-k).toNat) := by
    unfold holds at h
    simp only [Nat.pow_eq] at h
    split at h <;> simp only [Bool.and_eq_true, decide_eq_true_eq] at h
    · exact h
    · exact ⟨h.1.le, h.2.le⟩
  rw [Digits.value, hten, ← mul_div_assoc, ← mul_div_assoc, ← mul_div_assoc]
  constructor
  · rw [div_le_div_iff₀ hz' (by positivity)]
    have hlow : (z.low : ℚ) * (z.numerator * 10 ^ (-k).toNat) ≤ n * 10 ^ k.toNat * z.denominator := by
      exact_mod_cast hends.1
    linarith
  · rw [div_le_div_iff₀ (by positivity) hz']
    have hhigh : (n : ℚ) * 10 ^ k.toNat * z.denominator ≤ z.high * (z.numerator * 10 ^ (-k).toNat) := by
      exact_mod_cast hends.2
    linarith

/-- The decimals that a reader rounds to a number are at most half of its last place away. -/
theorem abs_sub_le_of_holds {b : Binary} {k : ℤ} {n : ℕ} (h : (ofBinary b).holds k n) :
    2 * |(⟨n, k⟩ : Digits).value - b.size| ≤ 2 ^ b.exponent := by
  -- the ends of the basin are counted in quarters of the last place
  have hquarter : ((ofBinary b).numerator / (ofBinary b).denominator : ℚ) = 2 ^ (b.exponent - 2) := by
    rw [zpow_eq_div two_ne_zero, neg_sub]
    simp [ofBinary]
  have hlast : (2 : ℚ) ^ b.exponent = 4 * 2 ^ (b.exponent - 2) := by
    rw [zpow_sub₀ two_ne_zero]
    norm_num
    ring
  have hpositive : (0 : ℚ) ≤ 2 ^ (b.exponent - 2) := by positivity
  have hlow : (4 * b.mantissa - 2 : ℚ) ≤ (ofBinary b).low := by
    have : 4 * b.mantissa ≤ (ofBinary b).low + 2 := by
      simp only [ofBinary]
      split <;> omega
    have : (4 * b.mantissa : ℚ) ≤ (ofBinary b).low + 2 := by exact_mod_cast this
    linarith
  have hhigh : ((ofBinary b).high : ℚ) = 4 * b.mantissa + 2 := by simp [ofBinary]
  obtain ⟨hlower, hupper⟩ := bounds_of_holds h (by simp [ofBinary])
  rw [hquarter] at hlower hupper
  have hlower := (mul_le_mul_of_nonneg_right hlow hpositive).trans hlower
  rw [hhigh] at hupper
  have hdistance : |(⟨n, k⟩ : Digits).value - b.mantissa * 2 ^ b.exponent| ≤ 2 * 2 ^ (b.exponent - 2) := by
    rw [abs_le, hlast]
    constructor <;> linarith
  rw [hlast, Binary.size]
  linarith

private theorem pick_holds {tie : Tie} {z : Basin} {k : ℤ} {n : ℕ} (h : z.pick tie k = some n) :
    z.holds k n ∧ 0 < n := by
  simp only [pick] at h
  split at h
  next hbelow habove =>
    cases h
    simpa [and_comm] using hbelow
  next hbelow habove =>
    cases h
    exact ⟨habove, Nat.succ_pos _⟩
  next hbelow habove =>
    have hboth : z.holds k (z.below k) ∧ 0 < z.below k := by simpa [and_comm] using hbelow
    split at h
    · cases h
      exact hboth
    · cases h
      exact ⟨habove, Nat.succ_pos _⟩
    · split at h
      · cases h
        exact ⟨habove, Nat.succ_pos _⟩
      · split at h
        · cases h
          exact hboth
        · cases h
          exact ⟨habove, Nat.succ_pos _⟩
  next => cases h

/-- What the search finds lies in the basin. -/
theorem search_holds {tie : Tie} {z : Basin} {rounds : ℕ} {k : ℤ} {d : Digits} (h : z.search tie rounds k = some d) :
    z.holds d.exponent d.digits ∧ 0 < d.digits := by
  induction rounds generalizing k with
  | zero => cases h
  | succ rounds ih =>
    rw [search] at h
    split at h
    next n hpick =>
      cases h
      exact pick_holds hpick
    next => exact ih h

end Basin

/-- The shortest decimal of a number is at most half of the last place away, unless all digits of a whole number are
taken. -/
theorem shortest_close (tie : Tie) {b : Binary} (hb : b.mantissa ≠ 0) :
    0 < (shortest tie b).digits ∧
      (2 * |(shortest tie b).value - b.size| ≤ 2 ^ b.exponent ∨
        0 ≤ b.exponent ∧ shortest tie b = ⟨b.mantissa, b.exponent⟩) := by
  have hshortest : shortest tie b = ((Basin.ofBinary b).search tie 24 (ceiling b)).getD
      ⟨b.mantissa * 5 ^ (-b.exponent).toNat, b.exponent⟩ := by
    simp only [shortest, hb, if_false, Nat.pow_eq]
  rw [hshortest]
  cases hsearch : (Basin.ofBinary b).search tie 24 (ceiling b) with
  | some d =>
    obtain ⟨hholds, hpos⟩ := Basin.search_holds hsearch
    exact ⟨hpos, .inl (Basin.abs_sub_le_of_holds hholds)⟩
  | none =>
    refine ⟨by simp only [Option.getD_none]; positivity, ?_⟩
    by_cases he : 0 ≤ b.exponent
    · have hzero : (-b.exponent).toNat = 0 := by omega
      exact .inr ⟨he, by rw [hzero, pow_zero, mul_one]; rfl⟩
    · -- all digits of the fraction are taken, so the decimal is the number itself
      obtain ⟨k, hk⟩ : ∃ k : ℕ, b.exponent = -k := ⟨(-b.exponent).toNat, by omega⟩
      have hexact : (⟨b.mantissa * 5 ^ (-b.exponent).toNat, b.exponent⟩ : Digits).value = b.size := by
        have hten : (10 : ℚ) ^ k = 5 ^ k * 2 ^ k := by rw [← mul_pow]; norm_num
        rw [Digits.value, Binary.size, hk, neg_neg, Int.toNat_natCast, zpow_neg, zpow_neg, zpow_natCast, zpow_natCast,
          hten]
        push_cast
        field_simp
      left
      rw [Option.getD_none, hexact, sub_self, abs_zero, mul_zero]
      positivity

/-! ### Few digits -/

private theorem length_digits_le_iff {n k : ℕ} (hk : 0 < k) : (Text.digits n).length ≤ k ↔ n < 10 ^ k :=
  Nat.length_toDigits_le_iff (by norm_num) hk

/-- A decimal with few digits is neither large nor small. -/
theorem Digits.value_bounds {d : Digits} (hpos : 0 < d.digits) {n : ℕ}
    (hn : ((Text.digits d.digits).length + d.exponent).toNat + (-d.exponent).toNat ≤ n) :
    (10 : ℚ) ^ (-(n : ℤ)) ≤ d.value ∧ d.value < 10 ^ (n : ℤ) := by
  have hdigits : d.digits < 10 ^ (Text.digits d.digits).length :=
    (length_digits_le_iff Nat.length_toDigits_pos).1 le_rfl
  have hten : (0 : ℚ) < 10 ^ d.exponent := by positivity
  constructor
  · calc (10 : ℚ) ^ (-(n : ℤ)) ≤ 10 ^ d.exponent := zpow_le_zpow_right₀ (by norm_num) (by omega)
      _ ≤ d.value := le_mul_of_one_le_left hten.le (by exact_mod_cast hpos)
  · calc d.value < (10 ^ (Text.digits d.digits).length : ℕ) * 10 ^ d.exponent :=
          mul_lt_mul_of_pos_right (by exact_mod_cast hdigits) hten
      _ = (10 : ℚ) ^ ((Text.digits d.digits).length + d.exponent) := by
          rw [zpow_add₀ (by norm_num), zpow_natCast]
          push_cast
          rfl
      _ ≤ 10 ^ (n : ℤ) := zpow_le_zpow_right₀ (by norm_num) (by omega)

/-- A shortest decimal of at most fifteen digits is at most half of the last place away, as a whole number with all
its binary places has sixteen digits. -/
private theorem shortest_close_of_digits {x : Float} {b : Binary} (hx : classify x = .finite b) (hb : b.mantissa ≠ 0)
    (hdigits : (digitCounts b).1 + (digitCounts b).2 ≤ 15) :
    2 * |(shortest .up b).value - b.size| ≤ 2 ^ b.exponent := by
  obtain ⟨-, hclose⟩ := shortest_close .up hb
  obtain ⟨-, -, -, hsubnormal⟩ := classify_bounds hx
  refine hclose.resolve_right fun ⟨hwhole, hall⟩ => ?_
  simp only [digitCounts, hb, if_false, hall] at hdigits
  have hlong : ¬ (Text.digits b.mantissa).length ≤ 15 := by
    rw [length_digits_le_iff (by norm_num)]
    omega
  omega

/-- A number near a decimal that is not small has 53 binary places. -/
private theorem normal_of_close {x : Float} {b : Binary} (hx : classify x = .finite b) (hb : b.mantissa ≠ 0) {q : ℚ}
    (hq : 1 / 10 ^ 15 ≤ q) (hclose : q - b.size ≤ 2 ^ b.exponent / 2) : b.Normal := by
  obtain ⟨hplaces, -, -, hsubnormal⟩ := classify_bounds hx
  rw [Binary.Normal, Nat.log2_eq_iff hb]
  refine ⟨?_, hplaces⟩
  by_contra hsmall
  rw [Nat.not_le] at hsmall
  have hunit : (2 : ℚ) ^ b.exponent ≤ 2 ^ (-110 : ℤ) := by
    rw [hsubnormal hsmall]
    exact zpow_le_zpow_right₀ one_le_two (by norm_num)
  have hsize : b.size ≤ 2 ^ 52 * 2 ^ (-110 : ℤ) :=
    mul_le_mul (by exact_mod_cast hsmall.le) hunit (by positivity) (by positivity)
  have htiny : 2 ^ 52 * 2 ^ (-110 : ℤ) + 2 ^ (-110 : ℤ) / 2 < (1 / 10 ^ 15 : ℚ) := by norm_num
  have hvalue : q ≤ 2 ^ 52 * 2 ^ (-110 : ℤ) + 2 ^ (-110 : ℤ) / 2 := by
    generalize (2 : ℚ) ^ (-110 : ℤ) = u at *
    linarith
  exact absurd (hq.trans hvalue) (not_le.2 htiny)

/-- A number whose shortest decimal has at most fifteen digits has 53 binary places, lies in the middle of the range,
and differs from that decimal by a small part of it. -/
theorem shortest_near {x : Float} {b : Binary} (hx : classify x = .finite b) (hb : b.mantissa ≠ 0)
    (hdigits : (digitCounts b).1 + (digitCounts b).2 ≤ 15) :
    b.Normal ∧ |b.exponent| ≤ 110 ∧ |(shortest .up b).value - b.size| ≤ b.size / 2 ^ 53 ∧
      0 < (shortest .up b).value ∧ (shortest .up b).value < 10 ^ 15 := by
  have hclose := shortest_close_of_digits hx hb hdigits
  rw [← le_div_iff₀' two_pos, abs_le] at hclose
  simp only [digitCounts, hb, if_false] at hdigits
  obtain ⟨hmin, hmax⟩ := Digits.value_bounds (shortest_close .up hb).1 hdigits
  have hmin : 1 / 10 ^ 15 ≤ (shortest .up b).value := by simpa using hmin
  have hmax : (shortest .up b).value < 10 ^ 15 := by simpa using hmax
  have hnormal := normal_of_close hx hb hmin hclose.2
  have hunit : 2 ^ 52 * (2 : ℚ) ^ b.exponent ≤ b.size := by
    have hbound := hnormal.size_bounds.1
    rwa [zpow_add₀ two_ne_zero] at hbound
  have hpositive : (0 : ℚ) < 2 ^ b.exponent := by positivity
  have hhigh := hnormal.exponent_lt (k := 51) (by norm_num at hmax ⊢; linarith)
  have hlow := hnormal.lt_exponent (k := -51) (by norm_num at hmin ⊢; linarith)
  refine ⟨hnormal, abs_le.2 (by omega), ?_, by linarith, hmax⟩
  rw [abs_le]
  constructor <;> linarith

end FieldRules.Decimal
