import FieldRules.Proofs.Decimal.Rounding
import FieldRules.Proofs.Decimal.Value

/-!
# Arithmetic in double precision

A quotient of floating-point numbers is the exact quotient, rounded (`Decimal.classify_div`), and the conversion of a
natural number is the number, rounded (`Decimal.classify_toFloat`), as long as everything stays in the middle of the
range.
-/

namespace FieldRules.Decimal

open Float.Model Float.Model.UnpackedFloat

/-! ### The content of a word -/

/-- The sign bit of a sign. -/
def isNegative : Sign → Bool
  | .negative => true
  | .positive => false

/-- The content of an unpacked number. -/
def FloatClass.ofUnpacked : UnpackedFloat → FloatClass
  | .notANumber => .nan
  | .infinity s => .infinite (isNegative s)
  | .zero s => .finite ⟨isNegative s, 0, -1074, false⟩
  | .finite s m e _ => .finite ⟨isNegative s, m, e, m = 2 ^ 52 && -1074 < e⟩

private theorem unpackMantissa_toNat (w : BitVec 64) :
    (@unpackMantissa Format.binary64 w).toNat = w.toNat % 2 ^ 52 := by
  simp [unpackMantissa]

private theorem unpackExponent_toNat (w : BitVec 64) :
    (@unpackExponent Format.binary64 w).toNat = w.toNat / 2 ^ 52 % 2 ^ 11 := by
  simp [unpackExponent, Nat.shiftRight_eq_div_pow]

private theorem unpackSign_toNat (w : BitVec 64) :
    (@unpackSign Format.binary64 w).toNat = w.toNat / 2 ^ 63 % 2 := by
  simp [unpackSign, Nat.shiftRight_eq_div_pow]

private theorem isNegative_ofBitVec (b : BitVec 1) : isNegative (Sign.ofBitVec b) = decide (b.toNat = 1) := by
  revert b
  decide

private theorem toNat_implicit (f : BitVec 52) : (1#1 ++ f).toNat = 2 ^ 52 + f.toNat := by
  rw [BitVec.toNat_append, ← Nat.shiftLeft_add_eq_or_of_lt f.isLt]
  simp [Nat.shiftLeft_eq]

/-- The reading of a word by whole numbers and the one by bits agree. -/
theorem classify_eq (x : Float) : classify x = FloatClass.ofUnpacked x.toModel.unpack := by
  obtain ⟨w, hw⟩ : ∃ w, x.toModel.toBits.toBitVec = w := ⟨_, rfl⟩
  obtain ⟨f, hf⟩ : ∃ f, @unpackMantissa Format.binary64 w = f := ⟨_, rfl⟩
  obtain ⟨e, he⟩ : ∃ e, @unpackExponent Format.binary64 w = e := ⟨_, rfl⟩
  have hfraction : w.toNat % 2 ^ 52 = f.toNat := by rw [← hf, unpackMantissa_toNat]
  have hexponent : w.toNat / 2 ^ 52 % 2 ^ 11 = e.toNat := by rw [← he, unpackExponent_toNat]
  have hnegative :
      decide (w.toNat / 2 ^ 63 % 2 = 1) = isNegative (Sign.ofBitVec (@unpackSign Format.binary64 w)) := by
    rw [isNegative_ofBitVec, unpackSign_toNat]
  have hdecode : classify x = decode 52 11 w.toNat := by rw [← hw]; rfl
  have hunpack : x.toModel.unpack = UnpackedFloat.unpack Format.binary64 w := by rw [← hw]; rfl
  have hones : e = -1#11 ↔ e.toNat = 2047 := by rw [← BitVec.toNat_inj]; rfl
  have hzeros : e = 0#11 ↔ e.toNat = 0 := by rw [← BitVec.toNat_inj]; rfl
  have hzero : f = 0#52 ↔ f.toNat = 0 := by rw [← BitVec.toNat_inj]; rfl
  rw [hdecode, hunpack]
  simp only [decode, UnpackedFloat.unpack, hf, he, Nat.pow_eq, hfraction, hexponent, hnegative, Nat.reduceAdd, hones,
    hzeros, hzero]
  have hlowest : (2 : ℤ) - Int.ofNat (2 ^ (11 - 1)) - (52 : ℕ) = -1074 := rfl
  have hbias : (Format.binary64.exponentBias : ℤ) + (52 : ℕ) = 1075 := rfl
  simp only [hlowest, hbias]
  by_cases hmax : e.toNat = 2047
  · by_cases hf0 : f.toNat = 0 <;> simp [hmax, hf0, FloatClass.ofUnpacked]
  by_cases hmin : e.toNat = 0
  · by_cases hf0 : f.toNat = 0 <;> simp [hmin, hf0, FloatClass.ofUnpacked]
  · have hmantissa : (1#1 ++ f).toNat = 2 ^ 52 + f.toNat := toNat_implicit f
    have hgap : ((1075 : ℤ) < 1074 + e.toNat) ↔ 1 < e.toNat := by omega
    simp only [hmax, hmin, FloatClass.ofUnpacked, hmantissa]
    simp [hgap]
    omega

/-- The sign with a sign bit. -/
def toSign (negative : Bool) : Sign :=
  if negative then .negative else .positive

private theorem toSign_isNegative (s : Sign) : toSign (isNegative s) = s := by
  cases s <;> rfl

private theorem isNegative_toSign (negative : Bool) : isNegative (toSign negative) = negative := by
  cases negative <;> rfl

/-- A finite number is unpacked to its content. -/
private theorem unpack_of_classify {x : Float} {b : Binary} (h : classify x = .finite b) :
    (b.mantissa = 0 ∧ x.toModel.unpack = .zero (toSign b.negative)) ∨
      ∃ hpos, x.toModel.unpack = .finite (toSign b.negative) b.mantissa b.exponent hpos := by
  rw [classify_eq] at h
  cases hunpack : x.toModel.unpack with
  | notANumber | infinity s =>
    rw [hunpack] at h
    cases h
  | zero s =>
    rw [hunpack] at h
    cases h
    exact .inl ⟨rfl, by rw [toSign_isNegative]⟩
  | finite s m e hpos =>
    rw [hunpack] at h
    cases h
    exact .inr ⟨hpos, by rw [toSign_isNegative]⟩

/-- The content of a finite number has at most 53 places, and fewer only at the lower end of the range. -/
theorem classify_bounds {x : Float} {b : Binary} (h : classify x = .finite b) :
    b.mantissa < 2 ^ 53 ∧ -1074 ≤ b.exponent ∧ b.exponent ≤ 971 ∧ (b.mantissa < 2 ^ 52 → b.exponent = -1074) := by
  have hfraction := Nat.mod_lt x.toBits.toNat (show 0 < 2 ^ 52 by decide)
  have hexponent := Nat.mod_lt (x.toBits.toNat / 2 ^ 52) (show 0 < 2 ^ 11 by decide)
  have hlowest : (2 : ℤ) - Int.ofNat (2 ^ (11 - 1)) - (52 : ℕ) = -1074 := rfl
  simp only [classify, decode, Nat.pow_eq, hlowest] at h
  split at h
  · split at h <;> cases h
  split at h
  · cases h
    dsimp only
    exact ⟨by omega, by omega, by omega, fun _ => rfl⟩
  · cases h
    dsimp only
    exact ⟨by omega, by omega, by omega, fun _ => by omega⟩

private theorem unpackSign_packComponents (s : Sign) (e : BitVec 11) (m : BitVec 52) :
    unpackSign (packComponents Format.binary64 s e m) = s.toBitVec := by
  apply BitVec.eq_of_getLsbD_eq
  intro i hi
  obtain rfl : i = 0 := by omega
  simp only [unpackSign, packComponents]
  rw [BitVec.getLsbD_cast, BitVec.getLsbD_extractLsb, BitVec.getLsbD_append, BitVec.getLsbD_append]
  simp

/-- Numbers of 53 places in the range survive packing. -/
private theorem unpack_pack_finite (s : Sign) {m : ℕ} {e : ℤ} (hpos : 0 < m) (hm : m.log2 = 52) (hlow : -1074 ≤ e)
    (hhigh : e ≤ 971) : (Float.Model.pack (.finite s m e hpos)).unpack = .finite s m e hpos := by
  obtain ⟨hle, hlt⟩ := (Nat.log2_eq_iff hpos.ne').1 hm
  obtain ⟨k, hk⟩ : ∃ k : ℕ, e = k - 1075 := ⟨(e + 1075).toNat, by omega⟩
  have hbias : (Format.binary64.exponentBias : ℤ) = 1023 := rfl
  have hbits : (Format.binary64.mantissaBitsWithoutImplicit : ℤ) = 52 := rfl
  have hbiased : (e + Format.binary64.exponentBias + Format.binary64.mantissaBitsWithoutImplicit).toNat = k := by
    rw [hbias, hbits]
    omega
  have hpack : UnpackedFloat.pack Format.binary64 (.finite s m e hpos) =
      packComponents Format.binary64 s (BitVec.ofNat 11 k) (BitVec.ofNat 52 m) := by
    have hrange : ¬ 2 ^ 11 ≤ k + 1 := by omega
    simp only [UnpackedFloat.pack, hbiased, hm, hrange, if_false, Format.mantissaBits, if_true]
  have hexponent : (BitVec.ofNat 11 k).toNat = k := Nat.mod_eq_of_lt (by omega)
  have hones : BitVec.ofNat 11 k ≠ -1#11 := fun h => by
    have : k = 2047 := by rw [← hexponent, h]; rfl
    omega
  have hzeros : BitVec.ofNat 11 k ≠ 0#11 := fun h => by
    have : k = 0 := by rw [← hexponent, h]; rfl
    omega
  have hmantissa : (1#1 ++ BitVec.ofNat 52 m).toNat = m := by
    rw [toNat_implicit, BitVec.toNat_ofNat]
    omega
  have hunbiased : (k : ℤ) - (Format.binary64.exponentBias + (52 : ℕ)) = e := by omega
  have hsign : Sign.ofBitVec s.toBitVec = s := by cases s <;> rfl
  unfold Float.Model.unpack Float.Model.pack
  simp only [hpack, UnpackedFloat.unpack, unpackExponent_packComponents, unpackMantissa_packComponents,
    unpackSign_packComponents, hones, hzeros, if_false, hexponent, hunbiased, hmantissa, hsign]

private theorem classify_pack_finite (s : Sign) {m : ℕ} {e : ℤ} (hpos : 0 < m) (hm : m.log2 = 52) (hlow : -1074 ≤ e)
    (hhigh : e ≤ 971) :
    classify (.ofModel (.pack (.finite s m e hpos))) = .finite ⟨isNegative s, m, e, m = 2 ^ 52 && -1074 < e⟩ := by
  rw [classify_eq, unpack_pack_finite s hpos hm hlow hhigh]
  rfl

private theorem classify_pack_zero (s : Sign) :
    classify (.ofModel (.pack (.zero s))) = .finite ⟨isNegative s, 0, -1074, false⟩ := by
  cases s <;> rfl

/-! ### Quotients and conversions -/

/-- A power with an exponent of either sign is a quotient of powers. -/
theorem zpow_eq_div {a : ℚ} (ha : a ≠ 0) (k : ℤ) : a ^ k = a ^ k.toNat / a ^ (-k).toNat := by
  rw [eq_div_iff (pow_ne_zero _ ha), ← zpow_natCast, ← zpow_natCast, ← zpow_add₀ ha]
  congr 1
  omega

namespace Binary

/-- The distance from zero. -/
def size (b : Binary) : ℚ :=
  b.mantissa * 2 ^ b.exponent

/-- The number has 53 places. -/
def Normal (b : Binary) : Prop :=
  b.mantissa.log2 = 52

namespace Normal

variable {b : Binary} (h : b.Normal)
include h

theorem mantissa_ne_zero : b.mantissa ≠ 0 := fun hzero => by
  simp [Normal, hzero] at h

/-- The exponent tells the size up to a factor of two. -/
theorem size_bounds : (2 : ℚ) ^ (52 + b.exponent) ≤ b.size ∧ b.size < 2 ^ (53 + b.exponent) := by
  obtain ⟨hle, hlt⟩ := (Nat.log2_eq_iff h.mantissa_ne_zero).1 h
  have hunit : (0 : ℚ) < 2 ^ b.exponent := by positivity
  rw [zpow_add₀ two_ne_zero, zpow_add₀ two_ne_zero, size]
  constructor
  · exact mul_le_mul_of_nonneg_right (by exact_mod_cast hle) hunit.le
  · exact mul_lt_mul_of_pos_right (by exact_mod_cast hlt) hunit

theorem exponent_lt {k : ℤ} (hk : b.size < 2 ^ k) : b.exponent < k - 52 := by
  have := (zpow_lt_zpow_iff_right₀ (one_lt_two (α := ℚ))).1 (h.size_bounds.1.trans_lt hk)
  omega

theorem lt_exponent {k : ℤ} (hk : 2 ^ k ≤ b.size) : k - 53 < b.exponent := by
  have := (zpow_lt_zpow_iff_right₀ (one_lt_two (α := ℚ))).1 (hk.trans_lt h.size_bounds.2)
  omega

end Normal

end Binary

private theorem Near.zero : Near 0 0 :=
  ⟨0, 0, by simp, by simp, fun h => absurd rfl h⟩

private theorem isNegative_div (s t : Sign) : isNegative (s / t) = (isNegative s != isNegative t) := by
  cases s <;> cases t <;> rfl

private theorem isNegative_neg (s : Sign) : isNegative (-s) = !isNegative s := by
  cases s <;> rfl

/-- The quotient of two numbers of 53 places is computed to at least as many. -/
private theorem divCore_eq {m₁ m₂ : ℕ} {e₁ e₂ : ℤ} (h₁ : m₁.log2 = 52) (h₂ : m₂.log2 = 52) (he : -1000 ≤ e₁ - e₂) :
    divCore Format.binary64 m₁ e₁ m₂ e₂ =
      (m₁ * 2 ^ 53 / m₂, e₁ - e₂ - 53, accuracyOfFraction (m₁ * 2 ^ 53 % m₂) m₂) := by
  have htarget : min (e₁ - e₂) (Format.binary64.targetExponent (totalExponent m₁ e₁ - totalExponent m₂ e₂)) =
      e₁ - e₂ - 53 := by
    have htotal : totalExponent m₁ e₁ - totalExponent m₂ e₂ = e₁ - e₂ := by
      unfold totalExponent
      omega
    have hmin : Format.binary64.targetExponent (e₁ - e₂) = max (e₁ - e₂ - 53) (-1074) := rfl
    rw [htotal, hmin]
    omega
  have hshift : (e₁ - e₂ - (e₁ - e₂ - 53)).toNat = 53 := by omega
  simp only [divCore, htarget, hshift, Nat.shiftLeft_eq]

private theorem log2_mul_div {m₁ m₂ : ℕ} (h₁ : m₁.log2 = 52) (h₂ : m₂.log2 = 52) :
    52 ≤ (m₁ * 2 ^ 53 / m₂).log2 ∧ (m₁ * 2 ^ 53 / m₂).log2 ≤ 53 := by
  have hm₁ : m₁ ≠ 0 := fun h => by simp [h] at h₁
  have hm₂ : m₂ ≠ 0 := fun h => by simp [h] at h₂
  obtain ⟨hlow₁, hhigh₁⟩ := (Nat.log2_eq_iff hm₁).1 h₁
  obtain ⟨hlow₂, hhigh₂⟩ := (Nat.log2_eq_iff hm₂).1 h₂
  have hlow : 2 ^ 52 ≤ m₁ * 2 ^ 53 / m₂ := by
    rw [Nat.le_div_iff_mul_le (Nat.pos_of_ne_zero hm₂)]
    omega
  have hhigh : m₁ * 2 ^ 53 / m₂ < 2 ^ 54 := by
    rw [Nat.div_lt_iff_lt_mul (Nat.pos_of_ne_zero hm₂)]
    omega
  have hne : m₁ * 2 ^ 53 / m₂ ≠ 0 := by omega
  exact ⟨(Nat.le_log2 hne).2 hlow, Nat.lt_succ_iff.1 ((Nat.log2_lt hne).2 hhigh)⟩

/-- The quotient of two numbers in the middle of the range is their exact quotient, rounded. -/
theorem classify_div {x y : Float} {b d : Binary} (hx : classify x = .finite b) (hy : classify y = .finite d)
    (hd : d.Normal) (hb : b.mantissa = 0 ∨ b.Normal ∧ |b.exponent - d.exponent| ≤ 900) :
    ∃ q : Binary, classify (x / y) = .finite q ∧ q.negative = (b.negative != d.negative) ∧
      (q.mantissa = 0 ∨ q.Normal) ∧ Near (b.size / d.size) q.size := by
  have hdiv : x / y = .ofModel (.pack (UnpackedFloat.div Format.binary64 x.toModel.unpack y.toModel.unpack)) := rfl
  have hd0 := hd.mantissa_ne_zero
  obtain ⟨hd0', -⟩ | ⟨hdpos, huy⟩ := unpack_of_classify hy
  · exact absurd hd0' hd0
  rw [hdiv, huy]
  obtain ⟨hb0, hux⟩ | ⟨hbpos, hux⟩ := unpack_of_classify hx
  · rw [hux]
    refine ⟨_, classify_pack_zero _, ?_, .inl rfl, ?_⟩
    · rw [isNegative_div, isNegative_toSign, isNegative_toSign]
    · simpa [Binary.size, hb0] using Near.zero
  · obtain ⟨hb, he⟩ := hb.resolve_left hbpos.ne'
    rw [abs_le] at he
    have hlog := log2_mul_div hb hd
    have hlocates := locates_accuracyOfFraction (n := b.mantissa * 2 ^ 53) hdpos
    obtain ⟨m, e, hpos, hround, hm, hlow, hhigh, hnear⟩ := roundWithAccuracy_near
      (toSign b.negative / toSign d.negative) hlocates hlog.1
      (by omega : -1074 ≤ _ + (b.exponent - d.exponent - 53) - 52) (hlocates.lt_roundingLimit (by omega))
    have hquotient : UnpackedFloat.div Format.binary64 x.toModel.unpack
        (.finite (toSign d.negative) d.mantissa d.exponent hdpos) =
        .finite (toSign b.negative / toSign d.negative) m e hpos := by
      rw [hux, UnpackedFloat.div, divCore_eq hb hd (by omega)]
      exact hround
    rw [hquotient]
    refine ⟨_, classify_pack_finite _ hpos hm hlow hhigh, ?_, .inr hm, ?_⟩
    · rw [isNegative_div, isNegative_toSign, isNegative_toSign]
    · have hsizes :
          b.size / d.size = (b.mantissa * 2 ^ 53 : ℕ) / d.mantissa * 2 ^ (b.exponent - d.exponent - 53) := by
        have hd' : (d.mantissa : ℚ) ≠ 0 := by exact_mod_cast hd0
        have h53 : (2 : ℚ) ^ (53 : ℤ) = 2 ^ 53 := zpow_ofNat 2 53
        rw [Binary.size, Binary.size, zpow_sub₀ two_ne_zero, zpow_sub₀ two_ne_zero, h53]
        push_cast
        field_simp
        norm_num
      rw [hsizes]
      exact hnear

/-- Negating a number of 53 places flips its sign. -/
theorem classify_neg {x : Float} {b : Binary} (hx : classify x = .finite b) (hb : b.mantissa = 0 ∨ b.Normal) :
    ∃ q : Binary, classify (-x) = .finite q ∧ q.negative = !b.negative ∧ q.size = b.size := by
  have hneg : -x = .ofModel (.pack (UnpackedFloat.neg x.toModel.unpack)) := rfl
  rw [hneg]
  obtain ⟨hb0, hux⟩ | ⟨hbpos, hux⟩ := unpack_of_classify hx
  · rw [hux]
    refine ⟨_, classify_pack_zero _, ?_, ?_⟩
    · rw [isNegative_neg, isNegative_toSign]
    · simp [Binary.size, hb0]
  · rw [hux]
    obtain ⟨-, hlow, hhigh, -⟩ := classify_bounds hx
    refine ⟨_, classify_pack_finite _ hbpos (hb.resolve_left hbpos.ne') hlow hhigh, ?_, rfl⟩
    rw [isNegative_neg, isNegative_toSign]

private theorem round_near (s : Sign) {n : ℕ} (hn : n ≠ 0) (hlog : n.log2 ≤ 1000) :
    ∃ (m : ℕ) (e : ℤ) (hpos : 0 < m), UnpackedFloat.round Format.binary64 s n 0 = .finite s m e hpos ∧
      m.log2 = 52 ∧ -1074 ≤ e ∧ e ≤ 971 ∧ Near n (m * 2 ^ e) := by
  obtain ⟨k, hk⟩ : ∃ k, 52 - n.log2 = k := ⟨_, rfl⟩
  have hshift : decreaseExponent n 0 (Format.binary64.targetExponent (totalExponent n 0)) =
      (n * 2 ^ k, -(k : ℤ)) := by
    have hamount : (0 - max ((n.log2 : ℤ) + 0 - 52) (-1074)).toNat = k := by omega
    rw [decreaseExponent, targetExponent_eq, hamount, Nat.shiftLeft_eq, zero_sub]
  have hlog' : (n * 2 ^ k).log2 = n.log2 + k := by
    obtain ⟨hle, hlt⟩ := (Nat.log2_eq_iff hn).1 rfl
    rw [Nat.log2_eq_iff (by positivity), pow_add, add_right_comm, pow_add]
    exact ⟨Nat.mul_le_mul_right _ hle, Nat.mul_lt_mul_of_pos_right hlt (by positivity)⟩
  have hlocates : Locates (n * 2 ^ k) .exact (n * 2 ^ k : ℕ) := rfl
  obtain ⟨m, e, hpos, hround, hm, hlow, hhigh, hnear⟩ := roundWithAccuracy_near s hlocates (by omega)
    (by omega : -1074 ≤ _ + -(k : ℤ) - 52) (hlocates.lt_roundingLimit (by omega))
  refine ⟨m, e, hpos, ?_, hm, hlow, hhigh, ?_⟩
  · rw [UnpackedFloat.round, hshift]
    exact hround
  · have hvalue : ((n * 2 ^ k : ℕ) : ℚ) * 2 ^ (-(k : ℤ)) = n := by
      push_cast
      rw [mul_assoc, zpow_neg, zpow_natCast, mul_inv_cancel₀ (by positivity), mul_one]
    rwa [hvalue] at hnear

/-- The conversion of a natural number rounds it. -/
theorem classify_toFloat (n : UInt64) :
    ∃ q : Binary, classify n.toFloat = .finite q ∧ q.negative = false ∧ (n = 0 ∧ q.mantissa = 0 ∨ n ≠ 0 ∧ q.Normal) ∧
      Near n.toNat q.size := by
  have hconvert : n.toFloat = .ofModel (.pack (UnpackedFloat.normalize Format.binary64 n.toNat 0 .positive)) := rfl
  rw [hconvert]
  by_cases hn : n.toNat = 0
  · rw [hn]
    refine ⟨_, classify_pack_zero .positive, rfl, .inl ⟨UInt64.toNat_inj.1 hn, rfl⟩, ?_⟩
    simpa [Binary.size] using Near.zero
  · obtain ⟨m, e, hpos, hround, hm, hlow, hhigh, hnear⟩ := round_near .positive hn (by
      have := Nat.log2_lt hn |>.2 n.toNat_lt
      omega)
    have hnormalize : UnpackedFloat.normalize Format.binary64 n.toNat 0 .positive = .finite .positive m e hpos := by
      have hcompare : compare (n.toNat : ℤ) 0 = .gt := Int.compare_eq_gt.2 (by omega)
      rw [UnpackedFloat.normalize, hcompare]
      exact hround
    rw [hnormalize]
    refine ⟨_, classify_pack_finite .positive hpos hm hlow hhigh, rfl, .inr ⟨?_, hm⟩, hnear⟩
    rintro rfl
    exact hn rfl

/-- The content of a power of ten that has 53 places. -/
def tenPow (d : ℕ) : Binary :=
  ⟨false, 10 ^ d * 2 ^ 52 / 2 ^ (10 ^ d).log2, (10 ^ d).log2 - 52, d = 0⟩

private theorem classify_tenPow : ∀ d : Fin Float.exactlyRepresentablePowersOfTen.size,
    classify Float.exactlyRepresentablePowersOfTen[d] = .finite (tenPow d) ∧ (tenPow d).Normal ∧
      (10 ^ d.val).log2 ≤ 100 ∧ (tenPow d).mantissa * 2 ^ (10 ^ d.val).log2 = 10 ^ d.val * 2 ^ 52 := by
  unfold Binary.Normal
  decide +kernel

/-- A decimal of few digits with few places is the exact quotient by a power of ten, rounded. -/
private theorem classify_ofScientific_of_lt {n d : ℕ} (hn : n < 2 ^ 53) (hd : d ≤ 22) :
    ∃ q : Binary, classify (Float.ofScientific n true d) = .finite q ∧ q.negative = false ∧
      (q.mantissa = 0 ∨ q.Normal) ∧ Near (n / 10 ^ d) q.size := by
  obtain ⟨i, rfl⟩ : ∃ i : Fin Float.exactlyRepresentablePowersOfTen.size, i.val = d :=
    ⟨⟨d, Nat.lt_succ_iff.2 hd⟩, rfl⟩
  have hquotient : Float.ofScientific n true i = n.toUInt64.toFloat / Float.exactlyRepresentablePowersOfTen[i] := by
    simp only [Float.ofScientific, hn, hd, and_self, ↓reduceDIte, ↓reduceIte]
    rfl
  obtain ⟨hten, hnormal, hlog, hmantissa⟩ := classify_tenPow i
  obtain ⟨b, hb, hnegative, hplaces, hnear⟩ := classify_toFloat n.toUInt64
  have hsize : (tenPow i).size = 10 ^ i.val := by
    have hcast : ((tenPow i).mantissa : ℚ) * 2 ^ (10 ^ i.val).log2 =
        10 ^ i.val * 2 ^ 52 := by exact_mod_cast hmantissa
    have hexponent : (2 : ℚ) ^ (tenPow i).exponent = 2 ^ (10 ^ i.val).log2 / 2 ^ 52 := by
      rw [tenPow, zpow_sub₀ two_ne_zero, zpow_natCast]
      rfl
    rw [Binary.size, hexponent, ← mul_div_assoc, hcast]
    field_simp
  have hexact : b.size = n := by
    have hword : n.toUInt64.toNat = n := Nat.mod_eq_of_lt (by omega)
    rw [hword] at hnear
    exact hnear.eq_natCast hn
  have hclose : b.mantissa = 0 ∨ b.Normal ∧ |b.exponent - (tenPow i).exponent| ≤ 900 := by
    obtain ⟨-, hzero⟩ | ⟨hne, hnormal⟩ := hplaces
    · exact .inl hzero
    · have hpos : n ≠ 0 := by
        rintro rfl
        exact hne rfl
      have hlow : (2 : ℚ) ^ (0 : ℤ) ≤ b.size := by
        rw [hexact, zpow_zero]
        exact_mod_cast Nat.pos_of_ne_zero hpos
      have hhigh : b.size < (2 : ℚ) ^ (53 : ℤ) := by
        rw [hexact]
        exact_mod_cast hn
      have := hnormal.lt_exponent hlow
      have := hnormal.exponent_lt hhigh
      have hten : (tenPow i).exponent = (10 ^ i.val).log2 - 52 := rfl
      refine .inr ⟨hnormal, abs_le.2 ?_⟩
      omega
  obtain ⟨q, hq, hsign, hshape, hrounded⟩ := classify_div hb hten hnormal hclose
  rw [hexact, hsize] at hrounded
  exact ⟨q, by rw [hquotient]; exact hq, by rw [hsign, hnegative]; rfl, hshape, hrounded⟩

/-- A quotient of whole numbers is computed to at least 53 places and rounded. -/
theorem div_natCast_near (s t : Sign) {m n : ℕ} (hm : 2 ^ 53 ≤ m) (hm0 : 0 < m) (hn : 0 < n) (hlog : n.log2 ≤ 100)
    (hfit : (m / n : ℚ) < roundingLimit) :
    ∃ (m' : ℕ) (e' : ℤ) (hpos : 0 < m'),
      UnpackedFloat.div Format.binary64 (.finite s m 0 hm0) (.finite t n 0 hn) = .finite (s / t) m' e' hpos ∧
        m'.log2 = 52 ∧ -1074 ≤ e' ∧ e' ≤ 971 ∧ Near (m / n) (m' * 2 ^ e') := by
  obtain ⟨hmle, -⟩ := (Nat.log2_eq_iff hm0.ne').1 rfl
  obtain ⟨-, hnlt⟩ := (Nat.log2_eq_iff hn.ne').1 rfl
  have hmlog : 53 ≤ m.log2 := (Nat.le_log2 hm0.ne').2 hm
  obtain ⟨k, hk⟩ : ∃ k, 53 + n.log2 - m.log2 = k := ⟨_, rfl⟩
  have hcore : divCore Format.binary64 m 0 n 0 =
      (m * 2 ^ k / n, -(k : ℤ), accuracyOfFraction (m * 2 ^ k % n) n) := by
    have htarget : min (0 - 0) (Format.binary64.targetExponent (totalExponent m 0 - totalExponent n 0)) =
        -(k : ℤ) := by
      have htotal : totalExponent m 0 - totalExponent n 0 = m.log2 - n.log2 := by
        unfold totalExponent
        omega
      have hmax : Format.binary64.targetExponent (m.log2 - n.log2) = max ((m.log2 : ℤ) - n.log2 - 53) (-1074) := rfl
      rw [htotal, hmax]
      omega
    have hshift : (0 - 0 - -(k : ℤ)).toNat = k := by omega
    simp only [divCore, htarget, hshift, Nat.shiftLeft_eq]
  have hquotient : 2 ^ 52 ≤ m * 2 ^ k / n := by
    rw [Nat.le_div_iff_mul_le hn]
    calc 2 ^ 52 * n ≤ 2 ^ 52 * 2 ^ (n.log2 + 1) := Nat.mul_le_mul_left _ hnlt.le
      _ = 2 ^ (53 + n.log2) := by ring
      _ ≤ 2 ^ (m.log2 + k) := Nat.pow_le_pow_right (by norm_num) (by omega)
      _ = 2 ^ m.log2 * 2 ^ k := pow_add ..
      _ ≤ m * 2 ^ k := Nat.mul_le_mul_right _ hmle
  have hplaces : 52 ≤ (m * 2 ^ k / n).log2 := (Nat.le_log2 (by omega)).2 hquotient
  have hlocates := locates_accuracyOfFraction (n := m * 2 ^ k) hn
  have hvalue : ((m * 2 ^ k : ℕ) / n * 2 ^ (-(k : ℤ)) : ℚ) = m / n := by
    rw [zpow_neg, zpow_natCast]
    push_cast
    field_simp
  obtain ⟨m', e', hpos, hround, hm', hlow, hhigh, hnear⟩ := roundWithAccuracy_near (s / t) hlocates hplaces
    (by omega : -1074 ≤ _ + -(k : ℤ) - 52) (by rwa [hvalue])
  rw [hvalue] at hnear
  refine ⟨m', e', hpos, ?_, hm', hlow, hhigh, hnear⟩
  rw [UnpackedFloat.div, hcore]
  exact hround

/-- The reading of a decimal of many digits goes through the model, which multiplies or divides by a power of ten. -/
theorem ofScientific_near {n d : ℕ} (hn : 2 ^ 53 ≤ n) (hd : d ≤ 22) (hfit : (n / 10 ^ d : ℚ) < roundingLimit) :
    ∃ (m : ℕ) (e : ℤ) (hpos : 0 < m),
      UnpackedFloat.ofScientific Format.binary64 n (-(d : ℤ)) = .finite .positive m e hpos ∧ m.log2 = 52 ∧ -1074 ≤ e ∧
        e ≤ 971 ∧ Near (n / 10 ^ d) (m * 2 ^ e) := by
  have hn0 : n ≠ 0 := by omega
  have hlarge : ¬-(d : ℤ) > 2 ^ 11 := by omega
  have hsmall : ¬-(d : ℤ) < -((2 ^ 11 : ℤ) + n.log2) := by omega
  simp only [UnpackedFloat.ofScientific, hn0, hlarge, hsmall, ↓reduceDIte, ↓reduceIte]
  obtain rfl | hpos := d.eq_zero_or_pos
  · obtain ⟨m, hm⟩ : ∃ m, n * 2 ^ 53 = m := ⟨_, rfl⟩
    have hproduct : n <<< Format.binary64.mantissaBits * 10 ^ (-((0 : ℕ) : ℤ)).toNat = m := by
      simp [← hm, Nat.shiftLeft_eq, Format.mantissaBits]
    have hexponent : -(Format.binary64.mantissaBits : ℤ) + 0 = -53 := rfl
    have hnonneg : (0 : ℤ) ≤ -((0 : ℕ) : ℤ) := by simp
    have hplaces : 52 ≤ m.log2 := (Nat.le_log2 (by omega)).2 (by omega)
    have hvalue : (m * 2 ^ (-53 : ℤ) : ℚ) = n / 10 ^ 0 := by
      rw [← hm]
      norm_num
      ring
    have hlow : -1074 ≤ (m.log2 : ℤ) + -53 - 52 := by omega
    have hlocates : Locates m .exact m := rfl
    have hhigh : (m * 2 ^ (-53 : ℤ) : ℚ) < roundingLimit := by
      rw [hvalue]
      exact hfit
    have hnear := roundWithAccuracy_near .positive hlocates hplaces hlow hhigh
    rw [hvalue] at hnear
    simp only [hnonneg, if_true, UnpackedFloat.mul, hproduct, hexponent]
    exact hnear
  · have hlog : (10 ^ d).log2 ≤ 100 := (classify_tenPow ⟨d, Nat.lt_succ_iff.2 hd⟩).2.2.1
    have hnegative : ¬0 ≤ -(d : ℤ) := by omega
    have hten : (- -(d : ℤ)).toNat = d := by omega
    simp only [hnegative, if_false, hten]
    have hnear := div_natCast_near .positive .positive hn (by omega) (by positivity : 0 < 10 ^ d) hlog
      (by push_cast; exact hfit)
    push_cast at hnear
    exact hnear

/-- A decimal with few places is the exact quotient by a power of ten, rounded. -/
theorem classify_ofScientific {n d : ℕ} (hd : d ≤ 22) (hfit : (n / 10 ^ d : ℚ) < roundingLimit) :
    ∃ q : Binary, classify (Float.ofScientific n true d) = .finite q ∧ q.negative = false ∧
      (q.mantissa = 0 ∨ q.Normal) ∧ Near (n / 10 ^ d) q.size := by
  by_cases hn : n < 2 ^ 53
  · exact classify_ofScientific_of_lt hn hd
  have hmodel : Float.ofScientific n true d =
      .ofModel (.pack (UnpackedFloat.ofScientific Format.binary64 n (-(d : ℤ)))) := by
    simp only [Float.ofScientific, hn, false_and, ↓reduceDIte, ↓reduceIte, Int.negOfNat_eq]
    rfl
  obtain ⟨m, e, hpos, hfinite, hm, hlow, hhigh, hnear⟩ := ofScientific_near (Nat.not_lt.1 hn) hd hfit
  rw [hmodel, hfinite]
  exact ⟨_, classify_pack_finite .positive hpos hm hlow hhigh, rfl, .inr hm, hnear⟩

end FieldRules.Decimal
