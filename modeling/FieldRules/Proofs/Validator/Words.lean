import FieldRules.Proofs.Compiler.Steps
import FieldRules.Proofs.Validator.Integers

/-!
# Integer checks in machine words

An integer check judges integers of any size. A machine judges words of 128 bits, and its arithmetic has faults: a
word can be shifted too far, a result can have no word, and a divisor can be zero. `IntegerCheck.checkInWords` is the
check done in words, each fault reported. The check that a rule is compiled to has limits, values and a step that make
sense (`IntegerCheck.WellFormed`); done in words, it meets no fault and says the same
(`Site.create_integer_faultless`).
-/

namespace FieldRules

/-- A machine word: an integer of 128 bits, in two's complement. -/
abbrev Word := BitVec 128

namespace Word

/-- Why an operation on words has no result. -/
inductive Fault
  | shiftTooFar
  | overflow
  | zeroDivisor
  deriving DecidableEq, Repr

/-- The word of an integer, up to multiples of the number of words. -/
def wrap (n : Int) : Word :=
  BitVec.ofInt 128 n

/-- Whether an integer has a word of its own. -/
def Fits (n : Int) : Prop :=
  -2 ^ 127 ≤ n ∧ n < 2 ^ 127

instance (n : Int) : Decidable (Fits n) :=
  inferInstanceAs (Decidable (_ ∧ _))

/-- The word of an integer. -/
def ofInt (n : Int) : Except Fault Word :=
  if Fits n then .ok (wrap n) else .error .overflow

/-- A word moved towards its sign bit. -/
def shiftLeft (w : Word) (places : Nat) : Except Fault Word :=
  if places < 128 then .ok (w <<< places) else .error .shiftTooFar

/-- The negative of a word, which the least word does not have. -/
def neg (w : Word) : Except Fault Word :=
  if BitVec.negOverflow w then .error .overflow else .ok (-w)

def sub (v w : Word) : Except Fault Word :=
  if BitVec.ssubOverflow v w then .error .overflow else .ok (v - w)

/-- The remainder of a division that rounds towards zero. The quotient has to be a word too. -/
def rem (v w : Word) : Except Fault Word :=
  if w = 0 then .error .zeroDivisor
  else if BitVec.sdivOverflow v w then .error .overflow
  else .ok (BitVec.srem v w)

instance : Quantity Word where
  lt v w := BitVec.slt v w
  le v w := BitVec.sle v w
  eq v w := v == w
  text w := Quantity.text w.toInt

end Word

/-- The bounds with words for ends. -/
def Bounds.inWords (b : Bounds Int) : Except Word.Fault (Bounds Word) := do
  let min ← b.min.mapM Word.ofInt
  let max ← b.max.mapM Word.ofInt
  return { min, max, exclusiveMin := b.exclusiveMin, exclusiveMax := b.exclusiveMax }

namespace IntegerCheck

/-- The number before a width. There is none before zero, as widths have no sign. -/
def predecessor (bits : Nat) : Except Word.Fault Nat :=
  if bits = 0 then .error .overflow else .ok (bits - 1)

/-- The limits of a width, computed in words. -/
def limitsInWords (signed : Bool) (bits : Nat) : Except Word.Fault (Word × Word) :=
  if signed then do
    let half ← Word.shiftLeft 1 (← predecessor bits)
    return (← Word.neg half, ← Word.sub half 1)
  else do
    return (0, ← Word.sub (← Word.shiftLeft 1 bits) 1)

/-- Why a word is no multiple of the step. -/
def checkStepInWords (c : IntegerCheck) (w : Word) : Except Word.Fault (Option Cause) :=
  match c.step? with
  | none => return none
  | some step => do
    let step ← Word.ofInt step
    if (← Word.rem w step) = 0 then return none
    return some (.notMultiple c.targetName (Quantity.text step) (Quantity.text w))

/-- Why a word does not pass. -/
def checkWord (c : IntegerCheck) (w : Word) : Except Word.Fault (Option Cause) := do
  let listed ← c.listed.mapM Word.ofInt
  if listed ≠ [] then
    if w ∈ listed then return none
    return some (.notListed c.targetName (listed.map Quantity.text) (Quantity.text w))
  let (lo, hi) ← limitsInWords c.signed c.bits
  let width : Bounds Word := { min := some lo, max := some hi }
  let bounds ← c.bounds.inWords
  match width.check c.targetName w <|> bounds.check c.targetName w with
  | some cause => return some cause
  | none => c.checkStepInWords w

/-- Why a value does not pass, done in words. -/
def checkInWords (c : IntegerCheck) (x : Value) : Except Word.Fault (Option Cause) :=
  match denoted? x with
  | some n => do c.checkWord (← Word.ofInt n)
  | none => return some (.unsupported c.text x.kindName)

/-- Whether the parts of a check make sense: the width is possible, what stands in the rule fits it, the bounds are
not the wrong way round, and there are multiples of the step. -/
structure WellFormed (c : IntegerCheck) : Prop where
  width : 1 ≤ c.bits ∧ c.bits ≤ 64
  min_fits : ∀ lo ∈ c.bounds.min, Width.Fits c.signed c.bits lo
  max_fits : ∀ hi ∈ c.bounds.max, Width.Fits c.signed c.bits hi
  min_le_max : ∀ lo ∈ c.bounds.min, ∀ hi ∈ c.bounds.max, lo ≤ hi
  listed_fits : ∀ n ∈ c.listed, Width.Fits c.signed c.bits n
  step_ne_zero : ∀ step ∈ c.step?, step ≠ 0
  step_fits : ∀ step ∈ c.step?, Word.Fits step

end IntegerCheck

/-! ### Arithmetic without faults -/

namespace Word

variable {m n : Int}

private theorem toInt_wrap (h : Fits n) : (wrap n).toInt = n :=
  BitVec.toInt_ofInt_eq_self (by decide) h.1 h.2

private theorem wrap_toInt (w : Word) : wrap w.toInt = w :=
  BitVec.ofInt_toInt

private theorem wrap_inj (hm : Fits m) (hn : Fits n) : wrap m = wrap n ↔ m = n := by
  rw [← BitVec.toInt_inj, toInt_wrap hm, toInt_wrap hn]

private theorem wrap_zero : wrap 0 = 0 := by
  decide

private theorem wrap_one : wrap 1 = 1 := by
  decide

theorem eq_wrap {w : Word} (h : w.toInt = n) : w = wrap n := by
  rw [← h, wrap_toInt]

private theorem ofInt_of_fits (h : Fits n) : ofInt n = .ok (wrap n) :=
  if_pos h

private theorem text_wrap (h : Fits n) : Quantity.text (wrap n) = Quantity.text n :=
  congrArg Quantity.text (toInt_wrap h)

private theorem lt_wrap (hm : Fits m) (hn : Fits n) : Quantity.lt (wrap m) (wrap n) = Quantity.lt m n := by
  rw [Bool.eq_iff_iff]
  simp only [Quantity.lt, BitVec.slt_iff_toInt_lt, toInt_wrap hm, toInt_wrap hn, decide_eq_true_eq]

private theorem le_wrap (hm : Fits m) (hn : Fits n) : Quantity.le (wrap m) (wrap n) = Quantity.le m n := by
  rw [Bool.eq_iff_iff]
  simp only [Quantity.le, BitVec.sle_iff_toInt_le, toInt_wrap hm, toInt_wrap hn, decide_eq_true_eq]

private theorem fits_two_pow {places : Nat} (h : places ≤ 126) : Fits (2 ^ places) := by
  have hpos : (0 : Int) < 2 ^ places := by positivity
  have hle : (2 : Int) ^ places ≤ 2 ^ 126 := pow_le_pow_right₀ (by decide) h
  constructor
  · omega
  · omega

private theorem shiftLeft_one {places : Nat} (h : places ≤ 126) : shiftLeft 1 places = .ok (wrap (2 ^ places)) := by
  rw [shiftLeft, if_pos (by omega)]
  have hpow : wrap (2 ^ places) = BitVec.ofNat 128 (2 ^ places) := by
    rw [wrap, ← BitVec.ofInt_natCast]
    push_cast
    rfl
  rw [hpow]
  congr 1
  apply BitVec.eq_of_toNat_eq
  simp [Nat.shiftLeft_eq]

private theorem neg_wrap (hn : Fits n) (h : Fits (-n)) : neg (wrap n) = .ok (wrap (-n)) := by
  have hflag : ¬BitVec.negOverflow (wrap n) = true := by
    rw [BitVec.negOverflow, toInt_wrap hn, beq_iff_eq]
    rintro rfl
    exact absurd h (by decide)
  rw [neg, if_neg hflag]
  refine congrArg _ (eq_wrap ?_)
  rw [BitVec.toInt_neg_of_not_negOverflow hflag, toInt_wrap hn]

private theorem sub_wrap (hm : Fits m) (hn : Fits n) (h : Fits (m - n)) :
    sub (wrap m) (wrap n) = .ok (wrap (m - n)) := by
  have hflag : ¬BitVec.ssubOverflow (wrap m) (wrap n) = true := by
    obtain ⟨hlow, hhigh⟩ := h
    simp only [BitVec.ssubOverflow, toInt_wrap hm, toInt_wrap hn, Bool.or_eq_true, decide_eq_true_eq]
    omega
  rw [sub, if_neg hflag]
  refine congrArg _ (eq_wrap ?_)
  rw [BitVec.toInt_sub_of_not_ssubOverflow hflag, toInt_wrap hm, toInt_wrap hn]

/-- A remainder has a word when the divisor is not zero and the dividend not the least integer. -/
private theorem rem_wrap (hm : Fits m) (hn : Fits n) (hmin : m ≠ -2 ^ 127) (hzero : n ≠ 0) :
    ∃ w, rem (wrap m) (wrap n) = .ok w ∧ w.toInt = m.tmod n := by
  have hdivisor : wrap n ≠ 0 := by
    intro h
    apply hzero
    rw [← toInt_wrap hn, h]
    rfl
  have hflag : ¬BitVec.sdivOverflow (wrap m) (wrap n) = true := by
    have hne : wrap m ≠ BitVec.intMin 128 := by
      intro h
      apply hmin
      rw [← toInt_wrap hm, h, BitVec.toInt_intMin]
      rfl
    simp [BitVec.sdivOverflow_eq, hne]
  refine ⟨BitVec.srem (wrap m) (wrap n), ?_, ?_⟩
  · rw [rem, if_neg hdivisor, if_neg hflag]
  · rw [BitVec.toInt_srem, toInt_wrap hm, toInt_wrap hn]

private theorem mapM_ofInt {ns : List Int} (h : ∀ n ∈ ns, Fits n) : ns.mapM ofInt = .ok (ns.map wrap) := by
  induction ns with
  | nil => rfl
  | cons n ns ih =>
    obtain ⟨hn, hns⟩ := List.forall_mem_cons.1 h
    rw [List.mapM_cons, ofInt_of_fits hn, ih hns]
    rfl

private theorem mem_map_wrap {ns : List Int} (h : ∀ n ∈ ns, Fits n) (hm : Fits m) :
    wrap m ∈ ns.map wrap ↔ m ∈ ns := by
  rw [List.mem_map]
  constructor
  · rintro ⟨n, hn, hwrap⟩
    rwa [← (wrap_inj (h n hn) hm).1 hwrap]
  · intro hm
    exact ⟨m, hm, rfl⟩

private theorem map_text_wrap {ns : List Int} (h : ∀ n ∈ ns, Fits n) :
    (ns.map wrap).map Quantity.text = ns.map Quantity.text := by
  rw [List.map_map]
  exact List.map_congr_left fun n hn => text_wrap (h n hn)

end Word

namespace Bounds

variable {b : Bounds Int} {n : Int}

/-- The bounds with the words of their ends. -/
def wrap (b : Bounds Int) : Bounds Word where
  min := b.min.map Word.wrap
  max := b.max.map Word.wrap
  exclusiveMin := b.exclusiveMin
  exclusiveMax := b.exclusiveMax

private theorem mapM_ofInt {a? : Option Int} (h : ∀ a ∈ a?, Word.Fits a) :
    a?.mapM Word.ofInt = .ok (a?.map Word.wrap) := by
  cases a? with
  | none => rfl
  | some a =>
    have ha := h a rfl
    simp only [Option.mapM_some, Word.ofInt_of_fits ha]
    rfl

private theorem inWords_of_fits (hmin : ∀ lo ∈ b.min, Word.Fits lo) (hmax : ∀ hi ∈ b.max, Word.Fits hi) :
    b.inWords = .ok b.wrap := by
  rw [inWords, mapM_ofInt hmin, mapM_ofInt hmax]
  rfl

private theorem above_wrap (hmin : ∀ lo ∈ b.min, Word.Fits lo) (hn : Word.Fits n) :
    b.wrap.above (Word.wrap n) = b.above n := by
  unfold above wrap
  cases h : b.min with
  | none => rfl
  | some lo =>
    have hlo := hmin lo h
    simp only [Option.map_some, Word.lt_wrap hlo hn, Word.le_wrap hlo hn]

private theorem below_wrap (hmax : ∀ hi ∈ b.max, Word.Fits hi) (hn : Word.Fits n) :
    b.wrap.below (Word.wrap n) = b.below n := by
  unfold below wrap
  cases h : b.max with
  | none => rfl
  | some hi =>
    have hhi := hmax hi h
    simp only [Option.map_some, Word.lt_wrap hn hhi, Word.le_wrap hn hhi]

private theorem map_text_wrap {a? : Option Int} (h : ∀ a ∈ a?, Word.Fits a) :
    (a?.map Word.wrap).map Quantity.text = a?.map Quantity.text := by
  rw [Option.map_map]
  exact Option.map_congr fun a ha => Word.text_wrap (h a ha)

private theorem check_wrap (hmin : ∀ lo ∈ b.min, Word.Fits lo) (hmax : ∀ hi ∈ b.max, Word.Fits hi) (hn : Word.Fits n)
    (target : String) : b.wrap.check target (Word.wrap n) = b.check target n := by
  unfold check contains
  rw [above_wrap hmin hn, below_wrap hmax hn, Word.text_wrap hn, wrap, map_text_wrap hmin, map_text_wrap hmax]

end Bounds

/-! ### Checks without faults -/

private theorem Width.Fits.word_fits {signed : Bool} {bits : Nat} {n : Int} (h : Width.Fits signed bits n)
    (hbits : bits ≤ 64) : Word.Fits n := by
  have hhalf : (2 : Int) ^ (bits - 1) ≤ 2 ^ 64 := pow_le_pow_right₀ (by decide) (by omega)
  have hpower : (2 : Int) ^ bits ≤ 2 ^ 64 := pow_le_pow_right₀ (by decide) hbits
  cases signed with
  | true =>
    obtain ⟨hlow, hhigh⟩ : -2 ^ (bits - 1) ≤ n ∧ n < 2 ^ (bits - 1) := h
    constructor <;> omega
  | false =>
    obtain ⟨hlow, hhigh⟩ : 0 ≤ n ∧ n < 2 ^ bits := h
    constructor <;> omega

/-- The integers that values denote are far from the ends of the words. -/
private theorem Value.DenotesInt.bounds {x : Value} {n : Int} (h : x.DenotesInt n) : -2 ^ 65 < n ∧ n < 2 ^ 65 := by
  cases h with
  | int m =>
    have hlow := m.le_toInt
    have hhigh := m.toInt_lt
    omega
  | uint m =>
    have hhigh := m.toNat_lt
    omega
  | float _ _ small =>
    rw [abs_lt] at small
    omega

namespace IntegerCheck

variable {signed : Bool} {bits : Nat} {c : IntegerCheck} {n : Int}

/-- The limits of a possible width are computed without a fault. -/
private theorem limitsInWords_eq_ok (h : 1 ≤ bits ∧ bits ≤ 64) :
    limitsInWords signed bits = .ok (Word.wrap (limits signed bits).1, Word.wrap (limits signed bits).2) := by
  have hone : Word.Fits 1 := by decide
  cases signed with
  | true =>
    have hpow : Int.ofNat (Nat.pow 2 (bits - 1)) = 2 ^ (bits - 1) := by exact_mod_cast rfl
    have hhalf : Word.Fits (2 ^ (bits - 1)) := Word.fits_two_pow (by omega)
    have hpos : (0 : Int) < 2 ^ (bits - 1) := by positivity
    have hneg : Word.Fits (-2 ^ (bits - 1)) := ⟨by have := hhalf.2; omega, by omega⟩
    have hsub : Word.Fits (2 ^ (bits - 1) - 1) := ⟨by omega, by have := hhalf.2; omega⟩
    have hpredecessor : predecessor bits = .ok (bits - 1) := if_neg (by omega)
    have hshift : Word.shiftLeft 1 (bits - 1) = .ok (Word.wrap (2 ^ (bits - 1))) := Word.shiftLeft_one (by omega)
    have hleast := Word.neg_wrap hhalf hneg
    have hgreatest := Word.sub_wrap hhalf hone hsub
    rw [Word.wrap_one] at hgreatest
    simp only [limitsInWords, limits, if_true, Width.minSigned, Width.maxSigned, hpow, bind, Except.bind,
      pure, Except.pure, hpredecessor, hshift, hleast, hgreatest]
  | false =>
    have hpow : ((Width.maxUnsigned bits : Nat) : Int) = 2 ^ bits - 1 := by
      have hpos : 0 < Nat.pow 2 bits := Nat.pow_pos (by decide)
      rw [Width.maxUnsigned, Nat.cast_sub hpos]
      exact_mod_cast rfl
    have hpower : Word.Fits (2 ^ bits) := Word.fits_two_pow (by omega)
    have hpos : (0 : Int) < 2 ^ bits := by positivity
    have hsub : Word.Fits (2 ^ bits - 1) := ⟨by omega, by have := hpower.2; omega⟩
    have hshift : Word.shiftLeft 1 bits = .ok (Word.wrap (2 ^ bits)) := Word.shiftLeft_one (by omega)
    have hgreatest := Word.sub_wrap hpower hone hsub
    rw [Word.wrap_one] at hgreatest
    simp only [limitsInWords, limits, Bool.false_eq_true, if_false, hpow, bind, Except.bind, pure,
      Except.pure, hshift, hgreatest, Word.wrap_zero]

/-- The remainder by the step is computed without a fault, also by a step of -1 or the least step. -/
private theorem checkStepInWords_eq_ok (hc : c.WellFormed) (hn : Word.Fits n) (hmin : n ≠ -2 ^ 127) :
    c.checkStepInWords (Word.wrap n) = .ok (match c.step? with
      | some step => if n % step = 0 then none
        else some (.notMultiple c.targetName (Quantity.text step) (Quantity.text n))
      | none => none) := by
  unfold checkStepInWords
  cases hstep : c.step? with
  | none => rfl
  | some step =>
    have hfits := hc.step_fits step hstep
    obtain ⟨w, hrem, hw⟩ := Word.rem_wrap hn hfits hmin (hc.step_ne_zero step hstep)
    have hzero : (0 : Word).toInt = 0 := BitVec.toInt_zero
    have hiff : w = 0 ↔ n % step = 0 := by
      rw [← BitVec.toInt_inj, hw, hzero, ← Int.dvd_iff_emod_eq_zero, Int.dvd_iff_tmod_eq_zero]
    simp only [Word.ofInt_of_fits hfits, bind, Except.bind, hrem, hiff, Word.text_wrap hfits, Word.text_wrap hn]
    split <;> rfl

private theorem fits_limits (h : bits ≤ 64) :
    Word.Fits (limits signed bits).1 ∧ Word.Fits (limits signed bits).2 := by
  have hzero : Width.Fits signed bits 0 := by
    cases signed <;> simp [Width.Fits]
  obtain ⟨hlow, hhigh⟩ := fits_iff.1 hzero
  have hle := hlow.trans hhigh
  exact ⟨(fits_iff.2 ⟨le_rfl, hle⟩).word_fits h, (fits_iff.2 ⟨hle, le_rfl⟩).word_fits h⟩

/-- Without a list, the word is compared with the limits of the width and the bounds before the step divides it. -/
private theorem checkWord_of_unlisted (hc : c.WellFormed) (hlisted : c.listed = []) (hn : Word.Fits n)
    (hleast : n ≠ -2 ^ 127) : c.checkWord (Word.wrap n) = .ok (c.checkInteger n) := by
  let width : Bounds Int := { min := some (limits c.signed c.bits).1, max := some (limits c.signed c.bits).2 }
  have hwidth : width.wrap.check c.targetName (Word.wrap n) = width.check c.targetName n := by
    obtain ⟨hlow, hhigh⟩ := fits_limits hc.width.2
    exact Bounds.check_wrap (by simpa [width] using hlow) (by simpa [width] using hhigh) hn _
  have hmin (lo : Int) (hlo : lo ∈ c.bounds.min) : Word.Fits lo := (hc.min_fits lo hlo).word_fits hc.width.2
  have hmax (hi : Int) (hhi : hi ∈ c.bounds.max) : Word.Fits hi := (hc.max_fits hi hhi).word_fits hc.width.2
  have hbounds := Bounds.check_wrap hmin hmax hn c.targetName
  have hwords : c.checkWord (Word.wrap n) =
      match width.wrap.check c.targetName (Word.wrap n) <|> c.bounds.wrap.check c.targetName (Word.wrap n) with
      | some cause => .ok (some cause)
      | none => c.checkStepInWords (Word.wrap n) := by
    simp only [checkWord, hlisted, List.mapM_nil, bind, Except.bind, pure, Except.pure, ne_eq,
      not_true_eq_false, if_false, limitsInWords_eq_ok hc.width, Bounds.inWords_of_fits hmin hmax]
    rfl
  rw [hwords, hwidth, hbounds, checkStepInWords_eq_ok hc hn hleast, checkInteger, if_neg (not_not_intro hlisted)]
  -- Both sides now try the same three checks in turn, one by a match and one by alternatives.
  change _ = Except.ok (width.check c.targetName n <|> c.bounds.check c.targetName n <|> _)
  cases width.check c.targetName n with
  | some cause => rfl
  | none =>
    cases c.bounds.check c.targetName n with
    | some cause => rfl
    | none => rfl

private theorem checkWord_eq_ok (hc : c.WellFormed) (hn : Word.Fits n) (hleast : n ≠ -2 ^ 127) :
    c.checkWord (Word.wrap n) = .ok (c.checkInteger n) := by
  by_cases hlisted : c.listed = []
  · exact checkWord_of_unlisted hc hlisted hn hleast
  · have hfits (m : Int) (hm : m ∈ c.listed) : Word.Fits m := (hc.listed_fits m hm).word_fits hc.width.2
    have hne : c.listed.map Word.wrap ≠ [] := by simpa using hlisted
    rw [checkInteger_of_listed hlisted]
    simp only [checkWord, Word.mapM_ofInt hfits, bind, Except.bind, hne, ne_eq, not_false_eq_true, if_true,
      Word.mem_map_wrap hfits hn, Word.map_text_wrap hfits, Word.text_wrap hn]
    split <;> rfl

/-- A check whose parts make sense judges every value in words as it judges it in integers. -/
theorem checkInWords_eq_ok (hc : c.WellFormed) (x : Value) : c.checkInWords x = .ok (c.check x) := by
  unfold checkInWords check
  cases hx : denoted? x with
  | none => rfl
  | some n =>
    obtain ⟨hlow, hhigh⟩ := (denoted?_eq_some_iff.1 hx).bounds
    have hn : Word.Fits n := ⟨by omega, by omega⟩
    have hword := checkWord_eq_ok hc hn (by omega)
    simp only [Word.ofInt_of_fits hn, bind, Except.bind, hword]

/-- An integer that passes fits the width, also when a list decides alone. -/
theorem fits_of_checkInteger (hc : c.WellFormed) (h : c.checkInteger n = none) : Width.Fits c.signed c.bits n := by
  by_contra hfits
  by_cases hlisted : c.listed = []
  · obtain ⟨o, ho⟩ := checkInteger_of_outside hlisted fun hboth => hfits hboth.1
    rw [ho] at h
    cases h
  · have hmissing : n ∉ c.listed := fun hn => hfits (hc.listed_fits n hn)
    rw [checkInteger_of_listed hlisted, if_neg hmissing] at h
    cases h

private theorem fits_of_check {x : Value} (hc : c.WellFormed) (h : c.check x = none) :
    ∃ n, x.DenotesInt n ∧ Width.Fits c.signed c.bits n := by
  unfold check at h
  split at h
  next n hn => exact ⟨n, denoted?_eq_some_iff.1 hn, fits_of_checkInteger hc h⟩
  next => cases h

/-! ### The parts of compiled checks -/

private theorem fits_of_readEnd {bound : Option String} {a? : Option Int}
    (h : Bounds.readEnd (readLiteral signed bits) bound = .ok a?) : ∀ a ∈ a?, Width.Fits signed bits a := by
  rcases Bounds.readEnd_cases h with ⟨-, rfl⟩ | ⟨t, a, -, rfl, ha⟩
  · simp
  · have hfits : Width.Fits signed bits a := fits_iff.2 (readLiteral_eq_ok_iff.1 ha).2
    simpa using hfits

private theorem fits_of_readInteger? {text : String} (h : readInteger? text = some n) : Word.Fits n := by
  obtain ⟨-, hin⟩ := Option.filter_eq_some_iff.1 h
  obtain ⟨hlow, hhigh⟩ := Bool.and_eq_true_iff.1 hin
  have hlow : -2 ^ 127 ≤ n := of_decide_eq_true hlow
  have hhigh : n ≤ 2 ^ 127 - 1 := of_decide_eq_true hhigh
  exact ⟨hlow, by omega⟩

/-- The ends of bounds that a range is read as fit the width, and the lower one does not lie above the upper one. -/
private theorem bounds_of_ofRange? {range? : Option Range} {b : Bounds Int}
    (h : Bounds.ofRange? (readLiteral signed bits) range? = .ok b) :
    (∀ lo ∈ b.min, Width.Fits signed bits lo) ∧ (∀ hi ∈ b.max, Width.Fits signed bits hi) ∧
      ∀ lo ∈ b.min, ∀ hi ∈ b.max, lo ≤ hi := by
  cases range? with
  | none =>
    obtain rfl : {} = b := Except.ok.inj h
    simp
  | some range =>
    obtain ⟨hmin, hmax, hordered, -, -⟩ := Bounds.ofRange?_some_eq_ok.1 h
    refine ⟨fits_of_readEnd hmin, fits_of_readEnd hmax, fun lo hlo hi hhi => ?_⟩
    have hnot : ¬hi < lo := of_decide_eq_false (hordered lo hi hlo hhi)
    omega

/-- The values of a rule fit the width where they are listed, and there are multiples of a step. -/
private theorem values_of_ofRule? {r : Rule} (h : ofRule? signed r = .ok c) :
    (∀ n ∈ c.listed, Width.Fits signed c.bits n) ∧ ∀ step ∈ c.step?, step ≠ 0 ∧ Word.Fits step := by
  obtain ⟨-, -, -, ⟨text, step, -, hread, hstep, hlisted⟩ | ⟨hstep, hlisted⟩⟩ := ofRule?_eq_ok h
  · obtain ⟨hread, hne⟩ := readStep_eq_ok_iff.1 hread
    have hfits := fits_of_readInteger? hread
    simp [hlisted, hstep, hne, hfits]
  · refine ⟨fun n hn => ?_, by simp [hstep]⟩
    obtain ⟨text, -, hread⟩ := mapM_eq_ok hlisted n hn
    exact fits_iff.2 (readLiteral_eq_ok_iff.1 hread).2

/-- The check that a rule is given has parts that make sense. -/
private theorem wellFormed_of_ofRule? {r : Rule} (h : ofRule? signed r = .ok c) : c.WellFormed := by
  obtain ⟨hlisted, hstep⟩ := values_of_ofRule? h
  obtain ⟨rfl, ⟨width, hwidth, hbits⟩, hrange, -⟩ := ofRule?_eq_ok h
  obtain ⟨hmin, hmax, hordered⟩ := bounds_of_ofRange? hrange
  exact {
    width := bits_of_widthOfParams (width_of_widthOfSuffix hwidth) hbits
    min_fits := hmin
    max_fits := hmax
    min_le_max := hordered
    listed_fits := hlisted
    step_ne_zero := fun step h => (hstep step h).1
    step_fits := fun step h => (hstep step h).2 }

end IntegerCheck

/-- An integer rule that compiles is given a check whose parts make sense. On every value the check meets no fault of
the machine, and what passes is an integer of the width. -/
theorem Site.create_integer_faultless {scope : Scope} {s : Site Compiled} {r : Rule}
    {key item same : Nat → Compiled Validator} {expand : Rule → Compiled Validator} {signed : Bool} {v : Validator}
    (h : s.create scope r key item same expand (.integer signed) = .ok v) :
    ∃ c, v = .integer c ∧ c.signed = signed ∧ c.WellFormed ∧
      ∀ x, c.checkInWords x = .ok (c.check x) ∧
        (c.check x = none → ∃ n, x.DenotesInt n ∧ Width.Fits signed c.bits n) := by
  obtain ⟨_, -, h⟩ := bind_eq_ok.1 h
  obtain ⟨c, hc, h⟩ := bind_eq_ok.1 h
  obtain rfl := Except.ok.inj h
  have hrule := orInvalid_eq_ok_iff.1 hc
  have hsigned := (IntegerCheck.ofRule?_eq_ok hrule).1
  have hformed := IntegerCheck.wellFormed_of_ofRule? hrule
  refine ⟨c, rfl, hsigned, hformed, fun x => ⟨IntegerCheck.checkInWords_eq_ok hformed x, fun hx => ?_⟩⟩
  rw [← hsigned]
  exact IntegerCheck.fits_of_check hformed hx

/-- The step -1 and the least integer of 64 bits. Only the least word cannot be divided by this step. -/
theorem Site.create_integer_faultless_negative :
    let s : Site Compiled := .leaf .any
    let refuse : Nat → Compiled Validator := fun _ => throw (.unknownRule "")
    let c : IntegerCheck := { signed := true, bits := 64, step? := some (-1) }
    s.create { registry := .builtin, keys := {} } { Rule.named "int64" with values := [["%-1"]] } refuse refuse refuse
        (fun _ => refuse 0) (.integer true) = .ok (.integer c) ∧
      c.WellFormed ∧ c.checkInWords (.int Int64.minValue) = .ok none ∧
      ∃ n, (Value.int Int64.minValue).DenotesInt n ∧ Width.Fits true 64 n := by
  intro s refuse c
  have hcreate : s.create { registry := .builtin, keys := {} } { Rule.named "int64" with values :=
    [["%-1"]] } refuse refuse
      refuse (fun _ => refuse 0) (.integer true) = .ok (.integer c) := by
    rfl
  obtain ⟨_, hc, -, hformed, hchecks⟩ := create_integer_faultless hcreate
  obtain rfl := Validator.integer.inj hc
  have hpasses : c.check (.int Int64.minValue) = none := by
    decide +kernel
  obtain ⟨hwords, hfits⟩ := hchecks (.int Int64.minValue)
  rw [hpasses] at hwords
  exact ⟨hcreate, hformed, hwords, hfits hpasses⟩

end FieldRules
