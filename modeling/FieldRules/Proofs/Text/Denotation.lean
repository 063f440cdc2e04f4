import FieldRules.Proofs.Text.Numeral
import Mathlib.Algebra.Group.Nat.Defs
import Mathlib.Data.List.Induction

/-!
# What the text of an integer denotes

A numeral is a row of ASCII digits and denotes its positional value; an integer is one behind an optional sign
(`Text.Denotes`). The readers of integers read what a text denotes and nothing else (`Text.readInt?_eq_some_iff`).
-/

namespace FieldRules.Text

/-- One or more ASCII digits. -/
def IsNumeral (cs : List Char) : Prop :=
  cs ≠ [] ∧ ∀ c ∈ cs, c.isDigit = true

/-- The value of a row of digits. -/
abbrev positional (cs : List Char) : Nat :=
  Nat.ofDigitChars 10 cs 0

/-- The integer that a text stands for: a numeral behind an optional sign. -/
inductive Denotes : List Char → Int → Prop
  | unsigned {cs : List Char} (digits : IsNumeral cs) : Denotes cs (positional cs)
  | plus {cs : List Char} (digits : IsNumeral cs) : Denotes ('+' :: cs) (positional cs)
  | minus {cs : List Char} (digits : IsNumeral cs) : Denotes ('-' :: cs) (-positional cs)

theorem IsNumeral.ne_cons {cs rest : List Char} {c : Char} (h : IsNumeral cs) (hc : c.isDigit = false) :
    cs ≠ c :: rest := by
  rintro rfl
  have hdigit := h.2 c (List.mem_cons_self ..)
  rw [hdigit] at hc
  cases hc

private theorem isDigit_of_digit? {c : Char} {d : Nat} (h : digit? c = some d) : c.isDigit = true := by
  unfold digit? at h
  split at h
  next hc => exact Bool.and_eq_true_iff.2 ⟨decide_eq_true hc.1, decide_eq_true hc.2⟩
  next => cases h

private theorem isDigit_of_readDigits {cs : List Char} {acc n : Nat} (h : readDigits acc cs = some n) :
    ∀ c ∈ cs, c.isDigit = true := by
  induction cs generalizing acc with
  | nil => simp
  | cons c cs ih =>
    simp only [readDigits] at h
    cases hc : digit? c with
    | none => simp [hc] at h
    | some d =>
      rw [hc] at h
      exact List.forall_mem_cons.2 ⟨isDigit_of_digit? hc, ih h⟩

private theorem readUnsigned?_eq_some_iff {cs : List Char} {n : Nat} :
    readUnsigned? cs = some n ↔ IsNumeral cs ∧ n = positional cs := by
  cases cs with
  | nil => simp [readUnsigned?, IsNumeral]
  | cons c cs =>
    simp only [readUnsigned?, IsNumeral, ne_eq, reduceCtorEq, not_false_eq_true, true_and]
    constructor
    · intro h
      have hdigits := isDigit_of_readDigits h
      rw [readDigits_eq_ofDigitChars hdigits] at h
      exact ⟨hdigits, (Option.some.inj h).symm⟩
    · rintro ⟨hdigits, rfl⟩
      exact readDigits_eq_ofDigitChars hdigits 0

theorem readNat?_eq_some_iff {cs : List Char} {n : Nat} :
    readNat? cs = some n ↔ cs.head? ≠ some '-' ∧ Denotes cs n := by
  unfold readNat?
  split
  next cs =>
    rw [readUnsigned?_eq_some_iff]
    constructor
    · rintro ⟨hdigits, rfl⟩
      exact ⟨by simp, .plus hdigits⟩
    · rintro ⟨-, h⟩
      generalize hn : (n : Int) = m at h
      cases h with
      | unsigned hdigits => exact absurd rfl (hdigits.ne_cons rfl)
      | plus hdigits => exact ⟨hdigits, Int.ofNat.inj hn⟩
  next cs hplus =>
    rw [readUnsigned?_eq_some_iff]
    constructor
    · rintro ⟨hdigits, rfl⟩
      refine ⟨fun h => ?_, .unsigned hdigits⟩
      obtain ⟨rest, hrest⟩ := List.head?_eq_some_iff.1 h
      exact hdigits.ne_cons rfl hrest
    · rintro ⟨hminus, h⟩
      generalize hn : (n : Int) = m at h
      cases h with
      | unsigned hdigits => exact ⟨hdigits, Int.ofNat.inj hn⟩
      | plus => exact absurd rfl (hplus _)
      | minus => exact absurd rfl hminus

private theorem readInt?_minus (cs : List Char) :
    readInt? ('-' :: cs) = Option.map (fun n : Nat => -(n : Int)) (readUnsigned? cs) := by
  simp only [readInt?]
  cases readUnsigned? cs <;> rfl

private theorem readInt?_of_head? {cs : List Char} (h : cs.head? ≠ some '-') :
    readInt? cs = Option.map (fun n : Nat => (n : Int)) (readNat? cs) := by
  unfold readInt?
  split
  next cs => exact absurd rfl h
  next => cases readNat? _ <;> rfl

/-- Reading an integer finds out what its text denotes. -/
theorem readInt?_eq_some_iff {cs : List Char} {n : Int} : readInt? cs = some n ↔ Denotes cs n := by
  by_cases hhead : cs.head? = some '-'
  · obtain ⟨cs, rfl⟩ := List.head?_eq_some_iff.1 hhead
    simp only [readInt?_minus, Option.map_eq_some_iff, readUnsigned?_eq_some_iff]
    constructor
    · rintro ⟨_, ⟨hdigits, rfl⟩, rfl⟩
      exact .minus hdigits
    · intro h
      cases h with
      | unsigned hdigits => exact absurd rfl (hdigits.ne_cons rfl)
      | minus hdigits => exact ⟨_, ⟨hdigits, rfl⟩, rfl⟩
  · simp only [readInt?_of_head? hhead, Option.map_eq_some_iff, readNat?_eq_some_iff]
    constructor
    · rintro ⟨_, ⟨-, h⟩, rfl⟩
      exact h
    · intro h
      cases h with
      | unsigned hdigits => exact ⟨_, ⟨hhead, .unsigned hdigits⟩, rfl⟩
      | plus hdigits => exact ⟨_, ⟨hhead, .plus hdigits⟩, rfl⟩
      | minus => exact absurd rfl hhead

theorem Denotes.unique {cs : List Char} {m n : Int} (hm : Denotes cs m) (hn : Denotes cs n) : m = n := by
  rw [← readInt?_eq_some_iff] at hm hn
  exact Option.some.inj (hm.symm.trans hn)

theorem Denotes.nonpos_of_minus {cs : List Char} {n : Int} (h : Denotes cs n) (hminus : cs.head? = some '-') :
    n ≤ 0 := by
  cases h with
  | unsigned hdigits =>
    obtain ⟨rest, hrest⟩ := List.head?_eq_some_iff.1 hminus
    exact absurd hrest (hdigits.ne_cons rfl)
  | plus => simp at hminus
  | minus => omega

theorem denotes_of_readSigned? {bits : Nat} {cs : List Char} {n : Int} (h : readSigned? bits cs = some n) :
    Denotes cs n :=
  readInt?_eq_some_iff.1 (Option.filter_eq_some_iff.1 h).1

/-! ### Values of rows of digits -/

private theorem positional_append_singleton (cs : List Char) (c : Char) :
    positional (cs ++ [c]) = 10 * positional cs + (c.toNat - 48) := by
  simp [positional, Nat.ofDigitChars_append, Nat.ofDigitChars_cons]

/-- The value of a row of digits is bounded by their number. -/
theorem positional_lt {cs : List Char} (h : ∀ c ∈ cs, c.isDigit = true) : positional cs < 10 ^ cs.length := by
  induction cs using List.reverseRecOn with
  | nil => decide
  | append_singleton cs c ih =>
    obtain ⟨hcs, hc⟩ := List.forall_mem_append.1 h
    have hc : 48 ≤ c.toNat ∧ c.toNat ≤ 57 := Char.isDigit_iff_toNat.1 (hc c (List.mem_singleton_self c))
    have hcs := ih hcs
    rw [positional_append_singleton, List.length_append, List.length_singleton, pow_succ]
    omega

private theorem digits_of_isDigit {c : Char} (h : c.isDigit = true) : digits (c.toNat - 48) = [c] := by
  have hchar : ∀ n < 10, Nat.digitChar n = Char.ofNat (n + 48) := by decide
  have hc : 48 ≤ c.toNat ∧ c.toNat ≤ 57 := Char.isDigit_iff_toNat.1 h
  have hlt : c.toNat - 48 < 10 := by omega
  rw [digits, Nat.toDigits_of_lt_base hlt, hchar _ hlt, Nat.sub_add_cancel hc.1, Char.ofNat_toNat]

/-- A numeral that does not begin with a zero is how its value is written. -/
theorem digits_positional {c : Char} {cs : List Char} (h : ∀ d ∈ c :: cs, d.isDigit = true) (hzero : c ≠ '0') :
    digits (positional (c :: cs)) = c :: cs ∧ 0 < positional (c :: cs) := by
  induction cs using List.reverseRecOn with
  | nil =>
    have hc := h c (List.mem_cons_self ..)
    have hvalue : positional [c] = c.toNat - 48 := by simpa using positional_append_singleton [] c
    rw [hvalue]
    refine ⟨digits_of_isDigit hc, ?_⟩
    have hne : c.toNat ≠ 48 := fun he => hzero (Char.toNat_inj.1 he)
    have hdigit : 48 ≤ c.toNat ∧ c.toNat ≤ 57 := Char.isDigit_iff_toNat.1 hc
    omega
  | append_singleton cs d ih =>
    rw [← List.cons_append] at h ⊢
    obtain ⟨hcs, hd⟩ := List.forall_mem_append.1 h
    obtain ⟨hdigits, hpos⟩ := ih hcs
    have hd := hd d (List.mem_singleton_self d)
    have hlt : d.toNat - 48 < 10 := by
      have hdigit : 48 ≤ d.toNat ∧ d.toNat ≤ 57 := Char.isDigit_iff_toNat.1 hd
      omega
    rw [positional_append_singleton]
    refine ⟨?_, by omega⟩
    rw [digits, ← Nat.toDigits_append_toDigits (by decide) hpos hlt]
    exact congrArg₂ _ hdigits (digits_of_isDigit hd)

end FieldRules.Text
