import FieldRules.Proofs.Rule.WellFormed
import FieldRules.Text.Numeral
import FieldRules.Width

/-!
# Decimal integers read back

The digits of a number read as the number, by every reader whose limits it keeps, and they can stand as a
literal in a rule.
-/

namespace FieldRules.Text

private theorem digit?_of_isDigit {c : Char} (h : c.isDigit = true) : digit? c = some (c.toNat - '0'.toNat) := by
  simp only [Char.isDigit, Bool.and_eq_true, decide_eq_true_eq] at h
  exact if_pos h

theorem readDigits_eq_ofDigitChars {cs : List Char} (h : ∀ c ∈ cs, c.isDigit = true) (acc : Nat) :
    readDigits acc cs = some (Nat.ofDigitChars 10 cs acc) := by
  induction cs generalizing acc with
  | nil => rfl
  | cons c cs ih =>
    have hc := digit?_of_isDigit (h c (List.mem_cons_self ..))
    have hcs := ih (fun d hd => h d (List.mem_cons_of_mem _ hd)) (10 * acc + (c.toNat - '0'.toNat))
    simp only [readDigits, hc, hcs, Nat.ofDigitChars_cons]

private theorem isDigit_of_mem_digits {n : Nat} {c : Char} (h : c ∈ digits n) : c.isDigit = true :=
  Nat.isDigit_of_mem_toDigits (by decide) (by decide) h

private theorem digits_ne_nil (n : Nat) : digits n ≠ [] :=
  Nat.toDigits_ne_nil

/-- Digits do not start with a character that is none, such as a sign. -/
theorem digits_ne_cons {n : Nat} {c : Char} {cs : List Char} (hc : c.isDigit = false) : digits n ≠ c :: cs := by
  intro h
  have hmem : c ∈ digits n := h ▸ List.mem_cons_self ..
  rw [isDigit_of_mem_digits hmem] at hc
  exact Bool.noConfusion hc

private theorem readUnsigned?_digits (n : Nat) : readUnsigned? (digits n) = some n := by
  have hread : readDigits 0 (digits n) = some n := by
    rw [readDigits_eq_ofDigitChars fun c hc => isDigit_of_mem_digits hc]
    exact congrArg some (Nat.ofDigitChars_toDigits (by decide) (by decide))
  unfold readUnsigned?
  split
  next h => exact absurd h (digits_ne_nil n)
  · exact hread

private theorem readNat?_digits (n : Nat) : readNat? (digits n) = some n := by
  unfold readNat?
  split
  next h => exact absurd h (digits_ne_cons rfl)
  · exact readUnsigned?_digits n

private theorem readInt?_integer (n : Int) : readInt? (integer n) = some n := by
  cases n with
  | ofNat n =>
    unfold readInt?
    split
    next h => exact absurd h (digits_ne_cons rfl)
    · simp [integer, readNat?_digits]
  | negSucc n =>
    simp only [integer, readInt?, readUnsigned?_digits]
    rfl

theorem readNatUpTo?_digits {max n : Nat} (h : n ≤ max) : readNatUpTo? max (digits n) = some n := by
  simp [readNatUpTo?, readNat?_digits, h]

theorem readNatUpTo?_le {max n : Nat} {cs : List Char} (h : readNatUpTo? max cs = some n) : n ≤ max := by
  obtain ⟨_, hle⟩ := Option.filter_eq_some_iff.1 h
  exact of_decide_eq_true hle

theorem readWord?_digits_of_eq {bits n : Nat} {cs : List Char} (h : readWord? bits cs = some n) :
    readWord? bits (digits n) = some n :=
  readNatUpTo?_digits (readNatUpTo?_le h)

theorem readSigned?_integer_of_eq {bits : Nat} {n : Int} {cs : List Char} (h : readSigned? bits cs = some n) :
    readSigned? bits (integer n) = some n := by
  obtain ⟨_, hin⟩ := Option.filter_eq_some_iff.1 h
  rw [readSigned?, readIntIn?, readInt?_integer]
  exact Option.filter_eq_some_iff.2 ⟨rfl, hin⟩

/-! ### Numbers as literals -/

private theorem isLiteralChar_of_isDigit {c : Char} (h : c.isDigit = true) : IsLiteralChar c :=
  isLiteralChar_of_isAlphanum (by simp [Char.isAlphanum, h])

theorem isLiteral_digits (n : Nat) : IsLiteral (String.ofList (digits n)) := by
  refine ⟨?_, ?_, ?_⟩
  · intro h
    exact digits_ne_nil n (String.ofList_eq_empty_iff.1 h)
  · intro h
    rw [String.toList_ofList] at h
    obtain ⟨rest, hrest⟩ := List.head?_eq_some_iff.1 h
    exact digits_ne_cons rfl hrest
  · intro c hc
    rw [String.toList_ofList] at hc
    exact isLiteralChar_of_isDigit (isDigit_of_mem_digits hc)

theorem isLiteral_integer (n : Int) : IsLiteral (String.ofList (integer n)) := by
  cases n with
  | ofNat n => exact isLiteral_digits n
  | negSucc n =>
    obtain ⟨_, _, hchars⟩ := isLiteral_digits (n + 1)
    rw [String.toList_ofList] at hchars
    refine ⟨by simp [integer], by simp [integer], ?_⟩
    rw [integer, String.toList_ofList]
    exact List.forall_mem_cons.2 ⟨by decide, hchars⟩

end FieldRules.Text
