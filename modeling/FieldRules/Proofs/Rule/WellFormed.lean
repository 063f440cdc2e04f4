import FieldRules.Rule.Lexer
import FieldRules.Rule.Parser
import FieldRules.Rule.Printer

/-!
# Well-formed rules

A rule built by hand can hold parts that no rule text denotes, such as a literal with a blank in it.
`Rule.WellFormed` says which rules have a text. The source texts of a rule play no part in it, nor in the
canonical text (`Rule.text_bare`).
-/

namespace FieldRules

/-- A rule name: an ASCII letter, then ASCII letters, digits, underscores and hyphens. -/
def IsName (text : String) : Prop :=
  ∃ c cs, text.toList = c :: cs ∧ c.isAlpha = true ∧
    ∀ d ∈ cs, d.isAlphanum = true ∨ d = '_' ∨ d = '-'

/-- A character that neither separates literals nor ends one. -/
def IsLiteralChar (c : Char) : Prop :=
  Text.isBlank c = false ∧ Lexer.isDelimiter c = false

/-- A text that can stand as a value, be it empty: no at sign in front, no blanks and no delimiters. -/
def IsValueText (text : String) : Prop :=
  text.toList.head? ≠ some '@' ∧ ∀ c ∈ text.toList, IsLiteralChar c

/-- A text that is read as one literal. -/
def IsLiteral (text : String) : Prop :=
  text ≠ "" ∧ IsValueText text

/-- The length of the run of backslashes at the end of a text. -/
def endRun (cs : List Char) : Nat :=
  (cs.reverse.takeWhile (· = '\\')).length

/-- Whether neither a slash of the text nor its end has an odd run of backslashes in front of it. -/
def IsPatternText (text : String) : Prop :=
  ∀ front back, text.toList = front ++ back → (back = [] ∨ back.head? = some '/') → endRun front % 2 = 0

/-- Bounds that can be read: each end is a literal or left open. -/
def Range.WellFormed (range : Range) : Prop :=
  (∀ t ∈ range.min, IsLiteral t) ∧ ∀ t ∈ range.max, IsLiteral t

mutual

/-- A rule that has a text. A default is presence of its own kind, so it always makes the rule optional, and a
pattern is kept with the proof that it compiles. -/
def Rule.WellFormed : Rule → Prop
  | ⟨_, name, params, range, values, pattern, _⟩ =>
    IsName name ∧ Param.AllWellFormed params ∧ (∀ rg ∈ range, rg.WellFormed) ∧
      (∀ group ∈ values, group ≠ [] ∧ ∀ t ∈ group, IsValueText t) ∧ ∀ p ∈ pattern, IsPatternText p.source

/-- A param that has a text. -/
def Param.WellFormed : Param → Prop
  | .blank => True
  | .literal text => IsLiteral text
  | .rule r => r.WellFormed

/-- Params that all have a text. -/
def Param.AllWellFormed : List Param → Prop
  | [] => True
  | p :: ps => p.WellFormed ∧ Param.AllWellFormed ps

end

/-! ### Names and literals -/

theorem isRuleName_iff {text : String} : isRuleName text = true ↔ IsName text := by
  unfold isRuleName IsName
  cases text.toList with
  | nil => simp
  | cons c cs => simp [and_assoc, or_assoc]

instance : DecidablePred IsName := fun _ => decidable_of_iff _ isRuleName_iff

instance : DecidablePred IsLiteralChar := fun _ => inferInstanceAs (Decidable (_ ∧ _))

-- Given by hand, since an instance for all characters would be found first and tries each one there is.
instance (text : String) : Decidable (∀ c ∈ text.toList, IsLiteralChar c) :=
  List.decidableBAll IsLiteralChar text.toList

instance : DecidablePred IsValueText := fun _ => inferInstanceAs (Decidable (_ ∧ _))

instance : DecidablePred IsLiteral := fun _ => inferInstanceAs (Decidable (_ ∧ _))

theorem isLiteralChar_of_isAlphanum {c : Char} (h : c.isAlphanum = true) : IsLiteralChar c := by
  constructor
  · have hranges : ((decide (65 ≤ c.val ∧ c.val ≤ 90) || (decide (97 ≤ c.val) && decide (c.val ≤ 122))) ||
        (decide (48 ≤ c.val) && decide (c.val ≤ 57))) = true := h
    simp only [Bool.or_eq_true, Bool.and_eq_true, decide_eq_true_eq, UInt32.le_iff_toNat_le] at hranges
    have hc : ((65 ≤ c.toNat ∧ c.toNat ≤ 90) ∨ (97 ≤ c.toNat ∧ c.toNat ≤ 122)) ∨
        (48 ≤ c.toNat ∧ c.toNat ≤ 57) := hranges
    simp only [Text.isBlank, Bool.or_eq_false_iff, Bool.and_eq_false_iff, decide_eq_false_iff_not,
      beq_eq_false_iff_ne]
    omega
  · cases hd : Lexer.isDelimiter c with
    | false => rfl
    | true =>
      simp only [Lexer.isDelimiter, Bool.or_eq_true, beq_iff_eq, or_assoc] at hd
      rcases hd with rfl | rfl | rfl | rfl | rfl | rfl | rfl | rfl | rfl | rfl | rfl | rfl | rfl | rfl <;>
        exact absurd h (by decide)

private theorem isLiteralChar_of_name {c : Char} (h : c.isAlphanum = true ∨ c = '_' ∨ c = '-') :
    IsLiteralChar c := by
  rcases h with h | rfl | rfl
  · exact isLiteralChar_of_isAlphanum h
  · decide
  · decide

theorem IsName.isLiteral {text : String} (h : IsName text) : IsLiteral text := by
  obtain ⟨c, cs, htext, hc, hcs⟩ := h
  refine ⟨?_, ?_, ?_⟩
  · rintro rfl
    simp at htext
  · rw [htext]
    rintro h
    obtain rfl := Option.some.inj h
    exact absurd hc (by decide)
  · intro d hd
    rw [htext, List.mem_cons] at hd
    rcases hd with rfl | hd
    · exact isLiteralChar_of_isAlphanum (by simp [Char.isAlphanum, hc])
    · exact isLiteralChar_of_name (hcs d hd)

theorem endRun_append (cs : List Char) (c : Char) :
    endRun (cs ++ [c]) = if c = '\\' then endRun cs + 1 else 0 := by
  by_cases h : c = '\\' <;> simp [endRun, h]

/-! ### Source texts -/

theorem Param.bareAll_eq_map (ps : List Param) : Param.bareAll ps = ps.map Param.bare := by
  induction ps with
  | nil => rfl
  | cons p ps ih => simp [Param.bareAll, ih]

mutual

theorem Rule.text_bare : (r : Rule) → r.bare.text = r.text
  | ⟨_, _, params, _, _, _, _⟩ => by
    have hempty : (Param.bareAll params).isEmpty = params.isEmpty := by cases params <;> rfl
    simp only [Rule.bare, Rule.text, Param.texts_bareAll params, hempty]

private theorem Param.text_bare : (p : Param) → p.bare.text = p.text
  | .blank => rfl
  | .literal _ => rfl
  | .rule r => by simp [Param.bare, Param.text, Rule.text_bare r]

private theorem Param.texts_bareAll : (ps : List Param) → Param.texts (Param.bareAll ps) = Param.texts ps
  | [] => rfl
  | p :: ps => by simp [Param.bareAll, Param.texts, Param.text_bare p, Param.texts_bareAll ps]

end

theorem Rule.toString_eq_of_bare_eq {r s : Rule} (h : r.bare = s.bare) : r.toString = s.toString := by
  unfold Rule.toString
  rw [← Rule.text_bare r, ← Rule.text_bare s, h]

theorem Param.allWellFormed_iff {ps : List Param} : Param.AllWellFormed ps ↔ ∀ p ∈ ps, p.WellFormed := by
  induction ps with
  | nil => simp [Param.AllWellFormed]
  | cons p ps ih => simp [Param.AllWellFormed, ih]

end FieldRules
