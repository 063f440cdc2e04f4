import FieldRules.Proofs.Rule.Reading
import FieldRules.Proofs.Validator.ReadBack
import FieldRules.Validator.Basic

/-!
# The canonical rules of checks

A check of a family is written as a rule (`IntegerCheck.rule`, `TextCheck.rule`, `Format.rule`) whose text is
the canonical text of the check. The canonical rule of a check that a rule was given means the same check,
although the two rules need not be alike: a width moves from the name into a param, groups of values become
one group, and beside a pattern a range is lost.
-/

namespace FieldRules

/-! ### Integer rules -/

namespace IntegerCheck

variable {signed : Bool} {bits : Nat}

private theorem readInteger?_text {text : String} {n : Int} (h : readInteger? text = some n) :
    readInteger? (Quantity.text n) = some n := by
  simpa [readInteger?, Quantity.text] using Text.readSigned?_integer_of_eq h

theorem readLiteral_eq_ok_iff {text : String} {n : Int} : readLiteral signed bits text = .ok n ↔
    readInteger? text = some n ∧ (limits signed bits).1 ≤ n ∧ n ≤ (limits signed bits).2 := by
  unfold readLiteral
  cases readInteger? text with
  | none => simp
  | some m =>
    by_cases hm : (limits signed bits).1 ≤ m ∧ m ≤ (limits signed bits).2
    · simp only [hm, and_self, if_true, Except.ok.injEq, Option.some.injEq]
      constructor
      · rintro rfl
        exact ⟨rfl, hm⟩
      · rintro ⟨rfl, -⟩
        rfl
    · simp only [hm, if_false, Option.some.injEq, reduceCtorEq, false_iff]
      rintro ⟨rfl, h⟩
      exact hm h

private theorem readsBack_readLiteral : ReadsBack (readLiteral signed bits) where
  text := by
    intro t n h
    obtain ⟨hread, hlimits⟩ := readLiteral_eq_ok_iff.1 h
    exact readLiteral_eq_ok_iff.2 ⟨readInteger?_text hread, hlimits⟩
  literal := fun _ => Text.isLiteral_integer _
  eq := of_decide_eq_true

theorem readStep_eq_ok_iff {text : String} {step : Int} :
    readStep text = .ok step ↔ readInteger? text = some step ∧ step ≠ 0 := by
  unfold readStep
  cases readInteger? text with
  | none => simp
  | some n =>
    by_cases hn : n = 0
    · simp only [hn, if_true, reduceCtorEq, Option.some.injEq, false_iff]
      rintro ⟨rfl, h⟩
      exact h rfl
    · simp only [hn, if_false, Except.ok.injEq, Option.some.injEq]
      constructor
      · rintro rfl
        exact ⟨rfl, hn⟩
      · rintro ⟨rfl, -⟩
        rfl

theorem bits_of_widthOfParams {width : Nat} {params : List Param} (hwidth : 1 ≤ width ∧ width ≤ 64)
    (h : widthOfParams width params = .ok bits) : 1 ≤ bits ∧ bits ≤ 64 := by
  unfold widthOfParams at h
  split at h
  · obtain rfl := Except.ok.inj h
    exact hwidth
  · split at h
    next n hread =>
      obtain rfl := Except.ok.inj h
      obtain ⟨_, hn⟩ := Option.filter_eq_some_iff.1 hread
      simpa using hn
    · cases h
  · cases h

theorem width_of_widthOfSuffix {text : String} (h : widthOfSuffix text = .ok bits) : 1 ≤ bits ∧ bits ≤ 64 := by
  unfold widthOfSuffix at h
  split at h <;> cases h <;> decide

private theorem widthOfParams_natText {width : Nat} (h : 1 ≤ bits ∧ bits ≤ 64) :
    widthOfParams width [.literal (natText bits)] = .ok bits := by
  have hread : Text.readNatUpTo? 255 (Text.digits bits) = some bits := Text.readNatUpTo?_digits (by omega)
  have hfilter : (some bits).filter (fun b => 1 ≤ b && b ≤ 64) = some bits := by simp [Option.filter, h]
  simp only [widthOfParams, natText, String.toList_ofList, hread, hfilter]

/-- The values in the canonical rule of an integer check. -/
def ruleValues (c : IntegerCheck) : List (List String) :=
  match c.step? with
  | some step => [["%" ++ Quantity.text step]]
  | none => if c.listed.isEmpty then [] else [c.listed.map Quantity.text]

/-- The canonical rule of an integer check. -/
def rule (c : IntegerCheck) : Rule :=
  { Rule.named (family c.signed) with
    params := [.literal (natText c.bits)]
    range := c.bounds.range?
    values := c.ruleValues }

theorem toString_rule (c : IntegerCheck) : c.rule.toString = c.text := by
  obtain ⟨signed, bits, bounds, listed, step?⟩ := c
  rw [← String.toList_inj]
  cases step? <;> cases listed <;>
    simp [rule, ruleValues, text, Rule.toString, Rule.text, Rule.named, Param.texts, Param.text, Bounds.text,
      stepText, listedText, commaSeparated, Presence.text]

private theorem stepText?_integer (n : Int) : stepText? (Quantity.text n) = none := by
  have hne (rest : List Char) : Text.integer n ≠ '%' :: rest := by
    cases n with
    | ofNat n => exact Text.digits_ne_cons rfl
    | negSucc n => simp [Text.integer]
  unfold stepText?
  split
  next rest h =>
    rw [Quantity.text, instQuantityInt, String.toList_ofList] at h
    exact absurd h (hne rest)
  · rfl

theorem stepText?_percent (text : String) : stepText? ("%" ++ text) = some text := by
  simp [stepText?]

theorem suffix_family : suffix signed (family signed) = "" := by
  cases signed <;> decide

private theorem isName_family (signed : Bool) : IsName (family signed) := by
  cases signed <;> decide

private theorem isValueText_ruleValues (c : IntegerCheck) :
    ∀ group ∈ c.ruleValues, group ≠ [] ∧ ∀ t ∈ group, IsValueText t := by
  obtain ⟨signed, bits, bounds, listed, step?⟩ := c
  have htext (n : Int) : IsLiteral (Quantity.text n) := Text.isLiteral_integer n
  cases step? with
  | some step =>
    have hpercent : IsValueText ("%" ++ Quantity.text step) := by
      constructor
      · simp
      · rw [String.toList_append]
        exact List.forall_mem_cons.2 ⟨by decide, (htext step).2.2⟩
    simpa [ruleValues] using hpercent
  | none =>
    cases listed with
    | nil => simp [ruleValues]
    | cons n rest =>
      simp only [ruleValues, List.isEmpty_cons, Bool.false_eq_true, if_false, List.forall_mem_singleton]
      refine ⟨by simp, ?_⟩
      intro t ht
      obtain ⟨m, -, rfl⟩ := List.mem_map.1 ht
      exact (htext m).2

/-- What a rule can make of a check. -/
theorem of_ofRule? {r : Rule} {c : IntegerCheck} (h : ofRule? signed r = .ok c) :
    c.signed = signed ∧ (1 ≤ c.bits ∧ c.bits ≤ 64) ∧
      Bounds.ofRange? (readLiteral signed c.bits) r.range = .ok c.bounds ∧
      (∀ step, c.step? = some step → c.listed = [] ∧ ∃ t, readStep t = .ok step) ∧
      ∀ n ∈ c.listed, ∃ t, readLiteral signed c.bits t = .ok n := by
  obtain ⟨_, -, h⟩ := bind_eq_ok.1 h
  obtain ⟨width, hwidth, h⟩ := bind_eq_ok.1 h
  obtain ⟨bits, hbits, h⟩ := bind_eq_ok.1 h
  obtain ⟨bounds, hbounds, h⟩ := bind_eq_ok.1 h
  have hrange := bits_of_widthOfParams (width_of_widthOfSuffix hwidth) hbits
  split at h
  next value _ =>
    split at h
    next text _ =>
      obtain ⟨step, hstep, h⟩ := bind_eq_ok.1 h
      cases h
      refine ⟨rfl, hrange, hbounds, ?_, by simp⟩
      rintro _ ⟨⟩
      exact ⟨rfl, text, hstep⟩
    next =>
      obtain ⟨n, hn, h⟩ := bind_eq_ok.1 h
      cases h
      refine ⟨rfl, hrange, hbounds, by simp, ?_⟩
      intro m hm
      obtain rfl := List.mem_singleton.1 hm
      exact ⟨value, hn⟩
  next =>
    obtain ⟨listed, hlisted, h⟩ := bind_eq_ok.1 h
    cases h
    refine ⟨rfl, hrange, hbounds, by simp, ?_⟩
    intro n hn
    obtain ⟨t, -, ht⟩ := mapM_eq_ok hlisted n hn
    exact ⟨t, ht⟩

/-- The canonical rule means the check again, and it has a text. -/
theorem ofRule?_rule {r : Rule} {c : IntegerCheck} (h : ofRule? signed r = .ok c) :
    ofRule? signed c.rule = .ok c ∧ c.rule.WellFormed := by
  obtain ⟨hsigned, hbits, hbounds, hstep, hlisted⟩ := of_ofRule? h
  obtain ⟨signed', bits, bounds, listed, step?⟩ := c
  obtain rfl : signed' = signed := hsigned
  obtain ⟨hbounds, hrange⟩ := Bounds.ofRange?_range? readsBack_readLiteral hbounds
  have htexts : ∀ n ∈ listed, readLiteral signed' bits (Quantity.text n) = .ok n := by
    intro n hn
    obtain ⟨t, ht⟩ := hlisted n hn
    exact readsBack_readLiteral.text ht
  have hwidth : widthOfSuffix (suffix signed' (family signed')) = .ok 32 := by
    rw [suffix_family]
    rfl
  constructor
  · refine bind_eq_ok.2 ⟨(), rfl, bind_eq_ok.2 ⟨32, hwidth, ?_⟩⟩
    refine bind_eq_ok.2 ⟨bits, widthOfParams_natText hbits, bind_eq_ok.2 ⟨bounds, hbounds, ?_⟩⟩
    cases step? with
    | some step =>
      obtain ⟨rfl, t, ht⟩ := hstep step rfl
      obtain ⟨hread, hne⟩ := readStep_eq_ok_iff.1 ht
      have hback : readStep (Quantity.text step) = .ok step :=
        readStep_eq_ok_iff.2 ⟨readInteger?_text hread, hne⟩
      simp only [rule, ruleValues, Rule.computedValues, List.foldl_nil, stepText?_percent, hback]
      rfl
    | none =>
      cases listed with
      | nil => rfl
      | cons n rest =>
        -- A single value is looked at twice, since it might have been a step.
        cases rest with
        | nil =>
          have hn := htexts n (List.mem_singleton_self n)
          simp only [rule, ruleValues, Rule.computedValues, List.isEmpty_cons, Bool.false_eq_true, if_false,
            List.map_cons, List.map_nil, List.foldl_nil, stepText?_integer, hn]
          rfl
        | cons m rest =>
          exact bind_eq_ok.2 ⟨n :: m :: rest, mapM_map_of_ok htexts, rfl⟩
  · exact Rule.wellFormed_iff.2
      ⟨isName_family _, ⟨Text.isLiteral_digits bits, trivial⟩, hrange, isValueText_ruleValues _,
        fun _ h => absurd h (Option.not_mem_none _)⟩

end IntegerCheck

/-! ### Text rules -/

private theorem isValueText_append {s t : String} (hs : IsValueText s) (ht : IsValueText t) :
    IsValueText (s ++ t) := by
  constructor
  · rw [String.toList_append, List.head?_append]
    cases hhead : s.toList.head? with
    | none => exact ht.1
    | some c =>
      have hc := hs.1
      rw [hhead] at hc
      exact hc
  · rw [String.toList_append]
    exact List.forall_mem_append.2 ⟨hs.2, ht.2⟩

private theorem isValueText_of_mem_foldl_combine {groups : List (List String)} {heads : List String}
    (hheads : ∀ t ∈ heads, IsValueText t) (hgroups : ∀ group ∈ groups, ∀ t ∈ group, IsValueText t) :
    ∀ t ∈ groups.foldl combine heads, IsValueText t := by
  induction groups generalizing heads with
  | nil => exact hheads
  | cons group groups ih =>
    refine ih ?_ fun g hg => hgroups g (List.mem_cons_of_mem _ hg)
    intro t ht
    obtain ⟨front, hfront, ht⟩ := List.mem_flatMap.1 ht
    obtain ⟨back, hback, rfl⟩ := List.mem_map.1 ht
    exact isValueText_append (hheads front hfront) (hgroups group (List.mem_cons_self ..) back hback)

private theorem isValueText_of_mem_computedValues {r : Rule} (h : r.WellFormed) :
    ∀ t ∈ r.computedValues, IsValueText t := by
  obtain ⟨-, -, -, hvalues, -⟩ := Rule.wellFormed_iff.1 h
  unfold Rule.computedValues
  split
  · simp
  next group groups hgroups =>
    rw [hgroups] at hvalues
    have hall := List.forall_mem_cons.1 hvalues
    exact isValueText_of_mem_foldl_combine hall.1.2 fun g hg => (hall.2 g hg).2

namespace TextCheck

/-- The canonical rule of a text check. -/
def rule (c : TextCheck) : Rule :=
  { Rule.named "string" with
    params := if c.unit = .characters then [.literal "chars"] else []
    range := c.bounds.range?
    values := if c.listed.isEmpty then [] else [c.listed]
    pattern := c.pattern? }

theorem toString_rule (c : TextCheck) : c.rule.toString = c.text := by
  obtain ⟨unit, bounds, listed, pattern?⟩ := c
  rw [← String.toList_inj]
  cases unit <;> cases listed <;> cases pattern? <;>
    simp [rule, text, Rule.toString, Rule.text, Rule.named, Param.texts, Param.text, Bounds.text, listedText,
      commaSeparated, Presence.text, Pattern.toString]

/-- What a rule can make of a check. -/
theorem of_ofRule? {r : Rule} {c : TextCheck} (h : ofRule? r = .ok c) :
    c.listed = r.computedValues ∧ c.pattern? = r.pattern ∧
      if r.pattern.isSome then c.bounds = {} else Bounds.ofLengths? r.range = .ok c.bounds := by
  obtain ⟨unit, -, h⟩ := bind_eq_ok.1 h
  split at h
  next hpattern =>
    cases h
    exact ⟨rfl, rfl, by rw [if_pos hpattern]⟩
  next hpattern =>
    obtain ⟨bounds, hbounds, h⟩ := bind_eq_ok.1 h
    cases h
    exact ⟨rfl, rfl, by rwa [if_neg hpattern]⟩

/-- The canonical rule means the check again, and it has a text. -/
theorem ofRule?_rule {r : Rule} {c : TextCheck} (hr : r.WellFormed) (h : ofRule? r = .ok c) :
    ofRule? c.rule = .ok c ∧ c.rule.WellFormed := by
  obtain ⟨hlisted, hpattern, hbounds⟩ := of_ofRule? h
  obtain ⟨unit, bounds, listed, pattern?⟩ := c
  obtain rfl : listed = r.computedValues := hlisted
  obtain rfl : pattern? = r.pattern := hpattern
  have hunit : unitOfParams (unitOfName "string") (if unit = .characters then [.literal "chars"] else []) =
      .ok unit := by
    cases unit <;> rfl
  have hvalues : Rule.computedValues (rule ⟨unit, bounds, r.computedValues, r.pattern⟩) = r.computedValues := by
    cases hlisted : r.computedValues <;> simp [rule, Rule.computedValues]
  have hback : r.pattern.isSome = false → Bounds.ofLengths? bounds.range? = .ok bounds ∧
      ∀ rg ∈ bounds.range?, rg.WellFormed := by
    intro hpattern
    rw [hpattern] at hbounds
    exact Bounds.ofRange?_range? readsBack_readLength hbounds
  constructor
  · refine bind_eq_ok.2 ⟨unit, hunit, ?_⟩
    rw [hvalues]
    cases hpattern : r.pattern.isSome with
    | true =>
      rw [hpattern] at hbounds
      obtain rfl : bounds = {} := hbounds
      exact if_pos hpattern
    | false =>
      refine (if_neg (ne_true_of_eq_false hpattern)).trans ?_
      exact bind_eq_ok.2 ⟨bounds, (hback hpattern).1, rfl⟩
  · obtain ⟨-, -, -, -, htext⟩ := Rule.wellFormed_iff.1 hr
    have hname : IsName "string" := by decide
    have hmode : IsLiteral "chars" := by decide
    refine Rule.wellFormed_iff.2 ⟨hname, ?_, ?_, ?_, htext⟩
    · cases unit with
      | bytes => trivial
      | characters => exact ⟨hmode, trivial⟩
    · cases hpattern : r.pattern.isSome with
      | true =>
        rw [hpattern] at hbounds
        obtain rfl : bounds = {} := hbounds
        exact fun _ h => absurd h (Option.not_mem_none _)
      | false => exact (hback hpattern).2
    · have hall := isValueText_of_mem_computedValues hr
      cases hlisted : r.computedValues with
      | nil => exact List.forall_mem_nil _
      | cons t rest =>
        rw [hlisted] at hall
        exact List.forall_mem_singleton.2 ⟨List.cons_ne_nil t rest, hall⟩

end TextCheck

/-! ### Formats -/

/-- The canonical rule of a format. -/
def Format.rule (f : Format) : Rule :=
  Rule.named f.name

theorem Format.toString_rule (f : Format) : f.rule.toString = f.text := by
  rw [← String.toList_inj]
  simp [rule, text, Rule.toString, Rule.text, Rule.named, Presence.text]

end FieldRules
