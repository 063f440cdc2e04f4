import FieldRules.Proofs.Decimal.Value
import FieldRules.Proofs.Rule.Values
import FieldRules.Proofs.Text.Denotation
import FieldRules.Proofs.Validator.Canonical

/-!
# What integer rules mean

Which integers a rule lets pass, said of its parts (`Rule.AdmitsInt`), and why it refuses the others
(`Rule.RefusesInt`). The check that such a rule is given judges integers so (`IntegerCheck.checkInteger_judges`), and
other values by the integer that they denote (`IntegerCheck.check_judges`).
-/

namespace FieldRules

/-! ### The integers that values denote -/

/-- The integer that a value denotes: the number itself, or a floating-point number without fraction that is not too
large. -/
inductive Value.DenotesInt : Value → Int → Prop
  | int (n : Int64) : DenotesInt (.int n) n.toInt
  | uint (n : UInt64) : DenotesInt (.uint n) n.toNat
  | float {x : Float} {b : Decimal.Binary} {n : Int} (finite : Decimal.classify x = .finite b) (whole : b.value = n)
      (small : |n| < 19 * 10 ^ 18) : DenotesInt (.float x) n

theorem IntegerCheck.denoted?_eq_some_iff {x : Value} {n : Int} : denoted? x = some n ↔ x.DenotesInt n := by
  cases x with
  | int m =>
    constructor
    · rintro ⟨⟩
      exact .int m
    · rintro ⟨⟩
      rfl
  | uint m =>
    constructor
    · rintro ⟨⟩
      exact .uint m
    · rintro ⟨⟩
      rfl
  | float x =>
    simp only [denoted?, Option.filter_eq_some_iff, Decimal.integer?_eq_some_iff, Bool.and_eq_true, decide_eq_true_eq]
    rw [floatLimit, ← abs_lt]
    constructor
    · rintro ⟨⟨b, hfinite, hwhole⟩, hsmall⟩
      exact .float hfinite hwhole hsmall
    · rintro ⟨⟩
      exact ⟨⟨_, ‹_›, ‹_›⟩, ‹_›⟩
  | null | bool | string | list | map | struct =>
    constructor
    · rintro ⟨⟩
    · rintro ⟨⟩

theorem Value.DenotesInt.unique {x : Value} {m n : Int} (hm : x.DenotesInt m) (hn : x.DenotesInt n) : m = n := by
  rw [← IntegerCheck.denoted?_eq_some_iff] at hm hn
  exact Option.some.inj (hm.symm.trans hn)

/-! ### The integers that rules admit -/

/-- Whether an integer fits a width: in two's complement, or as a natural number. -/
def Width.Fits (signed : Bool) (bits : Nat) (n : Int) : Prop :=
  if signed then -2 ^ (bits - 1) ≤ n ∧ n < 2 ^ (bits - 1) else 0 ≤ n ∧ n < 2 ^ bits

/-- Whether an integer lies in a range, on the right sides of the integers that its ends denote. -/
def Range.AdmitsInt (range : Range) (n : Int) : Prop :=
  (∀ t ∈ range.min, ∃ lo, Text.Denotes t.toList lo ∧ if range.exclusiveMin then lo < n else lo ≤ n) ∧
    ∀ t ∈ range.max, ∃ hi, Text.Denotes t.toList hi ∧ if range.exclusiveMax then n < hi else n ≤ hi

namespace Rule

/-- The width of a rule: that of its param, or else of the end of its name, or else 32 bits. -/
inductive HasWidth (signed : Bool) (r : Rule) : Nat → Prop
  | plain (name : r.name = IntegerCheck.family signed) (params : r.params = []) : HasWidth signed r 32
  | suffix {bits : Nat} (usual : bits ∈ [8, 16, 32, 64]) (name : r.name = IntegerCheck.family signed ++ natText bits)
      (params : r.params = []) : HasWidth signed r bits
  | param {text : String} {bits : Nat} (params : r.params = [.literal text]) (denotes : Text.Denotes text.toList bits)
      (possible : 1 ≤ bits ∧ bits ≤ 64) : HasWidth signed r bits

/-- Whether the values of a rule list what passes: there are some, and none stands behind a percent sign. -/
def Lists (r : Rule) : Prop :=
  r.values ≠ [] ∧ ∀ text, ¬r.Spells ("%" ++ text)

/-- Whether an integer is one of the values of a rule. -/
def ListsInt (r : Rule) (n : Int) : Prop :=
  ∃ text, r.Spells text ∧ Text.Denotes text.toList n

/-- Whether an integer fits the width of a rule and lies in its range. -/
def BoundsInt (signed : Bool) (r : Rule) (n : Int) : Prop :=
  (∃ bits, r.HasWidth signed bits ∧ Width.Fits signed bits n) ∧ ∀ range ∈ r.range, range.AdmitsInt n

/-- Whether an integer is a multiple of what stands behind a percent sign. -/
def StepsTo (r : Rule) (n : Int) : Prop :=
  ∀ text, r.Spells ("%" ++ text) → ∃ step, Text.Denotes text.toList step ∧ step ∣ n

/-- Whether a rule of an integer family lets an integer pass: a list decides alone. -/
def AdmitsInt (signed : Bool) (r : Rule) (n : Int) : Prop :=
  (r.Lists ∧ r.ListsInt n) ∨ (¬r.Lists ∧ r.BoundsInt signed n ∧ r.StepsTo n)

/-- Why a rule of an integer family refuses an integer. -/
inductive RefusesInt (signed : Bool) (r : Rule) (n : Int) : String → Prop
  | notListed (lists : r.Lists) (missing : ¬r.ListsInt n) : RefusesInt signed r n "not_in_enum"
  | outOfRange (unlisted : ¬r.Lists) (outside : ¬r.BoundsInt signed n) : RefusesInt signed r n "out_of_range"
  | notMultiple (unlisted : ¬r.Lists) (inside : r.BoundsInt signed n) (between : ¬r.StepsTo n) :
    RefusesInt signed r n "multiple_of"

/-- Why a rule of an integer family refuses a value: it denotes no integer, or one that is refused. -/
inductive RefusesValue (signed : Bool) (r : Rule) (x : Value) : String → Prop
  | unsupported (none : ∀ n, ¬x.DenotesInt n) : RefusesValue signed r x "unsupported_type"
  | integer {n : Int} {code : String} (denotes : x.DenotesInt n) (refuses : r.RefusesInt signed n code) :
    RefusesValue signed r x code

end Rule

/-! ### The parts of a check -/

namespace IntegerCheck

variable {signed : Bool} {r : Rule} {c : IntegerCheck}

private theorem denotes_of_readInteger? {text : String} {n : Int} (h : readInteger? text = some n) :
    Text.Denotes text.toList n :=
  Text.denotes_of_readSigned? h

theorem fits_iff {bits : Nat} {n : Int} :
    Width.Fits signed bits n ↔ (limits signed bits).1 ≤ n ∧ n ≤ (limits signed bits).2 := by
  unfold Width.Fits limits
  cases signed with
  | true =>
    have hpow : ((Nat.pow 2 (bits - 1) : Nat) : Int) = 2 ^ (bits - 1) := by exact_mod_cast rfl
    simp only [if_true, Width.minSigned, Width.maxSigned, Int.ofNat_eq_natCast, hpow]
    omega
  | false =>
    have hpow : ((Nat.pow 2 bits : Nat) : Int) = 2 ^ bits := by exact_mod_cast rfl
    have hpos : 0 < Nat.pow 2 bits := Nat.pow_pos (by decide)
    simp only [Bool.false_eq_true, if_false, Width.maxUnsigned]
    omega

private theorem suffix_append (text : String) : suffix signed (family signed ++ text) = text := by
  simp [suffix]

private theorem widthOfSuffix_natText {bits : Nat} (h : bits ∈ [8, 16, 32, 64]) :
    widthOfSuffix (natText bits) = .ok bits := by
  simp only [List.mem_cons, List.not_mem_nil, or_false] at h
  rcases h with rfl | rfl | rfl | rfl <;> rfl

private theorem of_widthOfSuffix {text : String} {width : Nat} (h : widthOfSuffix text = .ok width) :
    (text = "" ∧ width = 32) ∨ (width ∈ [8, 16, 32, 64] ∧ text = natText width) := by
  unfold widthOfSuffix at h
  split at h <;> cases h
  · exact .inl ⟨rfl, rfl⟩
  all_goals exact .inr ⟨by decide, by decide⟩

private theorem widthOfParams_literal {width bits : Nat} {text : String} :
    widthOfParams width [.literal text] = .ok bits ↔
      Text.Denotes text.toList bits ∧ 1 ≤ bits ∧ bits ≤ 64 := by
  have hread : (Text.readNatUpTo? 255 text.toList).filter (fun b => 1 ≤ b && b ≤ 64) = some bits ↔
      Text.Denotes text.toList bits ∧ 1 ≤ bits ∧ bits ≤ 64 := by
    simp only [Text.readNatUpTo?, Option.filter_eq_some_iff, Text.readNat?_eq_some_iff, Bool.and_eq_true,
      decide_eq_true_eq]
    constructor
    · rintro ⟨⟨⟨-, hdenotes⟩, -⟩, hbits⟩
      exact ⟨hdenotes, hbits⟩
    · rintro ⟨hdenotes, hbits⟩
      refine ⟨⟨⟨fun hminus => ?_, hdenotes⟩, by omega⟩, hbits⟩
      have := hdenotes.nonpos_of_minus hminus
      omega
  rw [← hread]
  simp only [widthOfParams]
  split
  next b hb => simp [hb]
  next hnone => simp [hnone]

/-- The width that a rule is compiled with is the one it has. -/
private theorem hasWidth_iff {width bits : Nat} {text : String} (hname : r.name = family signed ++ text)
    (hwidth : widthOfSuffix text = .ok width) (hbits : widthOfParams width r.params = .ok bits) (k : Nat) :
    r.HasWidth signed k ↔ k = bits := by
  have hsuffix : suffix signed r.name = text := by rw [hname, suffix_append]
  constructor
  · intro h
    cases h with
    | plain name params =>
      have htext : text = "" := by rw [← hsuffix, name, suffix_family]
      subst htext
      rw [params] at hbits
      cases hwidth
      exact Except.ok.inj hbits
    | suffix usual name params =>
      have htext : text = natText k := by rw [← hsuffix, name, suffix_append]
      rw [htext, widthOfSuffix_natText usual] at hwidth
      rw [params, ← Except.ok.inj hwidth] at hbits
      exact Except.ok.inj hbits
    | param params denotes possible =>
      rw [params, widthOfParams_literal] at hbits
      exact Int.ofNat.inj (denotes.unique hbits.1)
  · rintro rfl
    cases hparams : r.params with
    | nil =>
      rw [hparams] at hbits
      obtain rfl : width = k := Except.ok.inj hbits
      obtain ⟨rfl, rfl⟩ | ⟨husual, rfl⟩ := of_widthOfSuffix hwidth
      · exact .plain (by rw [hname, String.append_empty]) hparams
      · exact .suffix husual hname hparams
    | cons p ps =>
      rw [hparams] at hbits
      cases ps with
      | cons => cases p <;> cases hbits
      | nil =>
        cases p with
        | blank | rule => cases hbits
        | literal t =>
          obtain ⟨hdenotes, hpossible⟩ := widthOfParams_literal.1 hbits
          exact .param hparams hdenotes hpossible

/-! ### Bounds and values -/

private theorem readEnd_admits {bits : Nat} {bound : Option String} {a? : Option Int}
    (h : Bounds.readEnd (readLiteral signed bits) bound = .ok a?) (P : Int → Prop) :
    (∀ t ∈ bound, ∃ a, Text.Denotes t.toList a ∧ P a) ↔ ∀ a ∈ a?, P a := by
  rcases Bounds.readEnd_cases h with ⟨rfl, rfl⟩ | ⟨t, a, rfl, rfl, ha⟩
  · simp
  · have hdenotes := denotes_of_readInteger? (readLiteral_eq_ok_iff.1 ha).1
    simp only [Option.mem_def, Option.some.injEq, forall_eq']
    constructor
    · rintro ⟨b, hb, hP⟩
      rwa [hdenotes.unique hb]
    · intro hP
      exact ⟨a, hdenotes, hP⟩

private theorem above_iff {b : Bounds Int} {n : Int} :
    b.above n = true ↔ ∀ lo ∈ b.min, if b.exclusiveMin then lo < n else lo ≤ n := by
  unfold Bounds.above
  cases b.min with
  | none => simp
  | some lo => cases b.exclusiveMin <;> simp [Quantity.lt, Quantity.le]

private theorem below_iff {b : Bounds Int} {n : Int} :
    b.below n = true ↔ ∀ hi ∈ b.max, if b.exclusiveMax then n < hi else n ≤ hi := by
  unfold Bounds.below
  cases b.max with
  | none => simp
  | some hi => cases b.exclusiveMax <;> simp [Quantity.lt, Quantity.le]

/-- The bounds that a range is read as hold what it admits. -/
private theorem contains_iff {bits : Nat} {range? : Option Range} {b : Bounds Int}
    (h : Bounds.ofRange? (readLiteral signed bits) range? = .ok b) (n : Int) :
    b.contains n = true ↔ ∀ range ∈ range?, range.AdmitsInt n := by
  rw [Bounds.contains, Bool.and_eq_true, above_iff, below_iff]
  cases range? with
  | none =>
    obtain rfl : {} = b := Except.ok.inj h
    simp
  | some range =>
    obtain ⟨hmin, hmax, -, hexclusiveMin, hexclusiveMax⟩ := Bounds.ofRange?_some_eq_ok.1 h
    have hends : range.AdmitsInt n ↔ (∀ lo ∈ b.min, if b.exclusiveMin then lo < n else lo ≤ n) ∧
        ∀ hi ∈ b.max, if b.exclusiveMax then n < hi else n ≤ hi := by
      rw [Range.AdmitsInt, hexclusiveMin, hexclusiveMax, readEnd_admits hmin, readEnd_admits hmax]
    simp [hends]

private theorem stepText?_eq_some_iff {value text : String} : stepText? value = some text ↔ value = "%" ++ text := by
  constructor
  · intro h
    unfold stepText? at h
    split at h
    next rest hvalue =>
      rw [← Option.some.inj h, ← String.toList_inj, hvalue]
      simp
    next => cases h
  · rintro rfl
    exact stepText?_percent text

/-- What a rule is made of when it can be given a meaning: its one value is a step, or all its values are read. -/
theorem ofRule?_eq_ok (h : ofRule? signed r = .ok c) :
    c.signed = signed ∧
      (∃ width, widthOfSuffix (suffix signed r.name) = .ok width ∧ widthOfParams width r.params = .ok c.bits) ∧
      Bounds.ofRange? (readLiteral signed c.bits) r.range = .ok c.bounds ∧
      ((∃ text step, r.computedValues = ["%" ++ text] ∧ readStep text = .ok step ∧ c.step? = some step ∧
          c.listed = []) ∨
        (c.step? = none ∧ r.computedValues.mapM (readLiteral signed c.bits) = .ok c.listed)) := by
  obtain ⟨_, -, h⟩ := bind_eq_ok.1 h
  obtain ⟨width, hwidth, h⟩ := bind_eq_ok.1 h
  obtain ⟨bits, hbits, h⟩ := bind_eq_ok.1 h
  obtain ⟨bounds, hbounds, h⟩ := bind_eq_ok.1 h
  split at h
  next value hvalues =>
    split at h
    next text htext =>
      obtain ⟨step, hstep, h⟩ := bind_eq_ok.1 h
      cases h
      rw [stepText?_eq_some_iff.1 htext] at hvalues
      exact ⟨rfl, ⟨width, hwidth, hbits⟩, hbounds,
        .inl ⟨text, step, hvalues, hstep, rfl, rfl⟩⟩
    next =>
      obtain ⟨n, hn, h⟩ := bind_eq_ok.1 h
      cases h
      refine ⟨rfl, ⟨width, hwidth, hbits⟩, hbounds, .inr ⟨rfl, ?_⟩⟩
      rw [hvalues, List.mapM_cons, hn]
      rfl
  next =>
    obtain ⟨listed, hlisted, h⟩ := bind_eq_ok.1 h
    cases h
    exact ⟨rfl, ⟨width, hwidth, hbits⟩, hbounds, .inr ⟨rfl, hlisted⟩⟩

private theorem not_denotes_percent {text : String} {n : Int} : ¬Text.Denotes ("%" ++ text).toList n := by
  rw [String.toList_append]
  intro h
  cases h with
  | unsigned hdigits => exact hdigits.ne_cons rfl rfl

/-- The list and the step of a check are what the values of its rule say. -/
private theorem values_mean (h : ofRule? signed r = .ok c) (hgroups : ∀ group ∈ r.values, group ≠ []) :
    (r.Lists ∧ c.listed ≠ [] ∧ ∀ n, n ∈ c.listed ↔ r.ListsInt n) ∨
      (¬r.Lists ∧ c.listed = [] ∧ ∀ n, (∀ step ∈ c.step?, step ∣ n) ↔ r.StepsTo n) := by
  obtain ⟨-, -, -, ⟨text, step, hvalues, hread, hstep, hlisted⟩ | ⟨hstep, hlisted⟩⟩ := ofRule?_eq_ok h
  · have hspells (t : String) : r.Spells t ↔ t = "%" ++ text := by
      rw [← Rule.mem_computedValues_iff, hvalues, List.mem_singleton]
    have hdenotes := denotes_of_readInteger? (readStep_eq_ok_iff.1 hread).1
    refine .inr ⟨fun hlists => hlists.2 text ((hspells _).2 rfl), hlisted, fun n => ?_⟩
    rw [hstep]
    simp only [Option.mem_def, Option.some.injEq, forall_eq', Rule.StepsTo, hspells,
      String.append_right_inj, forall_eq]
    constructor
    · intro hdvd
      exact ⟨step, hdenotes, hdvd⟩
    · rintro ⟨step', hstep', hdvd⟩
      rwa [hdenotes.unique hstep']
  · have hread (t : String) (ht : r.Spells t) : ∃ n ∈ c.listed, Text.Denotes t.toList n := by
      obtain ⟨n, hn, hread⟩ := exists_of_mapM_eq_ok hlisted t (Rule.mem_computedValues_iff.2 ht)
      exact ⟨n, hn, denotes_of_readInteger? (readLiteral_eq_ok_iff.1 hread).1⟩
    have hpercent (t : String) : ¬r.Spells ("%" ++ t) := by
      intro ht
      obtain ⟨n, -, hdenotes⟩ := hread _ ht
      exact not_denotes_percent hdenotes
    by_cases hvalues : r.values = []
    · have hspells (t : String) : ¬r.Spells t := fun ht => ht.1 hvalues
      have hempty : c.listed = [] := by
        rw [Rule.computedValues, hvalues] at hlisted
        exact (Except.ok.inj hlisted).symm
      refine .inr ⟨fun hlists => hlists.1 hvalues, hempty, fun n => ?_⟩
      simp [hstep, Rule.StepsTo, hspells]
    · refine .inl ⟨⟨hvalues, hpercent⟩, ?_, fun n => ?_⟩
      · obtain ⟨t, ht⟩ := List.exists_mem_of_ne_nil _ (Rule.computedValues_ne_nil hgroups hvalues)
        obtain ⟨n, hn, -⟩ := hread t (Rule.mem_computedValues_iff.1 ht)
        exact List.ne_nil_of_mem hn
      · constructor
        · intro hn
          obtain ⟨t, ht, hread⟩ := mapM_eq_ok hlisted n hn
          exact ⟨t, Rule.mem_computedValues_iff.1 ht, denotes_of_readInteger? (readLiteral_eq_ok_iff.1 hread).1⟩
        · rintro ⟨t, ht, hdenotes⟩
          obtain ⟨m, hm, hdenotes'⟩ := hread t ht
          rwa [hdenotes.unique hdenotes']

/-! ### Judging integers -/

/-- The width as bounds. -/
private theorem contains_limits {bits : Nat} {n : Int} :
    ({ min := some (limits signed bits).1, max := some (limits signed bits).2 } : Bounds Int).contains n = true ↔
      Width.Fits signed bits n := by
  rw [Bounds.contains, Bool.and_eq_true, above_iff, below_iff, fits_iff]
  simp

theorem checkInteger_of_listed (hlisted : c.listed ≠ []) (n : Int) :
    c.checkInteger n = if n ∈ c.listed then none
      else some (.notListed c.targetName (c.listed.map Quantity.text) (Quantity.text n)) := by
  rw [checkInteger, if_pos hlisted]

/-- Without a list, an integer outside of the width or the bounds is out of range. -/
theorem checkInteger_of_outside (hlisted : c.listed = []) {n : Int}
    (h : ¬(Width.Fits c.signed c.bits n ∧ c.bounds.contains n = true)) :
    ∃ o, c.checkInteger n = some (.outOfRange o) := by
  rw [checkInteger, if_neg (not_not_intro hlisted)]
  by_cases hfits : Width.Fits c.signed c.bits n
  · have hbounds : c.bounds.contains n ≠ true := fun hcontains => h ⟨hfits, hcontains⟩
    rw [← contains_limits] at hfits
    simp [Bounds.check, hfits, hbounds]
  · rw [← contains_limits] at hfits
    simp [Bounds.check, hfits]

/-- Without a list, an integer within the width and the bounds is judged by the step. -/
private theorem checkInteger_of_inside (hlisted : c.listed = []) {n : Int} (hfits : Width.Fits c.signed c.bits n)
    (hbounds : c.bounds.contains n = true) :
    c.checkInteger n = match c.step? with
      | some step => if step ∣ n then none
        else some (.notMultiple c.targetName (Quantity.text step) (Quantity.text n))
      | none => none := by
  rw [checkInteger, if_neg (not_not_intro hlisted)]
  rw [← contains_limits] at hfits
  simp only [Bounds.check, hfits, hbounds, if_true, Int.dvd_iff_emod_eq_zero]
  rfl

/-- The check that a rule is given passes what the rule admits, and refuses everything else for its reason. -/
theorem checkInteger_judges (h : ofRule? signed r = .ok c) (hname : ∃ text, r.name = family signed ++ text)
    (hgroups : ∀ group ∈ r.values, group ≠ []) (n : Int) :
    (r.AdmitsInt signed n ∧ c.checkInteger n = none) ∨
      ∃ cause, c.checkInteger n = some cause ∧ r.RefusesInt signed n cause.code := by
  obtain ⟨rfl, ⟨width, hwidth, hbits⟩, hrange, -⟩ := ofRule?_eq_ok h
  obtain ⟨text, hname⟩ := hname
  have hbounds : r.BoundsInt c.signed n ↔ Width.Fits c.signed c.bits n ∧ c.bounds.contains n = true := by
    have htext : suffix c.signed r.name = text := by rw [hname, suffix_append]
    rw [htext] at hwidth
    simp only [Rule.BoundsInt, hasWidth_iff hname hwidth hbits, exists_eq_left, contains_iff hrange]
  obtain ⟨hlists, hlisted, hmem⟩ | ⟨hlists, hlisted, hsteps⟩ := values_mean h hgroups
  · rw [checkInteger_of_listed hlisted]
    by_cases hn : n ∈ c.listed
    · exact .inl ⟨.inl ⟨hlists, (hmem n).1 hn⟩, if_pos hn⟩
    · exact .inr ⟨_, if_neg hn, .notListed hlists fun hlists => hn ((hmem n).2 hlists)⟩
  · by_cases hinside : r.BoundsInt c.signed n
    · obtain ⟨hfits, hcontains⟩ := hbounds.1 hinside
      have hsteps := hsteps n
      rw [checkInteger_of_inside hlisted hfits hcontains]
      cases hstep : c.step? with
      | none => exact .inl ⟨.inr ⟨hlists, hinside, hsteps.1 (by simp [hstep])⟩, rfl⟩
      | some step =>
        rw [hstep] at hsteps
        by_cases hdvd : step ∣ n
        · exact .inl ⟨.inr ⟨hlists, hinside, hsteps.1 (by simpa using hdvd)⟩, if_pos hdvd⟩
        · have hbetween : ¬r.StepsTo n := fun hn => hdvd (hsteps.2 hn step rfl)
          exact .inr ⟨_, if_neg hdvd, .notMultiple hlists hinside hbetween⟩
    · obtain ⟨o, ho⟩ := checkInteger_of_outside hlisted fun hboth => hinside (hbounds.2 hboth)
      exact .inr ⟨_, ho, .outOfRange hlists hinside⟩

end IntegerCheck

namespace Rule

variable {signed : Bool} {r : Rule} {n : Int} {code : String}

private theorem RefusesInt.not_admits (h : r.RefusesInt signed n code) : ¬r.AdmitsInt signed n := by
  rintro (⟨hlists, hlisted⟩ | ⟨hlists, hinside, hsteps⟩)
  · cases h with
    | notListed _ missing => exact missing hlisted
    | outOfRange unlisted => exact unlisted hlists
    | notMultiple unlisted => exact unlisted hlists
  · cases h with
    | notListed lists => exact hlists lists
    | outOfRange _ outside => exact outside hinside
    | notMultiple _ _ between => exact between hsteps

private theorem RefusesInt.unique {code' : String} (h : r.RefusesInt signed n code)
    (h' : r.RefusesInt signed n code') : code = code' := by
  cases h with
  | notListed lists =>
    cases h' with
    | notListed => rfl
    | outOfRange unlisted => exact absurd lists unlisted
    | notMultiple unlisted => exact absurd lists unlisted
  | outOfRange unlisted outside =>
    cases h' with
    | notListed lists => exact absurd lists unlisted
    | outOfRange => rfl
    | notMultiple _ inside => exact absurd inside outside
  | notMultiple unlisted inside =>
    cases h' with
    | notListed lists => exact absurd lists unlisted
    | outOfRange _ outside => exact absurd inside outside
    | notMultiple => rfl

theorem RefusesValue.not_admits {x : Value} (h : r.RefusesValue signed x code) (hn : x.DenotesInt n) :
    ¬r.AdmitsInt signed n := by
  cases h with
  | unsupported none => exact absurd hn (none n)
  | integer denotes refuses =>
    rw [hn.unique denotes]
    exact refuses.not_admits

theorem RefusesValue.unique {x : Value} {code' : String} (h : r.RefusesValue signed x code)
    (h' : r.RefusesValue signed x code') : code = code' := by
  cases h with
  | unsupported none =>
    cases h' with
    | unsupported => rfl
    | integer denotes => exact absurd denotes (none _)
  | integer denotes refuses =>
    cases h' with
    | unsupported none => exact absurd denotes (none _)
    | integer denotes' refuses' =>
      obtain rfl := denotes.unique denotes'
      exact refuses.unique refuses'

end Rule

namespace IntegerCheck

variable {signed : Bool} {r : Rule} {c : IntegerCheck}

/-- Values that denote the same integer are judged alike. -/
theorem check_of_denotes {x : Value} {n : Int} (hx : x.DenotesInt n) : c.check x = c.checkInteger n := by
  rw [check, denoted?_eq_some_iff.2 hx]

/-- The check that a rule is given passes the values of what the rule admits, and refuses all others for its
reason. -/
theorem check_judges (h : ofRule? signed r = .ok c) (hname : ∃ text, r.name = family signed ++ text)
    (hgroups : ∀ group ∈ r.values, group ≠ []) (x : Value) :
    ((∃ n, x.DenotesInt n ∧ r.AdmitsInt signed n) ∧ c.check x = none) ∨
      ∃ cause, c.check x = some cause ∧ r.RefusesValue signed x cause.code := by
  by_cases hx : ∃ n, x.DenotesInt n
  · obtain ⟨n, hn⟩ := hx
    rw [check_of_denotes hn]
    obtain ⟨hadmits, hcheck⟩ | ⟨cause, hcheck, hrefuses⟩ := checkInteger_judges h hname hgroups n
    · exact .inl ⟨⟨n, hn, hadmits⟩, hcheck⟩
    · exact .inr ⟨cause, hcheck, .integer hn hrefuses⟩
  · have hnone (n : Int) : ¬x.DenotesInt n := fun hn => hx ⟨n, hn⟩
    have hdenoted : denoted? x = none := Option.eq_none_iff_forall_not_mem.2 fun n hn =>
      hnone n (denoted?_eq_some_iff.1 hn)
    refine .inr ⟨.unsupported c.text x.kindName, ?_, .unsupported hnone⟩
    rw [check, hdenoted]

end IntegerCheck

end FieldRules
