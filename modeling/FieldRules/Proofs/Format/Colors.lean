import FieldRules.Proofs.Format.Patterns
import FieldRules.Proofs.Text.Denotation

/-!
# Colours

The patterns of the colour formats take decimal digits of any script where they take any digit at all. Read with ASCII
digits in their place, whatever these are, a text that passes is a colour with real components, and apart from such
digits it has no characters but those of a colour (`Format.builtin_color_passes`).
-/

namespace FieldRules

open FieldRules.Unicode (CharSet)
open FieldRules.Regex

namespace Format

/-! ### What a colour looks like -/

/-- Whether a text is a number up to 255, without leading zeros. -/
def IsByte (cs : List Char) : Prop :=
  ∃ n ≤ 255, cs = Text.digits n

/-- Whether a text is a percentage up to 100, without leading zeros. -/
def IsPercentage (cs : List Char) : Prop :=
  ∃ n ≤ 100, cs = Text.digits n ++ ['%']

/-- Whether a text is a decimal number between zero and one: ASCII digits, and a point in front of the last ones if it
has a fraction. -/
def IsOpacity (cs : List Char) : Prop :=
  ∃ whole fraction, cs = whole ++ (if fraction = [] then [] else '.' :: fraction) ∧
    Text.IsNumeral (whole ++ fraction) ∧ Text.positional (whole ++ fraction) ≤ 10 ^ fraction.length

/-- Whether a text is of some kind up to blanks around it. -/
def IsPadded (kind : List Char → Prop) (cs : List Char) : Prop :=
  ∃ front middle back, cs = front ++ (middle ++ back) ∧ kind middle ∧ Text.allBlank front = true ∧
    Text.allBlank back = true

/-- The word that a colour begins with, for one with an opacity or without. -/
def colorName (opacity : Bool) : String :=
  if opacity then "rgba" else "rgb"

/-- Whether a text is a colour: its name and, in parentheses and between commas, three components of one kind and the
opacity, if there is one. -/
def IsColor (opacity : Bool) (cs : List Char) : Prop :=
  ∃ components alphas, components.length = 3 ∧ alphas.length = opacity.toNat ∧
    cs = (colorName opacity).toList ++ '(' :: ([','].intercalate (components ++ alphas) ++ [')']) ∧
    ((∀ part ∈ components, IsPadded IsByte part) ∨ ∀ part ∈ components, IsPadded IsPercentage part) ∧
    ∀ part ∈ alphas, IsPadded IsOpacity part

/-! ### What the patterns are made of -/

/-- The digits of ASCII. -/
def asciiDigit : CharSet :=
  .interval '0' '9'

/-- A number up to 99 that is not zero. -/
def tensItem (digit : CharSet) : Regex :=
  concat [.oneOf (.interval '1' '9'), maybe digit]

/-- A component as a byte. -/
def byteItems (digit : CharSet) : List Regex :=
  [.group false (.choice (char '0') [tensItem digit, concat [char '1', .oneOf digit, .oneOf digit],
    concat [char '2', .oneOf (.interval '0' '4'), .oneOf digit],
    concat [char '2', char '5', .oneOf (.interval '0' '5')]])]

/-- A component as a percentage. -/
def percentItems (digit : CharSet) : List Regex :=
  [.group false (.choice (char '0') [tensItem digit, concat ("100".toList.map char)]), char '%']

/-- The opacity. -/
def opacityItems (digit : CharSet) : List Regex :=
  [.group false (.choice (char '0') [char '1', concat [maybe (.single '0'), char '.', run 1 digit]])]

/-- A comma between blanks. -/
def commaItems : List Regex :=
  [blanks, char ',', blanks]

/-- Three components between commas. -/
def tripleItems (component : List Regex) : List Regex :=
  component ++ (commaItems ++ (component ++ (commaItems ++ component)))

/-- What the pattern for colours is made of. -/
def colorItems (digit : CharSet) (opacity : Bool) : List Regex :=
  (colorName opacity).toList.map char ++ char '(' :: blanks ::
    .group false (.alt (concat (tripleItems (byteItems digit))) (concat (tripleItems (percentItems digit)))) ::
      ((if opacity then commaItems ++ opacityItems digit else []) ++ [blanks, char ')'])

/-- The pattern for colours. -/
def colorSource (opacity : Bool) : String :=
  if opacity then rgbaColorSource else rgbColorSource

private theorem parse?_colorSource (opacity : Bool) :
    Regex.parse? (colorSource opacity).toList = some (whole (colorItems .digit opacity)) := by
  -- The characters are listed first: decoding a long text is what would take the time.
  cases opacity <;>
    simp only [colorSource, rgbColorSource, rgbaColorSource, colorBody, colorTriple, colorByte,
      colorPercent, colorAlpha, String.toList_append, String.reduceToList, if_true, Bool.false_eq_true, if_false] <;>
    decide +kernel

private theorem isPlain_colorItems (opacity : Bool) : (concat (colorItems .digit opacity)).isPlain = true := by
  cases opacity <;> rfl

variable {w : List Char}

/-! ### Components -/

private theorem contains_asciiDigit {c : Char} : asciiDigit.contains c = true ↔ c.isDigit = true :=
  CharSet.contains_interval.trans Char.isDigit_iff_toNat.symm

private theorem isDigit_of_interval {lo hi c : Char} (hlo : '0'.toNat ≤ lo.toNat) (hhi : hi.toNat ≤ '9'.toNat)
    (h : lo.toNat ≤ c.toNat ∧ c.toNat ≤ hi.toNat) : c.isDigit = true :=
  Char.isDigit_iff_toNat.2 ⟨hlo.trans h.1, h.2.trans hhi⟩

private theorem exists_digits_eq {c : Char} {cs : List Char} {max : Nat} (h : ∀ d ∈ c :: cs, d.isDigit = true)
    (hzero : c ≠ '0') (hmax : Text.positional (c :: cs) ≤ max) : ∃ n ≤ max, c :: cs = Text.digits n :=
  ⟨_, hmax, (Text.digits_positional h hzero).1.symm⟩

private theorem isByte_three {a b c : Char} (ha : a.isDigit = true) (hb : b.isDigit = true) (hc : c.isDigit = true)
    (hzero : a ≠ '0') (hmax : 100 * (a.toNat - 48) + 10 * (b.toNat - 48) + (c.toNat - 48) ≤ 255) :
    IsByte [a, b, c] := by
  have hvalue : Text.positional [a, b, c] = 100 * (a.toNat - 48) + 10 * (b.toNat - 48) + (c.toNat - 48) := by
    simp [Text.positional, Nat.ofDigitChars_cons]
    omega
  exact exists_digits_eq (by simp [ha, hb, hc]) hzero (hvalue.trans_le hmax)

private theorem digits_of_mem_tensItem (h : w ∈ (tensItem asciiDigit).language) : ∃ n ≤ 99, w = Text.digits n := by
  simp only [tensItem, mem_language_concat_cons, mem_language_concat_nil, mem_language_oneOf, mem_language_maybe,
    contains_asciiDigit, CharSet.contains_interval] at h
  obtain ⟨_, ⟨c, hc, rfl⟩, _, ⟨rest, hrest, _, rfl, rfl⟩, rfl⟩ := h
  have hzero : c ≠ '0' := fun h => absurd hc.1 (h ▸ by decide)
  have hdigit := isDigit_of_interval (by decide) (by decide) hc
  have hdigits : (∀ d ∈ c :: rest, d.isDigit = true) ∧ (c :: rest).length ≤ 2 := by
    rcases hrest with rfl | ⟨d, hd, rfl⟩ <;> simp [*]
  have hlt : Text.positional (c :: rest) < 10 ^ 2 :=
    (Text.positional_lt hdigits.1).trans_le (Nat.pow_le_pow_right (by decide) hdigits.2)
  rw [List.append_nil]
  exact exists_digits_eq hdigits.1 hzero (Nat.le_of_lt_succ hlt)

private theorem isByte_of_mem (h : w ∈ (concat (byteItems asciiDigit)).language) : IsByte w := by
  simp only [byteItems, mem_language_concat_cons, mem_language_concat_nil, mem_language_group, choice,
    mem_language_alt, mem_language_char, mem_language_oneOf, CharSet.contains_interval, contains_asciiDigit] at h
  obtain ⟨_, h, _, rfl, rfl⟩ := h
  rw [List.append_nil]
  rcases h with rfl | h | h | h | h
  · exact ⟨0, by decide, rfl⟩
  · obtain ⟨n, hn, rfl⟩ := digits_of_mem_tensItem h
    exact ⟨n, hn.trans (by decide), rfl⟩
  · obtain ⟨_, rfl, _, ⟨_, ⟨b, hb, rfl⟩, _, ⟨_, ⟨c, hc, rfl⟩, _, rfl, rfl⟩, rfl⟩, rfl⟩ := h
    have hb' : b.toNat ≤ 57 := (Char.isDigit_iff_toNat.1 hb).2
    have hc' : c.toNat ≤ 57 := (Char.isDigit_iff_toNat.1 hc).2
    exact isByte_three (by decide) hb hc (by decide) (by simp; omega)
  · obtain ⟨_, rfl, _, ⟨_, ⟨b, hb, rfl⟩, _, ⟨_, ⟨c, hc, rfl⟩, _, rfl, rfl⟩, rfl⟩, rfl⟩ := h
    have hb' : b.toNat ≤ 52 := hb.2
    have hc' : c.toNat ≤ 57 := (Char.isDigit_iff_toNat.1 hc).2
    exact isByte_three (by decide) (isDigit_of_interval (by decide) (by decide) hb) hc (by decide) (by simp; omega)
  · obtain ⟨_, rfl, _, ⟨_, rfl, _, ⟨_, ⟨c, hc, rfl⟩, _, rfl, rfl⟩, rfl⟩, rfl⟩ := h
    have hc' : c.toNat ≤ 53 := hc.2
    exact isByte_three (by decide) (by decide) (isDigit_of_interval (by decide) (by decide) hc) (by decide)
      (by simp; omega)

private theorem isPercentage_of_mem (h : w ∈ (concat (percentItems asciiDigit)).language) : IsPercentage w := by
  simp only [percentItems, mem_language_concat_cons, mem_language_concat_nil, mem_language_group, choice,
    mem_language_alt, mem_language_char, mem_language_concat_chars] at h
  obtain ⟨_, h, _, ⟨_, rfl, _, rfl, rfl⟩, rfl⟩ := h
  rcases h with rfl | h | rfl
  · exact ⟨0, by decide, rfl⟩
  · obtain ⟨n, hn, rfl⟩ := digits_of_mem_tensItem h
    exact ⟨n, hn.trans (by decide), rfl⟩
  · exact ⟨100, by decide, rfl⟩

private theorem isOpacity_of_mem (h : w ∈ (concat (opacityItems asciiDigit)).language) : IsOpacity w := by
  simp only [opacityItems, mem_language_concat_cons, mem_language_concat_nil, mem_language_group, choice,
    mem_language_alt, mem_language_char, mem_language_maybe, mem_language_run, contains_asciiDigit] at h
  obtain ⟨_, h, _, rfl, rfl⟩ := h
  rw [List.append_nil]
  rcases h with rfl | rfl | ⟨front, hfront, _, ⟨_, rfl, _, ⟨fraction, ⟨hlength, hdigits⟩, _, rfl, rfl⟩, rfl⟩, rfl⟩
  · exact ⟨['0'], [], rfl, ⟨by simp, by simp⟩, by decide⟩
  · exact ⟨['1'], [], rfl, ⟨by simp, by simp⟩, by decide⟩
  · have hne : fraction ≠ [] := List.ne_nil_of_length_pos hlength
    have hlt := Text.positional_lt hdigits
    have hfront : (∀ c ∈ front, c.isDigit = true) ∧ Text.positional (front ++ fraction) =
        Text.positional fraction := by
      rcases hfront with rfl | ⟨c, hc, rfl⟩
      · simp
      · rw [CharSet.contains_single, beq_iff_eq] at hc
        subst hc
        exact ⟨by simp, Nat.ofDigitChars_cons⟩
    refine ⟨front, fraction, by simp [hne], ⟨by simp [hne], ?_⟩, hfront.2.trans_le hlt.le⟩
    exact List.forall_mem_append.2 ⟨hfront.1, hdigits⟩

/-! ### The whole pattern -/

private theorem of_mem_commaItems (h : w ∈ (concat commaItems).language) :
    ∃ front back, Text.allBlank front = true ∧ Text.allBlank back = true ∧ w = front ++ ',' :: back := by
  simp only [commaItems, mem_language_concat_cons, mem_language_concat_nil, mem_language_blanks,
    mem_language_char] at h
  obtain ⟨front, hfront, _, ⟨_, rfl, _, ⟨back, hback, _, rfl, rfl⟩, rfl⟩, rfl⟩ := h
  exact ⟨front, back, hfront, hback, by simp⟩

/-- Three components with blanks around them are padded parts between commas. -/
private theorem of_mem_tripleItems {kind : List Char → Prop} {component : List Regex} {front back : List Char}
    (hkind : ∀ v ∈ (concat component).language, kind v) (h : w ∈ (concat (tripleItems component)).language)
    (hfront : Text.allBlank front = true) (hback : Text.allBlank back = true) :
    ∃ a b c, front ++ (w ++ back) = [','].intercalate [a, b, c] ∧ ∀ part ∈ [a, b, c], IsPadded kind part := by
  simp only [tripleItems, mem_language_concat_append] at h
  obtain ⟨x, hx, _, ⟨_, hcomma, _, ⟨y, hy, _, ⟨_, hcomma', z, hz, rfl⟩, rfl⟩, rfl⟩, rfl⟩ := h
  obtain ⟨r, s, hr, hs, rfl⟩ := of_mem_commaItems hcomma
  obtain ⟨t, u, ht, hu, rfl⟩ := of_mem_commaItems hcomma'
  refine ⟨front ++ (x ++ r), s ++ (y ++ t), u ++ (z ++ back), by simp [List.intercalate], ?_⟩
  simp only [List.forall_mem_cons]
  exact ⟨⟨_, _, _, rfl, hkind x hx, hfront, hr⟩, ⟨_, _, _, rfl, hkind y hy, hs, ht⟩,
    ⟨_, _, _, rfl, hkind z hz, hu, hback⟩, List.forall_mem_nil _⟩

private theorem isColor_of_mem {opacity : Bool} (h : w ∈ (concat (colorItems asciiDigit opacity)).language) :
    IsColor opacity w := by
  simp only [colorItems, mem_language_concat_append, mem_language_concat_chars, mem_language_concat_cons,
    mem_language_char, mem_language_blanks, mem_language_group, mem_language_concat_nil] at h
  obtain ⟨_, rfl, _, ⟨_, rfl, _, ⟨front, hfront, _, ⟨triple, htriple, _, ⟨tail, htail, _, ⟨back, hback, _,
    ⟨_, rfl, _, rfl, rfl⟩, rfl⟩, rfl⟩, rfl⟩, rfl⟩, rfl⟩, rfl⟩ := h
  have hparts (back : List Char) (hback : Text.allBlank back = true) :
      ∃ a b c, front ++ (triple ++ back) = [','].intercalate [a, b, c] ∧
        ((∀ part ∈ [a, b, c], IsPadded IsByte part) ∨ ∀ part ∈ [a, b, c], IsPadded IsPercentage part) := by
    rcases htriple with htriple | htriple
    · obtain ⟨a, b, c, heq, hall⟩ := of_mem_tripleItems (fun _ => isByte_of_mem) htriple hfront hback
      exact ⟨a, b, c, heq, .inl hall⟩
    · obtain ⟨a, b, c, heq, hall⟩ := of_mem_tripleItems (fun _ => isPercentage_of_mem) htriple hfront hback
      exact ⟨a, b, c, heq, .inr hall⟩
  cases opacity with
  | false =>
    obtain rfl := mem_language_concat_nil.1 htail
    obtain ⟨a, b, c, heq, hkind⟩ := hparts back hback
    refine ⟨[a, b, c], [], rfl, rfl, ?_, hkind, List.forall_mem_nil _⟩
    rw [show [a, b, c] ++ [] = [a, b, c] from rfl, ← heq]
    simp
  | true =>
    obtain ⟨_, hcomma, alpha, halpha, rfl⟩ := mem_language_concat_append.1 htail
    obtain ⟨r, s, hr, hs, rfl⟩ := of_mem_commaItems hcomma
    obtain ⟨a, b, c, heq, hkind⟩ := hparts r hr
    refine ⟨[a, b, c], [s ++ (alpha ++ back)], rfl, rfl, ?_, hkind, ?_⟩
    · have hjoin : [','].intercalate ([a, b, c] ++ [s ++ (alpha ++ back)]) =
          [','].intercalate [a, b, c] ++ ',' :: (s ++ (alpha ++ back)) := by simp [List.intercalate]
      rw [hjoin, ← heq]
      simp
    · simp only [List.forall_mem_singleton]
      exact ⟨_, _, _, rfl, isOpacity_of_mem halpha, hs, hback⟩

/-! ### Digits of other scripts -/

/-- A decimal digit that is none of ASCII. -/
def isForeignDigit (c : Char) : Bool :=
  CharSet.digit.contains c && !c.isDigit

/-- Whether characters are read as they are, but for digits of other scripts, each of which is read as a digit of
ASCII. -/
def ReadsDigits (read : Char → Char) : Prop :=
  ∀ c, if isForeignDigit c = true then (read c).isDigit = true else read c = c

/-- The characters of a colour: digits, points, percent signs, commas, parentheses, blanks and the letters of its
name. -/
def isColorChar (opacity : Bool) (c : Char) : Bool :=
  c.isDigit || ".%,()".toList.contains c || Text.isBlank c || (colorName opacity).toList.contains c

/-- The set of digits that a set stands for when digits are read. -/
def readSet (s : CharSet) : CharSet :=
  if s = .digit then asciiDigit else s

/-- Intervals around the characters of colours that are no digits: signs, letters and blanks. -/
def colorRanges : Unicode.Ranges :=
  ('!'.toNat, '/'.toNat) :: ('a'.toNat, 'z'.toNat) :: Unicode.Listed.blank

/-- The table of categories keeps the decimal digits apart from them. -/
private theorem contains_digit_of_colorRanges {c : Char} (h : colorRanges.contains c = true) :
    CharSet.digit.contains c = false := by
  have hapart : (Unicode.Category.runs.all fun run =>
      run.2.2 != .nd || colorRanges.all fun r => decide (r.2 < run.1) || decide (run.2.1 < r.1)) = true := by
    decide +kernel
  obtain ⟨⟨first, last⟩, hr, hin⟩ := List.any_eq_true.1 h
  rw [Bool.eq_false_iff]
  intro hdigit
  have hnd : Unicode.category c = .nd := by simpa [CharSet.digit, CharSet.contains] using hdigit
  obtain ⟨lo, hi, hrun, hlo, hhi⟩ := Unicode.exists_run_of_category hnd (by decide)
  have hout := List.all_eq_true.1 hapart _ hrun
  rw [bne_self_eq_false, Bool.false_or] at hout
  have hout := List.all_eq_true.1 hout _ hr
  simp only [Bool.and_eq_true, Bool.or_eq_true, decide_eq_true_eq] at hin hout
  omega

private theorem isForeignDigit_of_isColorChar {opacity : Bool} {c : Char} (h : isColorChar opacity c = true) :
    isForeignDigit c = false := by
  have hsigns : ".%,()".toList.all colorRanges.contains = true := by decide
  have hletters : (colorName opacity).toList.all colorRanges.contains = true := by cases opacity <;> decide
  have hranges (hc : colorRanges.contains c = true) : isForeignDigit c = false := by
    rw [isForeignDigit, contains_digit_of_colorRanges hc, Bool.false_and]
  simp only [isColorChar, Bool.or_eq_true, List.contains_iff_mem] at h
  rcases h with ((hdigit | hc) | hc) | hc
  · simp [isForeignDigit, hdigit]
  · exact hranges (List.all_eq_true.1 hsigns c hc)
  · have hblank := (CharSet.contains_blank c).trans hc
    exact hranges (Bool.or_eq_true_iff.2 (.inr (Bool.or_eq_true_iff.2 (.inr hblank))))
  · exact hranges (List.all_eq_true.1 hletters c hc)

private theorem sets_colorItems (opacity : Bool) : ∀ s ∈ (concat (colorItems .digit opacity)).sets,
    s = .digit ∨ s.allSatisfy (isColorChar opacity) = true := by
  have hall : (concat (colorItems .digit opacity)).sets.all
      (fun s => s == .digit || s.allSatisfy (isColorChar opacity)) = true := by cases opacity <;> rfl
  intro s hs
  simpa using List.all_eq_true.1 hall s hs

private theorem mapSets_colorItems (opacity : Bool) :
    (concat (colorItems .digit opacity)).mapSets readSet = concat (colorItems asciiDigit opacity) := by
  cases opacity <;> rfl

/-- Apart from digits of other scripts, what the pattern takes has the characters of a colour. -/
private theorem isColorChar_of_mem {opacity : Bool} (h : w ∈ (concat (colorItems .digit opacity)).language) :
    ∀ c ∈ w, isColorChar opacity c = true ∨ isForeignDigit c = true := by
  intro c hc
  obtain ⟨s, hs, hsc⟩ := exists_contains_of_mem h c hc
  rcases sets_colorItems opacity s hs with rfl | hall
  · cases hdigit : c.isDigit <;> simp [isColorChar, isForeignDigit, hsc, hdigit]
  · exact .inl (CharSet.holds_of_contains hall hsc)

/-- Read with digits of ASCII, what the pattern takes is a colour. -/
private theorem isColor_map_of_mem {opacity : Bool} {read : Char → Char} (hread : ReadsDigits read)
    (h : w ∈ (concat (colorItems .digit opacity)).language) : IsColor opacity (w.map read) := by
  have hsets : ∀ s ∈ (concat (colorItems .digit opacity)).sets, ∀ c, s.contains c = true →
      (readSet s).contains (read c) = true := by
    intro s hs c hsc
    have hc := hread c
    rcases sets_colorItems opacity s hs with rfl | hall
    · rw [readSet, if_pos rfl, contains_asciiDigit]
      split at hc
      · exact hc
      next hnone =>
        rw [hc]
        simpa [isForeignDigit, hsc] using hnone
    · have hne : s ≠ .digit := by
        rintro rfl
        cases hall
      have hnone := isForeignDigit_of_isColorChar (CharSet.holds_of_contains hall hsc)
      rw [if_neg (by simp [hnone])] at hc
      rwa [readSet, if_neg hne, hc]
  refine isColor_of_mem ?_
  rw [← mapSets_colorItems]
  exact map_mem_language h hsets

/-! ### The formats -/

/-- The names of the format for colours, with an opacity or without. -/
def colorNames (opacity : Bool) : List String :=
  if opacity then ["rgba-color", "rgbaColor"] else ["rgb-color", "rgbColor"]

/-- The format for colours, with an opacity or without. -/
def color (opacity : Bool) : Format :=
  .ofItems (colorNames opacity) (colorSource opacity) (colorItems .digit opacity) (parse?_colorSource opacity)

private theorem get?_builtin_color {opacity : Bool} {name : String} (h : name ∈ colorNames opacity) :
    Fields.get? Registry.builtin name = some (.format (color opacity)) := by
  refine Registry.get?_builtin_of_mem_names (List.mem_append_left _ ?_) h
  cases opacity with
  | false => exact .tail _ (.tail _ (.tail _ (.tail _ (.head _))))
  | true => exact .tail _ (.tail _ (.tail _ (.tail _ (.tail _ (.head _)))))

private theorem check_color_eq_none_iff {opacity : Bool} {v : Value} :
    (color opacity).check v = none ↔
      ∃ s, v = .string s ∧ (whole (colorItems .digit opacity)).isMatch s.toList = true := by
  rw [color, check_ofItems_eq_none_iff (isPlain_colorItems opacity)]
  simp only [isMatch_whole (isPlain_colorItems opacity)]

/-- Whatever the format found under a name for colours lets pass is a text that, read with digits of ASCII for those
of other scripts, is a colour with real components, and that has no characters but those of a colour and such
digits. -/
theorem builtin_color_passes {opacity : Bool} {name : String} {f : Format} {v : Value}
    (hname : name ∈ colorNames opacity) (hf : Fields.get? Registry.builtin name = some (.format f))
    (hv : f.check v = none) :
    ∃ s, v = .string s ∧ (∀ read, ReadsDigits read → IsColor opacity (s.toList.map read)) ∧
      (∀ c ∈ s.toList, isColorChar opacity c = true ∨ isForeignDigit c = true) ∧
      ((∀ c ∈ s.toList, isForeignDigit c = false) → IsColor opacity s.toList) := by
  rw [get?_builtin_color hname] at hf
  obtain rfl : color opacity = f := Creation.format.inj (Option.some.inj hf)
  obtain ⟨s, rfl, hmatch⟩ := check_color_eq_none_iff.1 hv
  have hs := (isMatch_whole (isPlain_colorItems opacity)).1 hmatch
  refine ⟨s, rfl, fun read hread => isColor_map_of_mem hread hs, isColorChar_of_mem hs, fun hnone => ?_⟩
  have hread : ReadsDigits fun c => if isForeignDigit c = true then '0' else c := by
    intro c
    by_cases hc : isForeignDigit c = true <;> simp [hc]
  have hsame : s.toList.map (fun c => if isForeignDigit c = true then '0' else c) = s.toList :=
    (List.map_congr_left fun c hc => by simp [hnone c hc]).trans (List.map_id _)
  exact hsame ▸ isColor_map_of_mem hread hs

set_option maxRecDepth 3000 in
/-- Percentages with blanks around them, and an opacity without its zero. -/
theorem builtin_color_passes_percentages :
    ∃ f, Fields.get? Registry.builtin "rgbaColor" = some (.format f) ∧
      f.check (.string "rgba( 25%,100% , 0%,.5)") = none ∧ IsColor true "rgba( 25%,100% , 0%,.5)".toList := by
  have hname : "rgbaColor" ∈ colorNames true := by decide
  have hcheck : (color true).check (.string "rgba( 25%,100% , 0%,.5)") = none :=
    check_color_eq_none_iff.2 ⟨_, rfl, by rfl⟩
  obtain ⟨_, ⟨⟩, -, -, hcolor⟩ := builtin_color_passes hname (get?_builtin_color hname) hcheck
  have hchars : "rgba( 25%,100% , 0%,.5)".toList.all (isColorChar true) = true := by decide
  exact ⟨_, get?_builtin_color hname, hcheck,
    hcolor fun c hc => isForeignDigit_of_isColorChar (List.all_eq_true.1 hchars c hc)⟩

set_option maxRecDepth 3000 in
/-- A text with a digit that is none of ASCII passes. -/
theorem builtin_color_passes_foreign :
    ∃ f, Fields.get? Registry.builtin "rgb-color" = some (.format f) ∧
      f.check (.string "rgb(1\u0662,0,0)") = none ∧ ∃ c ∈ "rgb(1\u0662,0,0)".toList, isColorChar false c = false :=
  ⟨color false, get?_builtin_color (by decide), check_color_eq_none_iff.2 ⟨_, rfl, by rfl⟩, '\u0662',
    by decide⟩

end Format

end FieldRules
