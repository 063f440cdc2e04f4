import FieldRules.Proofs.Regex.Matching
import Mathlib.Computability.Language

/-!
# The language of an expression

An expression without assertions spans the parts of a text that lie in its language (`Regex.spans_iff`), so one that
is held at both ends matches the texts of its language and no others (`Regex.isMatch_whole`). Every character of such
a text lies in a set of the expression (`Regex.exists_contains_of_mem`), and reading the characters as others leads
into the language of the expression with other sets (`Regex.map_mem_language`).
-/

open FieldRules.Unicode (CharSet)

namespace FieldRules.Regex

/-! ### Parts of a text -/

/-- Whether the part of a text between two places lies in a language. -/
def Between (text : List Char) (l : Language Char) (i j : Nat) : Prop :=
  ∃ w ∈ l, w <+: text.drop i ∧ j = i + w.length

variable {text w : List Char} {l m : Language Char} {i j n : Nat}

private theorem append_prefix_iff {u v xs : List Char} : u ++ v <+: xs ↔ u <+: xs ∧ v <+: xs.drop u.length := by
  constructor
  · rintro ⟨rest, rfl⟩
    rw [List.append_assoc, List.drop_left]
    exact ⟨List.prefix_append .., List.prefix_append ..⟩
  · rintro ⟨⟨rest, rfl⟩, hv⟩
    rw [List.drop_left] at hv
    exact (List.prefix_append_right_inj u).2 hv

private theorem between_one : Between text 1 i j ↔ i = j := by
  simp [Between, Language.mem_one, eq_comm]

private theorem between_mul : Between text (l * m) i j ↔ ∃ k, Between text l i k ∧ Between text m k j := by
  simp only [Between, Language.mem_mul]
  constructor
  · rintro ⟨_, ⟨u, hu, v, hv, rfl⟩, hprefix, rfl⟩
    obtain ⟨hu', hv'⟩ := append_prefix_iff.1 hprefix
    rw [List.drop_drop] at hv'
    exact ⟨_, ⟨u, hu, hu', rfl⟩, v, hv, hv', by rw [List.length_append, Nat.add_assoc]⟩
  · rintro ⟨_, ⟨u, hu, hu', rfl⟩, v, hv, hv', rfl⟩
    rw [← List.drop_drop] at hv'
    exact ⟨_, ⟨u, hu, v, hv, rfl⟩, append_prefix_iff.2 ⟨hu', hv'⟩, by rw [List.length_append, Nat.add_assoc]⟩

private theorem between_pow : Between text (l ^ n) i j ↔ Steps (Between text l) n i j := by
  induction n generalizing i with
  | zero => rw [pow_zero, between_one, Steps]
  | succ n ih => simp only [pow_succ', between_mul, ih, Steps]

/-- A text as a whole lies in a language when all of it does. -/
private theorem between_whole : Between text l 0 text.length ↔ text ∈ l := by
  constructor
  · rintro ⟨w, hw, hprefix, hlength⟩
    rw [List.drop_zero] at hprefix
    rw [Nat.zero_add] at hlength
    rwa [← hprefix.eq_of_length hlength.symm]
  · exact fun h => ⟨text, h, List.prefix_rfl, (Nat.zero_add _).symm⟩

/-! ### Languages -/

/-- Whether an expression is free of assertions. -/
def isPlain : Regex → Bool
  | .empty | .oneOf _ => true
  | .anchor _ => false
  | .seq a b | .alt a b => a.isPlain && b.isPlain
  | .group _ r | .repeated _ _ _ r => r.isPlain

/-- The texts that an expression takes, its assertions left out. -/
def language : Regex → Language Char
  | .empty | .anchor _ => 1
  | .oneOf s => {w | ∃ c, s.contains c = true ∧ w = [c]}
  | .seq a b => a.language * b.language
  | .alt a b => a.language + b.language
  | .group _ r => r.language
  | .repeated _ min max r => {w | ∃ more, (∀ m ∈ max, more ≤ m - min) ∧ w ∈ r.language ^ (min + more)}

variable {r : Regex} {rs : List Regex} {s : CharSet}

theorem mem_language_oneOf : w ∈ (oneOf s).language ↔ ∃ c, s.contains c = true ∧ w = [c] :=
  Iff.rfl

theorem mem_language_alt {a b : Regex} : w ∈ (alt a b).language ↔ w ∈ a.language ∨ w ∈ b.language :=
  Iff.rfl

theorem mem_language_group {captures : Bool} : w ∈ (group captures r).language ↔ w ∈ r.language :=
  Iff.rfl

private theorem mem_language_seq {a b : Regex} :
    w ∈ (seq a b).language ↔ ∃ u ∈ a.language, ∃ v ∈ b.language, u ++ v = w :=
  Language.mem_mul

private theorem mem_pow_oneOf : w ∈ (oneOf s).language ^ n ↔ w.length = n ∧ ∀ c ∈ w, s.contains c = true := by
  induction n generalizing w with
  | zero => simp +contextual [Language.mem_one, List.length_eq_zero_iff]
  | succ n ih =>
    rw [pow_succ', Language.mem_mul]
    simp only [mem_language_oneOf, ih]
    constructor
    · rintro ⟨_, ⟨c, hc, rfl⟩, v, ⟨rfl, hv⟩, rfl⟩
      exact ⟨rfl, List.forall_mem_cons.2 ⟨hc, hv⟩⟩
    · rintro ⟨hlength, hw⟩
      obtain ⟨c, v, rfl⟩ := List.exists_cons_of_length_eq_add_one hlength
      obtain ⟨hc, hv⟩ := List.forall_mem_cons.1 hw
      exact ⟨[c], ⟨c, hc, rfl⟩, v, ⟨Nat.succ.inj hlength, hv⟩, rfl⟩

/-- A repeated set takes the texts of so many characters that all lie in it. -/
theorem mem_language_repeated_oneOf {greedy : Bool} {min : Nat} {max : Option Nat} :
    w ∈ (repeated greedy min max (oneOf s)).language ↔
      min ≤ w.length ∧ (∀ m ∈ max, w.length - min ≤ m - min) ∧ ∀ c ∈ w, s.contains c = true := by
  change (∃ more, _ ∧ w ∈ (oneOf s).language ^ (min + more)) ↔ _
  simp only [mem_pow_oneOf]
  constructor
  · rintro ⟨more, hmore, hlength, hw⟩
    have hrest : w.length - min = more := by omega
    exact ⟨by omega, hrest ▸ hmore, hw⟩
  · rintro ⟨hmin, hmax, hw⟩
    exact ⟨w.length - min, hmax, by omega, hw⟩

/-! ### What expressions span -/

private theorem singleton_prefix_drop_iff {c : Char} : [c] <+: text.drop i ↔ text[i]? = some c := by
  rw [← List.head?_drop]
  cases text.drop i with
  | nil => simp
  | cons d ds => simp [List.cons_prefix_cons, eq_comm]

/-- An expression without assertions spans the parts of a text that lie in its language. -/
theorem spans_iff (h : r.isPlain = true) : Spans text r i j ↔ Between text r.language i j := by
  induction r generalizing i j with
  | empty => exact between_one.symm
  | oneOf s =>
    simp only [Spans, Between, mem_language_oneOf]
    constructor
    · rintro ⟨rfl, c, hc, hs⟩
      exact ⟨[c], ⟨c, hs, rfl⟩, singleton_prefix_drop_iff.2 hc, rfl⟩
    · rintro ⟨_, ⟨c, hs, rfl⟩, hprefix, rfl⟩
      exact ⟨rfl, c, singleton_prefix_drop_iff.1 hprefix, hs⟩
  | anchor a => cases h
  | seq a b iha ihb =>
    obtain ⟨ha, hb⟩ := Bool.and_eq_true_iff.1 h
    simp only [Spans, language, between_mul, iha ha, ihb hb]
  | alt a b iha ihb =>
    obtain ⟨ha, hb⟩ := Bool.and_eq_true_iff.1 h
    simp only [Spans, iha ha, ihb hb, Between, mem_language_alt, or_and_right, exists_or]
  | group captures r ih => exact ih h
  | repeated greedy min max r ih =>
    have hspans : Spans text r = Between text r.language := by
      ext
      exact ih h
    simp only [Spans, hspans, ← between_pow]
    constructor
    · rintro ⟨more, hmore, w, hw, hpart⟩
      exact ⟨w, ⟨more, hmore, hw⟩, hpart⟩
    · rintro ⟨w, ⟨more, hmore, hw⟩, hpart⟩
      exact ⟨more, hmore, w, hw, hpart⟩

private theorem spans_concat_cons :
    Spans text (concat (r :: rs)) i j ↔ ∃ k, Spans text r i k ∧ Spans text (concat rs) k j := by
  cases rs with
  | nil => simp [concat, Spans]
  | cons => rfl

private theorem spans_concat_append {qs : List Regex} :
    Spans text (concat (rs ++ qs)) i j ↔ ∃ k, Spans text (concat rs) i k ∧ Spans text (concat qs) k j := by
  induction rs generalizing i with
  | nil => simp [concat, Spans]
  | cons r rs ih =>
    simp only [List.cons_append, spans_concat_cons, ih]
    constructor
    · rintro ⟨a, ha, b, hb, hbj⟩
      exact ⟨b, ⟨a, ha, hb⟩, hbj⟩
    · rintro ⟨b, ⟨a, ha, hb⟩, hbj⟩
      exact ⟨a, ha, b, hb, hbj⟩

private theorem language_concat_cons : (concat (r :: rs)).language = r.language * (concat rs).language := by
  cases rs with
  | nil => exact (mul_one _).symm
  | cons => rfl

theorem mem_language_concat_cons :
    w ∈ (concat (r :: rs)).language ↔ ∃ u ∈ r.language, ∃ v ∈ (concat rs).language, u ++ v = w := by
  rw [language_concat_cons, Language.mem_mul]

theorem mem_language_concat_append {qs : List Regex} :
    w ∈ (concat (rs ++ qs)).language ↔
      ∃ u ∈ (concat rs).language, ∃ v ∈ (concat qs).language, u ++ v = w := by
  have happend : (concat (rs ++ qs)).language = (concat rs).language * (concat qs).language := by
    induction rs with
    | nil => exact (one_mul _).symm
    | cons r rs ih => rw [List.cons_append, language_concat_cons, ih, language_concat_cons, mul_assoc]
  rw [happend, Language.mem_mul]

/-- The items between the two ends of a text. -/
def whole (items : List Regex) : Regex :=
  concat (.anchor .textStart :: (items ++ [.anchor .textEnd]))

/-- An expression held at both ends matches the texts of its language. -/
theorem isMatch_whole (h : (concat rs).isPlain = true) :
    (whole rs).isMatch text = true ↔ text ∈ (concat rs).language := by
  have hstart (i k : Nat) : Spans text (.anchor .textStart) i k ↔ i = k ∧ i = 0 := by
    cases i with
    | zero => simp [Spans, Anchor.holds, charBefore]
    | succ i =>
      simp only [Spans, Anchor.holds, charBefore, Option.isNone_iff_eq_none, List.getElem?_eq_none_iff]
      omega
  have hend (k j : Nat) : Spans text (concat [.anchor .textEnd]) k j ↔ k = j ∧ k = text.length := by
    simp only [concat, Spans, Anchor.holds, Option.isNone_iff_eq_none, List.getElem?_eq_none_iff]
    omega
  rw [isMatch_iff, ← between_whole]
  simp only [whole, spans_concat_cons, spans_concat_append, hstart, spans_iff h, hend]
  constructor
  · rintro ⟨_, _, -, _, ⟨rfl, rfl⟩, _, hpart, rfl, rfl⟩
    exact hpart
  · exact fun hpart => ⟨0, _, Nat.zero_le _, 0, ⟨rfl, rfl⟩, _, hpart, rfl, rfl⟩

/-! ### Sets of characters -/

/-- The sets of characters in an expression. -/
def sets : Regex → List CharSet
  | .empty | .anchor _ => []
  | .oneOf s => [s]
  | .seq a b | .alt a b => a.sets ++ b.sets
  | .group _ r | .repeated _ _ _ r => r.sets

/-- Every character of a text that an expression takes lies in one of its sets. -/
theorem exists_contains_of_mem (hw : w ∈ r.language) : ∀ c ∈ w, ∃ s ∈ r.sets, s.contains c = true := by
  induction r generalizing w with
  | empty | anchor =>
    obtain rfl := (Language.mem_one w).1 hw
    exact fun _ hc => absurd hc List.not_mem_nil
  | oneOf s =>
    obtain ⟨c, hc, rfl⟩ := hw
    simpa [sets] using hc
  | seq a b iha ihb =>
    obtain ⟨u, hu, v, hv, rfl⟩ := mem_language_seq.1 hw
    intro c hc
    rcases List.mem_append.1 hc with hc | hc
    · obtain ⟨s, hs, hsc⟩ := iha hu c hc
      exact ⟨s, List.mem_append_left _ hs, hsc⟩
    · obtain ⟨s, hs, hsc⟩ := ihb hv c hc
      exact ⟨s, List.mem_append_right _ hs, hsc⟩
  | alt a b iha ihb =>
    intro c hc
    rcases hw with hw | hw
    · obtain ⟨s, hs, hsc⟩ := iha hw c hc
      exact ⟨s, List.mem_append_left _ hs, hsc⟩
    · obtain ⟨s, hs, hsc⟩ := ihb hw c hc
      exact ⟨s, List.mem_append_right _ hs, hsc⟩
  | group captures r ih => exact ih hw
  | repeated greedy min max r ih =>
    obtain ⟨more, -, hw⟩ := hw
    obtain ⟨parts, rfl, -, hparts⟩ := Language.mem_pow.1 hw
    intro c hc
    obtain ⟨part, hpart, hc⟩ := List.mem_flatten.1 hc
    exact ih (hparts part hpart) c hc

/-- The expression with other sets of characters. -/
def mapSets (g : CharSet → CharSet) : Regex → Regex
  | .empty => .empty
  | .oneOf s => .oneOf (g s)
  | .anchor a => .anchor a
  | .seq a b => .seq (a.mapSets g) (b.mapSets g)
  | .alt a b => .alt (a.mapSets g) (b.mapSets g)
  | .group captures r => .group captures (r.mapSets g)
  | .repeated greedy min max r => .repeated greedy min max (r.mapSets g)

/-- Characters read as others, which lie in the other sets, lead from one language into the other. -/
theorem map_mem_language {read : Char → Char} {g : CharSet → CharSet} (hw : w ∈ r.language)
    (h : ∀ s ∈ r.sets, ∀ c, s.contains c = true → (g s).contains (read c) = true) :
    w.map read ∈ (r.mapSets g).language := by
  induction r generalizing w with
  | empty | anchor =>
    obtain rfl := (Language.mem_one w).1 hw
    exact Language.nil_mem_one
  | oneOf s =>
    obtain ⟨c, hc, rfl⟩ := hw
    exact ⟨read c, h s (List.mem_cons_self ..) c hc, rfl⟩
  | seq a b iha ihb =>
    obtain ⟨ha, hb⟩ := List.forall_mem_append.1 h
    obtain ⟨u, hu, v, hv, rfl⟩ := mem_language_seq.1 hw
    rw [List.map_append]
    exact Language.append_mem_mul (iha hu ha) (ihb hv hb)
  | alt a b iha ihb =>
    obtain ⟨ha, hb⟩ := List.forall_mem_append.1 h
    exact hw.imp (fun hw => iha hw ha) fun hw => ihb hw hb
  | group captures r ih => exact ih hw h
  | repeated greedy min max r ih =>
    obtain ⟨more, hmore, hw⟩ := hw
    obtain ⟨parts, rfl, hlength, hparts⟩ := Language.mem_pow.1 hw
    refine ⟨more, hmore, Language.mem_pow.2 ⟨parts.map (List.map read), List.map_flatten, ?_, ?_⟩⟩
    · rw [List.length_map, hlength]
    · exact List.forall_mem_map.2 fun part hpart => ih (hparts part hpart) h

end FieldRules.Regex
