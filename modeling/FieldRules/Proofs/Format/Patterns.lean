import FieldRules.Proofs.Compiler.Registry
import FieldRules.Proofs.Regex.Language

/-!
# What formats let pass

A format given by a pattern that is held at both ends lets pass the texts of a language
(`Format.check_ofItems_eq_none_iff`). The parts that such patterns share are named here, each with its language.
-/

namespace FieldRules

open FieldRules.Unicode (CharSet Ranges)

namespace Unicode

/-- White space is the same to patterns and to readers. -/
theorem CharSet.contains_blank (c : Char) : CharSet.blank.contains c = Text.isBlank c := by
  rw [Bool.eq_iff_iff]
  simp only [CharSet.blank, CharSet.contains, Ranges.contains, Listed.blank, Text.isBlank,
    List.any_cons, List.any_nil, Bool.or_eq_true, Bool.and_eq_true, decide_eq_true_eq, beq_iff_eq, Bool.or_false]
  omega

/-- The characters between two others. -/
def CharSet.interval (lo hi : Char) : CharSet :=
  .ranges [(lo.toNat, hi.toNat)]

theorem CharSet.contains_interval {lo hi c : Char} :
    (CharSet.interval lo hi).contains c = true ↔ lo.toNat ≤ c.toNat ∧ c.toNat ≤ hi.toNat := by
  simp [CharSet.interval, CharSet.contains, Ranges.contains]

/-- Whether a set is given by intervals and a test holds for all characters in them. -/
def CharSet.allSatisfy (p : Char → Bool) : CharSet → Bool
  | .ranges rs => rs.all fun (lo, hi) => (List.range' lo (hi + 1 - lo)).all fun n => p (Char.ofNat n)
  | _ => false

theorem CharSet.holds_of_contains {p : Char → Bool} {s : CharSet} (h : s.allSatisfy p = true) {c : Char}
    (hc : s.contains c = true) : p c = true := by
  cases s with
  | ranges rs =>
    obtain ⟨⟨lo, hi⟩, hmem, hin⟩ := List.any_eq_true.1 hc
    simp only [Bool.and_eq_true, decide_eq_true_eq] at hin
    have hall := List.all_eq_true.1 (List.all_eq_true.1 h _ hmem) c.toNat
      (List.mem_range'_1.2 ⟨hin.1, by omega⟩)
    rwa [Char.ofNat_toNat] at hall
  | categories | union | inter | compl | fold | foldAscii => cases h

/-- A category other than that of unassigned characters comes from the table. -/
theorem exists_run_of_category {c : Char} {cat : Category} (h : category c = cat) (hcat : cat ≠ .cn) :
    ∃ lo hi, (lo, hi, cat) ∈ Category.runs ∧ lo ≤ c.toNat ∧ c.toNat ≤ hi := by
  unfold category at h
  split at h
  next lo hi _ hrun =>
    have hfound := List.find?_some hrun
    obtain ⟨hlo, hhi⟩ := Bool.and_eq_true_iff.1 hfound
    exact ⟨lo, hi, h ▸ List.mem_of_find?_eq_some hrun, of_decide_eq_true hlo, of_decide_eq_true hhi⟩
  next => exact absurd h.symm hcat

end Unicode

namespace Regex

/-! ### Parts of patterns -/

/-- One character. -/
def char (c : Char) : Regex :=
  .oneOf (.single c)

/-- A character that may be left out. -/
def maybe (s : CharSet) : Regex :=
  .repeated true 0 (some 1) (.oneOf s)

/-- So many characters of a set or more. -/
def run (least : Nat) (s : CharSet) : Regex :=
  .repeated true least none (.oneOf s)

/-- Blanks, as many as there are. -/
def blanks : Regex :=
  run 0 .blank

variable {w cs : List Char} {c : Char} {s : CharSet} {rs : List Regex}

@[simp] theorem mem_language_char : w ∈ (char c).language ↔ w = [c] := by
  simp [char, mem_language_oneOf, Unicode.CharSet.contains_single]

@[simp] theorem mem_language_maybe :
    w ∈ (maybe s).language ↔ w = [] ∨ ∃ c, s.contains c = true ∧ w = [c] := by
  rw [maybe, mem_language_repeated_oneOf]
  simp only [Nat.zero_le, Option.mem_some_iff, forall_eq', Nat.sub_zero, true_and]
  constructor
  · rintro ⟨hlength, hw⟩
    match w with
    | [] => exact .inl rfl
    | [c] => exact .inr ⟨c, hw c (List.mem_cons_self ..), rfl⟩
    | _ :: _ :: _ => simp at hlength
  · rintro (rfl | ⟨c, hc, rfl⟩)
    · simp
    · simpa using hc

@[simp] theorem mem_language_run {least : Nat} :
    w ∈ (run least s).language ↔ least ≤ w.length ∧ ∀ c ∈ w, s.contains c = true := by
  simp [run, mem_language_repeated_oneOf]

@[simp] theorem mem_language_blanks : w ∈ blanks.language ↔ Text.allBlank w = true := by
  simp [blanks, Unicode.CharSet.contains_blank, Text.allBlank]

@[simp] theorem mem_language_concat_nil : w ∈ (concat []).language ↔ w = [] :=
  Language.mem_one w

/-- A text, character by character. -/
@[simp] theorem mem_language_concat_chars : w ∈ (concat (cs.map char)).language ↔ w = cs := by
  induction cs generalizing w with
  | nil => exact mem_language_concat_nil
  | cons c cs ih => simp [mem_language_concat_cons, ih, eq_comm]

end Regex

/-! ### Formats -/

namespace Format

/-- The format given by a pattern that is made of these items and held at both ends. -/
def ofItems (names : List String) (source : String) (items : List Regex)
    (h : Regex.parse? source.toList = some (.whole items)) : Format :=
  .ofPattern names (pattern source (Option.isSome_of_eq_some h))

/-- What a format lets pass whose pattern is held at both ends. -/
theorem check_ofItems_eq_none_iff {names : List String} {source : String} {items : List Regex}
    {h : Regex.parse? source.toList = some (.whole items)} (hplain : (Regex.concat items).isPlain = true)
    {v : Value} :
    (ofItems names source items h).check v = none ↔
      ∃ s, v = .string s ∧ s.toList ∈ (Regex.concat items).language := by
  have hregex : (pattern source (Option.isSome_of_eq_some h)).regex = .whole items := Option.get_of_eq_some _ h
  cases v with
  | string s =>
    have hmatch : (ofItems names source items h).isMatch s = (Regex.whole items).isMatch s.toList := by
      rw [← hregex]
      rfl
    simp [check, hmatch, Regex.isMatch_whole hplain]
  | null | bool | int | uint | float | list | map | struct => simp [check]

end Format

/-- What is found under a name of a format that needs no registration. -/
theorem Registry.get?_builtin_of_mem_names {f : Format} {name : String} (hf : f ∈ Format.builtin)
    (hname : name ∈ f.names) : Fields.get? builtin name = some (.format f) :=
  get?_builtin_iff.2 ⟨.ofFormat f, List.mem_append_right _ (List.mem_map_of_mem hf), hname, rfl⟩

end FieldRules
