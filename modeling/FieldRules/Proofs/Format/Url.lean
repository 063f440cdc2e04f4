import FieldRules.Proofs.Format.Patterns

/-!
# Web addresses

What the format for web addresses lets pass: a scheme, a first character that is neither blank nor a delimiter, any
further character of the line, and then characters that are not blank (`Format.builtin_url_passes`).
-/

namespace FieldRules.Format

open FieldRules.Unicode (CharSet)
open FieldRules.Regex

/-- The characters that a host does not begin with, apart from blanks. -/
def urlDelimiters : List Char :=
  "/$.?#".toList

/-- How the pattern for web addresses begins. -/
def schemeItems : List Regex :=
  "http".toList.map char ++ maybe (.single 's') :: "://".toList.map char

/-- What the pattern for web addresses is made of. -/
def urlItems : List Regex :=
  schemeItems ++ [.oneOf (.compl (urlDelimiters.foldl (fun s c => .union s (.single c)) .blank)),
    .oneOf (.compl (.single '\n')), run 0 (.compl .blank)]

private theorem parse?_urlSource : Regex.parse? urlSource.toList = some (whole urlItems) := by
  rfl

private theorem mem_language_schemeItems {w : List Char} :
    w ∈ (concat schemeItems).language ↔ w = "http://".toList ∨ w = "https://".toList := by
  have hplain : "http".toList ++ ([] ++ "://".toList) = "http://".toList := rfl
  have hsecure : "http".toList ++ (['s'] ++ "://".toList) = "https://".toList := rfl
  simp only [schemeItems, mem_language_concat_append, mem_language_concat_cons, mem_language_concat_chars,
    mem_language_maybe, CharSet.contains_single, beq_iff_eq, exists_eq_left, exists_eq_left', or_and_right, exists_or,
    hplain, hsecure, @eq_comm _ w]

/-- A set with more characters, one by one. -/
private theorem contains_foldl_union (cs : List Char) (s : CharSet) (c : Char) :
    (cs.foldl (fun s c => .union s (.single c)) s).contains c = true ↔ s.contains c = true ∨ c ∈ cs := by
  induction cs generalizing s with
  | nil => simp
  | cons d ds ih =>
    rw [List.foldl_cons, ih, CharSet.contains, Bool.or_eq_true, CharSet.contains_single, beq_iff_eq, List.mem_cons,
      eq_comm (a := d), or_assoc]

/-- A text in the parts of a web address: the scheme, two characters, and the rest. -/
structure IsUrl (cs scheme : List Char) (first second : Char) (rest : List Char) : Prop where
  parts : cs = scheme ++ first :: second :: rest
  scheme : scheme = "http://".toList ∨ scheme = "https://".toList
  first_solid : Text.isBlank first = false
  first_free : first ∉ urlDelimiters
  second_inline : second ≠ '\n'
  rest_solid : ∀ c ∈ rest, Text.isBlank c = false

/-- A web address has a blank only if its second character behind the scheme is one. -/
theorem IsUrl.solid_iff {cs scheme rest : List Char} {first second : Char} (h : IsUrl cs scheme first second rest) :
    (∀ c ∈ cs, Text.isBlank c = false) ↔ Text.isBlank second = false := by
  have hscheme : scheme.all (fun c => !Text.isBlank c) = true := by
    rcases h.scheme with rfl | rfl <;> rfl
  have hsolid : ∀ c ∈ scheme, Text.isBlank c = false := by simpa using hscheme
  rw [h.parts, List.forall_mem_append, List.forall_mem_cons, List.forall_mem_cons]
  exact ⟨fun h => h.2.2.1, fun hsecond => ⟨hsolid, h.first_solid, hsecond, h.rest_solid⟩⟩

private theorem mem_language_urlItems {w : List Char} :
    w ∈ (concat urlItems).language ↔ ∃ scheme first second rest, IsUrl w scheme first second rest := by
  have hcompl (s : CharSet) (c : Char) : (CharSet.compl s).contains c = true ↔ ¬s.contains c = true := by
    simp [CharSet.contains]
  have hsecond (c : Char) : (CharSet.compl (.single '\n')).contains c = true ↔ c ≠ '\n' := by
    rw [hcompl, CharSet.contains_single, beq_iff_eq, ne_comm]
  rw [urlItems, mem_language_concat_append]
  simp only [mem_language_schemeItems, mem_language_concat_cons, mem_language_oneOf, mem_language_run,
    mem_language_concat_nil, hsecond, hcompl, contains_foldl_union, CharSet.contains_blank, not_or, Bool.not_eq_true]
  constructor
  · rintro ⟨scheme, hscheme, _, ⟨_, ⟨first, hfirst, rfl⟩, _, ⟨_, ⟨second, hline, rfl⟩, _, ⟨rest, ⟨-, hrest⟩, _,
      rfl, rfl⟩, rfl⟩, rfl⟩, rfl⟩
    exact ⟨scheme, first, second, rest, by simp, hscheme, hfirst.1, hfirst.2, hline, hrest⟩
  · rintro ⟨scheme, first, second, rest, rfl, hscheme, hblank, hdelimiter, hline, hrest⟩
    exact ⟨scheme, hscheme, _, ⟨[first], ⟨first, ⟨hblank, hdelimiter⟩, rfl⟩, _, ⟨[second], ⟨second, hline, rfl⟩, _,
      ⟨rest, ⟨Nat.zero_le _, hrest⟩, [], rfl, List.append_nil _⟩, rfl⟩, rfl⟩, rfl⟩

/-- The format for web addresses. -/
def url : Format :=
  .ofItems ["url"] urlSource urlItems parse?_urlSource

private theorem check_url_eq_none_iff {v : Value} :
    url.check v = none ↔
      ∃ s scheme first second rest, v = .string s ∧ IsUrl s.toList scheme first second rest := by
  rw [url, check_ofItems_eq_none_iff rfl]
  simp only [mem_language_urlItems, exists_and_left]

private theorem get?_builtin_url : Fields.get? Registry.builtin "url" = some (.format url) :=
  Registry.get?_builtin_of_mem_names (List.mem_append_left _ (.tail _ (.head _))) (.head _)

/-- The format found under `url` lets pass the web addresses and nothing else. One that passes has a blank only if its
second character behind the scheme is one. -/
theorem builtin_url_passes {f : Format} {v : Value}
    (hf : Fields.get? Registry.builtin "url" = some (.format f)) :
    f.check v = none ↔ ∃ s scheme first second rest, v = .string s ∧ IsUrl s.toList scheme first second rest ∧
      ((∀ c ∈ s.toList, Text.isBlank c = false) ↔ Text.isBlank second = false) := by
  rw [get?_builtin_url] at hf
  obtain rfl : url = f := Creation.format.inj (Option.some.inj hf)
  rw [check_url_eq_none_iff]
  constructor
  · rintro ⟨s, scheme, first, second, rest, hv, hurl⟩
    exact ⟨s, scheme, first, second, rest, hv, hurl, hurl.solid_iff⟩
  · rintro ⟨s, scheme, first, second, rest, hv, hurl, -⟩
    exact ⟨s, scheme, first, second, rest, hv, hurl⟩

/-- A host of two letters. -/
theorem builtin_url_passes_short :
    ∃ f, Fields.get? Registry.builtin "url" = some (.format f) ∧ f.check (.string "https://ab") = none := by
  refine ⟨url, get?_builtin_url, (builtin_url_passes get?_builtin_url).2 ?_⟩
  have hurl : IsUrl "https://ab".toList "https://".toList 'a' 'b' [] :=
    ⟨rfl, .inr rfl, by decide, by decide, by decide, List.forall_mem_nil _⟩
  exact ⟨_, _, _, _, _, rfl, hurl, hurl.solid_iff⟩

/-- A web address with a blank. -/
theorem builtin_url_passes_blank :
    ∃ f, Fields.get? Registry.builtin "url" = some (.format f) ∧ f.check (.string "http://a b") = none ∧
      ∃ c ∈ "http://a b".toList, Text.isBlank c = true := by
  have hurl : IsUrl "http://a b".toList "http://".toList 'a' ' ' ['b'] :=
    ⟨rfl, .inl rfl, by decide, by decide, by decide, by simp [Text.isBlank]⟩
  exact ⟨url, get?_builtin_url, check_url_eq_none_iff.2 ⟨_, _, _, _, _, rfl, hurl⟩, ' ', by decide, by decide⟩

end FieldRules.Format
