import FieldRules.Proofs.Rule.Reading

/-!
# Rules and their canonical texts

Reading and writing are inverse up to source texts. A rule that was read is well formed
(`Rule.wellFormed_of_parse`), and the canonical text of a well-formed rule reads as that rule
(`Rule.parse_toString`).
-/

namespace FieldRules.Rule

private theorem parse_eq_ok_iff {text : String} {r : Rule} : parse text = .ok r ↔
    ∃ ts, Lexer.tokens text.toList = .ok ts ∧ RuleReader.run text.toList {} ts = .ok r := by
  simp only [parse, bind, Except.bind]
  cases Lexer.tokens text.toList with
  | error fault => simp
  | ok ts => cases h : RuleReader.run text.toList {} ts <;> simp [h]

/-- Whatever is read is well formed. -/
theorem wellFormed_of_parse {text : String} {r : Rule} (h : parse text = .ok r) : r.WellFormed := by
  obtain ⟨ts, hts, hrun⟩ := parse_eq_ok_iff.1 h
  obtain ⟨reader, hreader, hresult⟩ := RuleReader.run_eq_ok_iff.1 hrun
  have hstart : RuleReader.Sound {} := ⟨trivial, by simp⟩
  have hsound := hstart.advanceAll (Lexer.wellFormed_of_mem_tokens hts) hreader
  obtain ⟨state, outer, last⟩ := reader
  unfold RuleReader.result? at hresult
  split at hresult
  next d hstate houter =>
    obtain rfl := Option.some.inj hresult
    obtain rfl : state = .modifier d := hstate
    have hparts := wellFormed_iff.1 hsound.1
    exact wellFormed_iff.2 hparts
  · cases hresult

/-- The canonical text of a well-formed rule reads as the rule. -/
theorem parse_toString {r : Rule} (h : r.WellFormed) : ∃ s, parse r.toString = .ok s ∧ s.bare = r.bare := by
  have hread := r.readsAs_text h [] [] Lexer.isPart_nil.1 Lexer.reads_nil
  rw [List.append_nil, List.append_nil] at hread
  obtain ⟨ts, hts, hks⟩ := hread 0
  have hkinds : r.kinds = .atSign :: r.kinds.tail := by cases r; rfl
  have hlead : RuleReader.Leads r.text {} r.kinds (RuleReader.InRule [] r) := by
    rw [hkinds]
    exact RuleReader.leads_cons fun start stop =>
      ⟨⟨.name start, [], stop⟩, rfl, RuleReader.leads_rule r h start [] stop⟩
  obtain ⟨_, hreader, d, last, rfl, hbare⟩ := hlead ts hks
  refine ⟨d.finish r.text last, ?_, ?_⟩
  · rw [parse_eq_ok_iff, Rule.toString, String.toList_ofList]
    exact ⟨ts, hts, RuleReader.run_eq_ok_iff.2 ⟨_, hreader, rfl⟩⟩
  · rw [← hbare]
    simp [Draft.finish, bare_eq_iff]

/-- Reading and canonical writing are inverse to each other up to source texts: a text that can be read gives
a well-formed rule, which its canonical text gives again, with the same canonical text; and every well-formed
rule, wherever it comes from, is read off its canonical text. -/
theorem parse_toString_inverse :
    (∀ (text : String) (r : Rule), parse text = .ok r →
      r.WellFormed ∧ ∃ s, parse r.toString = .ok s ∧ s.agrees r = true ∧ s.toString = r.toString) ∧
    ∀ r : Rule, r.WellFormed → ∃ s, parse r.toString = .ok s ∧ s.agrees r = true := by
  refine ⟨fun text r h => ⟨wellFormed_of_parse h, ?_⟩, fun r h => ?_⟩
  · obtain ⟨s, hs, hbare⟩ := parse_toString (wellFormed_of_parse h)
    exact ⟨s, hs, (agrees_iff s r).2 hbare, toString_eq_of_bare_eq hbare⟩
  · obtain ⟨s, hs, hbare⟩ := parse_toString h
    exact ⟨s, hs, (agrees_iff s r).2 hbare⟩

/-- A text with blanks, an empty value, an escaped slash and an escaped quote; and a rule that was never a
text, with a backslash in its default. -/
theorem parse_toString_inverse_nested :
    (∃ r, parse "@slice < @string{a,}/\\d\\/+/= 'it\\'s' > (1,] ?" = .ok r ∧
      r.WellFormed ∧ ∃ s, parse r.toString = .ok s ∧ s.agrees r = true ∧ s.toString = r.toString) ∧
    let int : Rule := { named "int8" with values := [["%2"]], presence := .default "\\'" }
    let map : Rule := { named "map" with params := [.blank, .rule int], range := some (.exact "3") }
    map.WellFormed ∧ ∃ s, parse map.toString = .ok s ∧ s.agrees map = true := by
  constructor
  · obtain ⟨r, hr⟩ : ∃ r, parse "@slice < @string{a,}/\\d\\/+/= 'it\\'s' > (1,] ?" = .ok r := ⟨_, rfl⟩
    exact ⟨r, hr, parse_toString_inverse.1 _ r hr⟩
  · intro int map
    have hint : int.WellFormed :=
      wellFormed_iff.2 ⟨by decide, trivial, by simp [int, named], by decide, by simp [int, named]⟩
    have hmap : map.WellFormed := by
      refine wellFormed_of_plain (by decide) ⟨trivial, hint, trivial⟩ ?_ rfl rfl
      rintro _ ⟨⟩
      exact ⟨by decide, by decide⟩
    exact ⟨hmap, parse_toString_inverse.2 map hmap⟩

end FieldRules.Rule
