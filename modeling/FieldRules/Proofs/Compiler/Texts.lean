import FieldRules.Proofs.Compiler.Cache
import FieldRules.Proofs.Compiler.Modifiers
import FieldRules.Proofs.Rule.Products
import FieldRules.Proofs.Rule.SourceText
import FieldRules.Proofs.Validator.Canonical

/-!
# Compiled text rules

The check of a text rule with groups of values lets pass the texts that the groups spell and nothing else, whatever
range or pattern the rule has (`Factory.compile_text_spells`).
-/

namespace FieldRules

/-- Whether a check lets pass the texts that groups of values spell, and nothing else. -/
def Validator.PassesSpelled (v : Validator) (groups : List (List String)) : Prop :=
  ∀ x, v.validate x = [] ↔ ∃ text, x = .string text ∧ SpelledBy groups text

namespace TextCheck

variable {r : Rule} {c : TextCheck}

private theorem checkText_of_listed (h : c.listed ≠ []) (text : String) :
    c.checkText text = none ↔ text ∈ c.listed := by
  rw [checkText, if_pos h]
  split <;> simp_all

private theorem passesSpelled_of_ofRule? (h : ofRule? r = .ok c) (hvalues : r.values ≠ [])
    (hgroups : ∀ group ∈ r.values, group ≠ []) : (Validator.text c).PassesSpelled r.values := by
  obtain ⟨hlisted, -⟩ := of_ofRule? h
  have hne : c.listed ≠ [] := hlisted ▸ Rule.computedValues_ne_nil hgroups hvalues
  intro x
  have hvalidate : (Validator.text c).validate x = [] ↔ c.check x = none := by
    change Report.ofCause? (c.check x) [] = [] ↔ _
    cases c.check x <;> simp [Report.ofCause?]
  rw [hvalidate]
  cases x with
  | string text =>
    rw [check, checkText_of_listed hne, hlisted, Rule.mem_computedValues_iff]
    simp [Rule.Spells, hvalues]
  | null | bool | int | uint | float | list | map | struct => simp [check]

end TextCheck

/-- What the check of a text rule is, where the rule is compiled. -/
private theorem Site.inner_text_eq_ok {scope : Scope}
    {expand : Site Compiled → Schema → Option Rule → Compiled Validator} {site : Site Compiled} {inferred : Bool}
    {r : Rule} {v? : Option Validator} (h : site.inner scope expand inferred r = .ok v?) (hname : r.name ≠ "")
    (hcreator : Fields.get? scope.registry r.name = some .text) :
    ∃ c, TextCheck.ofRule? r = .ok c ∧ v? = some (.text c) := by
  rw [inner_eq_create _ _ _ hname hcreator] at h
  obtain ⟨v, hv, h⟩ := bind_eq_ok.1 h
  obtain ⟨_, -, hv⟩ := bind_eq_ok.1 hv
  obtain ⟨c, hc, hv⟩ := bind_eq_ok.1 hv
  obtain rfl := Except.ok.inj hv
  refine ⟨c, orInvalid_eq_ok_iff.1 hc, ?_⟩
  simpa [Validator.isVacuous] using (Except.ok.inj h).symm

/-- Wherever a text rule with groups of values is compiled, its check lets pass what the groups spell. -/
private theorem Site.inner_text_passes {scope : Scope}
    {expand : Site Compiled → Schema → Option Rule → Compiled Validator} {site : Site Compiled} {inferred : Bool}
    {r : Rule} {v? : Option Validator} (h : site.inner scope expand inferred r = .ok v?) (hname : r.name ≠ "")
    (hcreator : Fields.get? scope.registry r.name = some .text) (hvalues : r.values ≠ [])
    (hgroups : ∀ group ∈ r.values, group ≠ []) : ∃ inner, v? = some inner ∧ inner.PassesSpelled r.values := by
  obtain ⟨c, hc, rfl⟩ := inner_text_eq_ok h hname hcreator
  exact ⟨_, rfl, TextCheck.passesSpelled_of_ofRule? hc hvalues hgroups⟩

/-- A rule inside of a rule text has a name, and no group of values without a value. -/
private theorem Rule.groups_ne_nil_of_within {text : String} {r q : Rule} (hparse : Rule.parse text = .ok r)
    (hq : q.Within r) : q.name ≠ "" ∧ ∀ group ∈ q.values, group ≠ [] := by
  obtain ⟨-, -, hraw⟩ := Rule.raw_of_within hparse hq
  have hformed := Rule.wellFormed_iff.1 (Rule.wellFormed_of_parse hraw)
  exact ⟨hformed.1.isLiteral.1, fun group hgroup => (hformed.2.2.2.1 group hgroup).1⟩

namespace Factory

/-- The values of a rule are the combinations of its groups in order: as many as there are choices of one value from
each group, each at the place that the places of the chosen values make, and none when there are no groups or an empty
one. So the check of a text rule with groups, at the top of a rule text or inside of it, with whatever else the rule
says, lets pass the texts that can be cut into one value from each group, in order, and nothing else. -/
theorem compile_text_spells :
    (∀ r : Rule, (r.computedValues = [] ↔ r.values = [] ∨ [] ∈ r.values) ∧
      (r.values ≠ [] → r.computedValues.length = (r.values.map List.length).prod ∧
        ∀ n text, r.computedValues[n]? = some text ↔ ∃ choices, Chosen choices r.values ∧
          n = placeOf r.values (choices.map (·.1)) ∧ text = String.join (choices.map (·.2)))) ∧
    ∀ (f : Factory) (text : String) (r : Rule), Rule.parse text = .ok r →
      (∀ q, q.Within r → Fields.get? f.registry q.name = some .text → q.values ≠ [] →
        ∀ (site : Site Compiled) expand inferred v?, site.inner f.scope expand inferred q = .ok v? →
          ∃ inner, v? = some inner ∧ inner.PassesSpelled q.values) ∧
      (Fields.get? f.registry r.name = some .text → r.values ≠ [] →
        ∀ s mods, f.AnswersAnew ⟨text, s, mods⟩ → ∀ v, (f.compile text s mods).1 = .ok v →
          ∃ l inner, v = .loader l ∧ l.inner = some inner ∧ inner.PassesSpelled r.values) := by
  refine ⟨fun r => ⟨Rule.computedValues_eq_nil_iff, fun h => ?_⟩, fun f text r hparse => ⟨?_, ?_⟩⟩
  · exact ⟨Rule.length_computedValues h, fun n text => Rule.getElem?_computedValues h⟩
  · intro q hq hcreator hvalues site expand inferred v? hv
    obtain ⟨hname, hgroups⟩ := Rule.groups_ne_nil_of_within hparse hq
    exact Site.inner_text_passes hv hname hcreator hvalues hgroups
  · intro hcreator hvalues s mods hf v hv
    obtain ⟨hname, hgroups⟩ := Rule.groups_ne_nil_of_within hparse .self
    obtain ⟨rule?, hread, hv⟩ := hf.compile_eq_ok_iff.1 hv
    rw [readRule_of_parse hparse] at hread
    obtain rfl := Except.ok.inj hread
    obtain ⟨inner, policy, hinner, -, rfl⟩ := Schema.compile_eq_ok_iff.1 hv
    rw [Schema.ruleFor, Option.getD_some, Modifier.foldl_apply_eq] at hinner
    obtain ⟨check, rfl, hpasses⟩ := Site.inner_text_passes hinner hname hcreator hvalues hgroups
    exact ⟨_, check, rfl, rfl, hpasses⟩

/-- Two groups with a value that is empty and one that can be cut in two ways, beside a range that no value is in: at
the top of a rule text, and in the items of a list. -/
theorem compile_text_spells_ambiguous :
    let q : Rule := { Rule.named "char" with
      raw := "@char\x7ba,ab\x7d\x7bb,\x7d[9,]", range := some (.span (some "9") none false false),
      values := [["a", "ab"], ["b", ""]] }
    let r : Rule := { Rule.named "slice" with raw := "@slice<@char\x7ba,ab\x7d\x7bb,\x7d[9,]>", params := [.rule q] }
    let f := builtin {}
    Rule.parse q.raw = .ok q ∧ Rule.parse r.raw = .ok r ∧ q.computedValues.length = 4 ∧
      q.computedValues[2]? = some "abb" ∧
      (∃ l inner, (f.compile q.raw .string [.default "ab"]).1 = .ok (.loader l) ∧ l.inner = some inner ∧
        inner.PassesSpelled q.values ∧ inner.validate (.string "ab") = [] ∧ inner.validate (.string "b") ≠ []) ∧
      ∃ inner, (Site.leaf .string).inner f.scope f.scope.expand false q = .ok (some inner) ∧
        inner.PassesSpelled q.values := by
  intro q r f
  have hq : Rule.parse "@char\x7ba,ab\x7d\x7bb,\x7d[9,]" = .ok q := rfl
  have hr : Rule.parse "@slice<@char\x7ba,ab\x7d\x7bb,\x7d[9,]>" = .ok r := rfl
  have hcreator : Fields.get? f.registry q.name = some .text :=
    Registry.get?_builtin_iff.2 ⟨⟨["string", "char"], .text⟩, List.mem_append_left _ (by simp [Creator.families]),
      by decide, rfl⟩
  have hvalues : q.values ≠ [] := List.cons_ne_nil _ _
  have hanew : f.AnswersAnew ⟨q.raw, .string, [.default "ab"]⟩ :=
    answersAnew_of_cache_eq_nil rfl (List.nodup_singleton _)
  obtain ⟨hlists, hcompiles⟩ := compile_text_spells
  obtain ⟨hlength, hplaces⟩ := (hlists q).2 hvalues
  refine ⟨hq, hr, hlength, (hplaces 2 "abb").2 ⟨[(1, "ab"), (0, "b")], ?_, rfl, rfl⟩, ?_, ?_⟩
  · exact .cons rfl (.cons rfl .nil)
  · obtain ⟨v, hv, -⟩ := @exists_of_toOption_any _ _ (f.compile q.raw .string [.default "ab"]).1 (fun _ => true)
      (by decide +kernel)
    obtain ⟨l, inner, rfl, hinner, hpasses⟩ := (hcompiles f q.raw q hq).2 hcreator hvalues _ _ hanew v hv
    refine ⟨l, inner, hv, hinner, hpasses, (hpasses _).2 ⟨"ab", rfl, ["a", "b"], by decide, rfl⟩, fun h => ?_⟩
    obtain ⟨text, htext, hspelled⟩ := (hpasses _).1 h
    obtain rfl := Value.string.inj htext
    exact absurd (Rule.mem_computedValues_iff.2 ⟨hvalues, hspelled⟩) (by decide)
  · have hwithin : q.Within r := .param .self List.mem_cons_self
    obtain ⟨v?, hv, -⟩ := @exists_of_toOption_any _ _ ((Site.leaf .string).inner f.scope f.scope.expand false q)
      (fun _ => true) (by decide +kernel)
    obtain ⟨inner, rfl, hpasses⟩ := (hcompiles f r.raw r hr).1 q hwithin hcreator hvalues _ _ _ _ hv
    exact ⟨inner, hv, hpasses⟩

end Factory

end FieldRules
