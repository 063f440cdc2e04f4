import FieldRules.Proofs.Compiler.Cache
import FieldRules.Proofs.Compiler.Inline
import FieldRules.Proofs.Compiler.Modifiers
import FieldRules.Proofs.Validator.Integers

/-!
# Compiled integer rules

The check of an integer rule that compiles judges values as the text of the rule says
(`Factory.compile_integer_judges`).
-/

namespace FieldRules

variable {scope : Scope} {s : Schema}

/-- What the check of an integer rule is, where there is one. -/
private theorem Schema.checkOf_integer_eq_ok {signed : Bool} {r : Rule} {v? : Option Validator}
    (h : s.checkOf scope false r = .ok v?) (hname : r.name ≠ "")
    (hcreator : Fields.get? scope.registry r.name = some (.integer signed)) :
    ∃ c, IntegerCheck.ofRule? signed r = .ok c ∧ v? = some (.integer c) := by
  rw [checkOf, Site.inner_eq_create _ _ _ hname hcreator] at h
  obtain ⟨v, hv, h⟩ := bind_eq_ok.1 h
  obtain ⟨_, -, hv⟩ := bind_eq_ok.1 hv
  obtain ⟨c, hc, hv⟩ := bind_eq_ok.1 hv
  obtain rfl := Except.ok.inj hv
  refine ⟨c, orInvalid_eq_ok_iff.1 hc, ?_⟩
  simpa using (Except.ok.inj h).symm

private theorem IntegerCheck.ofRule?_withPresence (signed : Bool) (r : Rule) (p : Presence) :
    ofRule? signed { r with presence := p } = ofRule? signed r :=
  rfl

namespace Factory

/-- The check of an integer rule that compiles, whatever schema and modifiers it is compiled with, without a cache and
also with one, as long as keys tell requests apart. A value passes when it denotes an integer that the rule admits;
values that denote the same integer are judged alike; and a value that does not pass is reported once, for the first
reason that the rule has. -/
theorem compile_integer_judges {f : Factory} {text : String} {mods : List Modifier}
    (hf : f.AnswersAnew ⟨text, s, mods⟩) {r : Rule} {signed : Bool} (hparse : Rule.parse text = .ok r)
    (hname : ∃ rest, r.name = IntegerCheck.family signed ++ rest)
    (hcreator : Fields.get? f.registry r.name = some (.integer signed)) {v : Validator}
    (hv : (f.compile text s mods).1 = .ok v) :
    ∃ l inner, v = .loader l ∧ l.inner = some inner ∧
      (∀ x, inner.validate x = [] ↔ ∃ n, x.DenotesInt n ∧ r.AdmitsInt signed n) ∧
      (∀ x y n, x.DenotesInt n → y.DenotesInt n → inner.validate x = inner.validate y) ∧
      ∀ x code, (inner.validate x).map (·.cause.code) = [code] ↔ r.RefusesValue signed x code := by
  have hformed := Rule.wellFormed_iff.1 (Rule.wellFormed_of_parse hparse)
  have hgroups : ∀ group ∈ r.values, group ≠ [] := fun group hgroup => (hformed.2.2.2.1 group hgroup).1
  obtain ⟨rule?, hread, hv⟩ := hf.compile_eq_ok_iff.1 hv
  rw [readRule_of_parse hparse] at hread
  obtain rfl := Except.ok.inj hread
  obtain ⟨inner, policy, hinner, -, rfl⟩ := Schema.compile_eq_ok_iff.1 hv
  rw [Schema.ruleFor, Option.getD_some, Modifier.foldl_apply_eq] at hinner
  obtain ⟨c, hc, rfl⟩ := Schema.checkOf_integer_eq_ok hinner hformed.1.isLiteral.1 hcreator
  rw [IntegerCheck.ofRule?_withPresence] at hc
  have hvalidate (x : Value) : (Validator.integer c).validate x = Report.ofCause? (c.check x) [] := rfl
  refine ⟨_, _, rfl, rfl, fun x => ?_, fun x y n hx hy => ?_, fun x code => ?_⟩
  · rw [hvalidate]
    obtain ⟨hadmits, hcheck⟩ | ⟨cause, hcheck, hrefuses⟩ := IntegerCheck.check_judges hc hname hgroups x
    · simp [hcheck, hadmits, Report.ofCause?]
    · simp only [hcheck, Report.ofCause?, List.cons_ne_nil, false_iff, not_exists, not_and]
      exact fun n hn => hrefuses.not_admits hn
  · rw [hvalidate, hvalidate, IntegerCheck.check_of_denotes hx, IntegerCheck.check_of_denotes hy]
  · rw [hvalidate]
    obtain ⟨⟨n, hn, hadmits⟩, hcheck⟩ | ⟨cause, hcheck, hrefuses⟩ := IntegerCheck.check_judges hc hname hgroups x
    · simp only [hcheck, Report.ofCause?, List.map_nil, List.nil_eq, List.cons_ne_nil, false_iff]
      exact fun hrefuses => hrefuses.not_admits hn hadmits
    · simp only [hcheck, Report.ofCause?, List.map_cons, List.map_nil, List.cons.injEq, and_true]
      constructor
      · rintro rfl
        exact hrefuses
      · exact hrefuses.unique

/-- A width in a param, a range with one open bracket, and a negative step put together of two groups. -/
theorem compile_integer_judges_step :
    let f := builtin { cache := false }
    let text := " @int < 7 > (-6,+60] {%-}{3} ?"
    ∃ r l inner, Rule.parse text = .ok r ∧ (f.compile text .any [.message "m"]).1 = .ok (.loader l) ∧
      l.inner = some inner ∧ r.AdmitsInt true 9 ∧ inner.validate (.uint 9) = inner.validate (.float 9) ∧
      inner.validate (.float 9) = [] ∧ r.RefusesValue true (.int (-6)) "out_of_range" ∧
      r.RefusesValue true (.uint 7) "multiple_of" ∧ r.RefusesValue true .null "unsupported_type" := by
  intro f text
  obtain ⟨r, hr, hname⟩ := @exists_of_toOption_any _ _ (Rule.parse text) (fun r => r.name = "int") (by decide +kernel)
  have hname : r.name = "int" := of_decide_eq_true hname
  have hcreator : Fields.get? f.registry r.name = some (.integer true) := by
    rw [hname]
    exact Registry.get?_builtin_iff.2 ⟨_, List.mem_append_left _ (List.mem_cons_self ..), by decide, rfl⟩
  have hcompiles : ((f.compile text .any [.message "m"]).1.toOption.any fun v => v.inner?.any fun inner =>
      decide (inner.validate (.int 9) = [] ∧
        (inner.validate (.int (-6))).map (·.cause.code) = ["out_of_range"] ∧
        (inner.validate (.uint 7)).map (·.cause.code) = ["multiple_of"] ∧
        (inner.validate .null).map (·.cause.code) = ["unsupported_type"])) = true := by
    decide +kernel
  obtain ⟨v, hv, hruns⟩ := exists_of_toOption_any hcompiles
  have hanew : f.AnswersAnew ⟨text, .any, [.message "m"]⟩ :=
    answersAnew_of_cache_eq_nil rfl (List.nodup_singleton _)
  obtain ⟨l, inner, rfl, hinner, hpasses, halike, hrefuses⟩ :=
    compile_integer_judges hanew hr ⟨"", by rw [hname]; rfl⟩ hcreator hv
  obtain ⟨schema, _, onEmpty, message?, codec?⟩ := l
  obtain rfl : _ = some inner := hinner
  obtain ⟨hnine, hlow, hseven, hnull⟩ := of_decide_eq_true hruns
  obtain ⟨n, hn, hadmits⟩ := (hpasses (.int 9)).1 hnine
  have hint : (Value.int 9).DenotesInt 9 := .int 9
  have huint : (Value.uint 9).DenotesInt 9 := .uint 9
  have hfloat : (Value.float 9).DenotesInt 9 := IntegerCheck.denoted?_eq_some_iff.1 (by decide +kernel)
  obtain rfl := hn.unique hint
  refine ⟨r, _, inner, hr, hv, rfl, hadmits, halike _ _ 9 huint hfloat,
    (hpasses _).2 ⟨9, hfloat, hadmits⟩, ?_, ?_, ?_⟩
  · exact (hrefuses _ _).1 hlow
  · exact (hrefuses _ _).1 hseven
  · exact (hrefuses _ _).1 hnull

end Factory

end FieldRules
