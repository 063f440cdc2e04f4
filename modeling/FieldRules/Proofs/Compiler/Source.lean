import FieldRules.Proofs.Compiler.Plain

/-!
# Compiling without source texts

What a rule is compiled to does not depend on the texts that it and the rules in its params were read from. Each step
of the plain compiler does the same for `Rule.bare r` as for `r`, errors included, because these show the canonical
text (`Rule.toString_bare`). The result for a whole schema is `Schema.compile_eq_of_bare_eq`.
-/

namespace FieldRules

/-! ### The parts of a rule -/

@[simp]
theorem Rule.toString_bare (r : Rule) : r.bare.toString = r.toString := by
  rw [Rule.toString, Rule.toString, Rule.text_bare]

@[simp]
theorem Rule.name_bare (r : Rule) : r.bare.name = r.name := by
  cases r; rfl

@[simp]
theorem Rule.params_bare (r : Rule) : r.bare.params = r.params.map Param.bare := by
  cases r; exact Param.bareAll_eq_map _

@[simp]
theorem Rule.range_bare (r : Rule) : r.bare.range = r.range := by
  cases r; rfl

@[simp]
theorem Rule.pattern_bare (r : Rule) : r.bare.pattern = r.pattern := by
  cases r; rfl

@[simp]
theorem Rule.presence_bare (r : Rule) : r.bare.presence = r.presence := by
  cases r; rfl

@[simp]
theorem Rule.computedValues_bare (r : Rule) : r.bare.computedValues = r.computedValues := by
  cases r; rfl

/-- Modifiers do the same to a rule with and without its source texts. -/
private theorem Modifier.foldl_apply_bare (mods : List Modifier) (r : Rule) :
    mods.foldl Modifier.apply r.bare = (mods.foldl Modifier.apply r).bare := by
  induction mods generalizing r with
  | nil => rfl
  | cons m mods ih =>
    rw [List.foldl_cons, List.foldl_cons, ← ih]
    cases r
    cases m <;> rfl

@[simp]
theorem paramRule_bare (params : List Param) (i : Nat) :
    paramRule (params.map Param.bare) i = (paramRule params i).map (Option.map Rule.bare) := by
  unfold paramRule
  rw [List.getElem?_map]
  cases params[i]? with
  | none => rfl
  | some p => cases p <;> rfl

private theorem orInvalid_bare {α : Type} (r : Rule) (x : Except Defect α) :
    (orInvalid r.bare x : Compiled α) = orInvalid r x := by
  cases x with
  | error defect => simp only [orInvalid, Rule.toString_bare]
  | ok a => rfl

private theorem Section.refuse_bare (r : Rule) (parts : List Section) :
    Section.refuse r.bare parts = Section.refuse r parts := by
  induction parts with
  | nil => rfl
  | cons part parts ih =>
    have hisIn : part.isIn r.bare = part.isIn r := by
      cases r
      cases part <;> simp [Section.isIn, Rule.bare, Param.bareAll_eq_map]
    simp only [Section.refuse, hisIn, ih, Rule.name_bare]

/-! ### The families of checks -/

private theorem IntegerCheck.ofRule?_bare (signed : Bool) (r : Rule) : ofRule? signed r.bare = ofRule? signed r := by
  have hwidth (width : Nat) : widthOfParams width (r.params.map Param.bare) = widthOfParams width r.params := by
    rcases r.params with _ | ⟨p, _ | ⟨q, ps⟩⟩
    · rfl
    · cases p <;> rfl
    · cases p <;> rfl
  simp only [ofRule?, Section.refuse_bare, Rule.name_bare, Rule.params_bare, Rule.range_bare,
    Rule.computedValues_bare, hwidth]

private theorem FloatCheck.ofRule?_bare (r : Rule) : ofRule? r.bare = ofRule? r := by
  have hdigits (i : Nat) : digitParam r.bare i = digitParam r i := by
    simp only [digitParam, Rule.params_bare, List.getElem?_map]
    cases r.params[i]? with
    | none => rfl
    | some p => cases p <;> rfl
  simp only [ofRule?, Section.refuse_bare, Rule.name_bare, Rule.params_bare, List.length_map, Rule.range_bare,
    Rule.computedValues_bare, hdigits]

private theorem TextCheck.ofRule?_bare (r : Rule) : ofRule? r.bare = ofRule? r := by
  have hunit (unit : LengthUnit) : unitOfParams unit (r.params.map Param.bare) = unitOfParams unit r.params := by
    rcases r.params with _ | ⟨p, _ | ⟨q, ps⟩⟩
    · rfl
    · cases p <;> rfl
    · cases p <;> rfl
  simp only [ofRule?, Rule.name_bare, Rule.params_bare, Rule.range_bare, Rule.pattern_bare, Rule.computedValues_bare,
    hunit]

namespace Site

private theorem expect_bare (site : Site Compiled) (r : Rule) (kinds : List Kind) :
    site.expect r.bare kinds = site.expect r kinds := by
  simp only [expect, Rule.toString_bare]

/-- A creator does not look at source texts, given the ways to compile the parts. -/
private theorem create_bare (scope : Scope) (site : Site Compiled) (r : Rule)
    (key item same : Nat → Compiled Validator) (anew : Rule → Compiled Validator) (creation : Creation) :
    site.create scope r.bare key item same anew creation = site.create scope r key item same anew creation := by
  cases creation <;>
    simp only [create, Site.slice, Site.map, Site.struct, Site.format, expect_bare, orInvalid_bare,
      IntegerCheck.ofRule?_bare, FloatCheck.ofRule?_bare, TextCheck.ofRule?_bare, Section.refuse_bare,
      Rule.params_bare, List.length_map, Rule.range_bare, Rule.toString_bare]

end Site

/-! ### Loaders -/

private theorem emptyPolicy_bare (s : Schema) (inner : Option Validator) (r : Rule) :
    (emptyPolicy s inner r.bare : Compiled EmptyPolicy) = emptyPolicy s inner r := by
  simp only [emptyPolicy, Rule.presence_bare, Rule.toString_bare]

private theorem load_bare (s : Schema) (inner : Option Validator) (r : Rule) (message? : Option String) :
    (load s inner r.bare message? : Compiled Validator) = load s inner r message? := by
  simp only [load, emptyPolicy_bare]

/-! ### Rules at sites -/

/-- Something that compiles rules and does not look at their source texts. -/
def IgnoresSource (compile : Option Rule → Compiled Validator) : Prop :=
  ∀ rule?, compile (rule?.map Rule.bare) = compile rule?

/-- A site whose parts compile rules without looking at source texts. -/
structure Site.IgnoresSource (site : Site Compiled) : Prop where
  item : ∀ compile ∈ site.item?, FieldRules.IgnoresSource compile
  key : ∀ compile ∈ site.key?, FieldRules.IgnoresSource compile

namespace Site

private theorem ignoresSource_leaf (s : Schema) : (leaf s).IgnoresSource :=
  ⟨nofun, nofun⟩

private theorem IgnoresSource.own {site : Site Compiled} (h : site.IgnoresSource) : site.own.IgnoresSource := by
  unfold Site.own
  split
  · exact ignoresSource_leaf _
  · exact h

variable {scope : Scope} {expand : Site Compiled → Schema → Option Rule → Compiled Validator}

private theorem partAt_bare {compile : Option Rule → Compiled Validator} (r : Rule) (i : Nat)
    (h : ∀ rule?, paramRule r.params i = .ok rule? → compile (rule?.map Rule.bare) = compile rule?) :
    partAt r.bare compile i = partAt r compile i := by
  simp only [partAt, orInvalid_bare, Rule.params_bare, paramRule_bare]
  cases hparam : paramRule r.params i with
  | error defect => rfl
  | ok rule? => exact h rule? hparam

mutual

private theorem inner_bare (hexpand : ∀ site s, site.IgnoresSource → FieldRules.IgnoresSource (expand site s))
    {site : Site Compiled} (hsite : site.IgnoresSource) (inferred : Bool) : (r : Rule) →
    site.inner scope expand inferred r.bare = site.inner scope expand inferred r
  | ⟨raw, name, params, range, values, pattern, presence⟩ => by
    let r : Rule := ⟨raw, name, params, range, values, pattern, presence⟩
    change site.inner scope expand inferred r.bare = site.inner scope expand inferred r
    by_cases hname : name = ""
    · simp only [r, Rule.bare, inner, hname, if_true]
    cases hcreation : Fields.get? scope.registry name with
    | none => simp only [r, Rule.bare, inner, hname, if_false, hcreation]
    | some creation =>
      have hparam (site : Site Compiled) (hsite : site.IgnoresSource) (s : Schema) (i : Nat) :
          partAt r.bare (compileParam scope expand site s) i = partAt r (compileParam scope expand site s) i := by
        refine partAt_bare r i fun rule? hrule => ?_
        cases rule? with
        | none => rfl
        | some p => exact compileParam_bare_of_mem hexpand hsite s params p (mem_of_paramRule hrule)
      have hpart (known? : Option (Option Rule → Compiled Validator))
          (hknown : ∀ compile ∈ known?, FieldRules.IgnoresSource compile) (i : Nat) :
          partAt r.bare (part scope expand known?) i = partAt r (part scope expand known?) i := by
        cases known? with
        | none => exact hparam _ (ignoresSource_leaf _) _ i
        | some compile => exact partAt_bare r i fun rule? _ => hknown compile rfl rule?
      rw [inner_eq_create expand site inferred (r := r.bare) hname hcreation,
        inner_eq_create expand site inferred (r := r) hname hcreation, create_bare,
        funext (hpart _ hsite.key), funext (hpart _ hsite.item), funext (hparam _ hsite.own _)]

private theorem compileParam_bare_of_mem
    (hexpand : ∀ site s, site.IgnoresSource → FieldRules.IgnoresSource (expand site s)) {site : Site Compiled}
    (hsite : site.IgnoresSource) (s : Schema) : (params : List Param) → ∀ p, .rule p ∈ params →
    compileParam scope expand site s (some p.bare) = compileParam scope expand site s (some p)
  | [], p, hmem => absurd hmem List.not_mem_nil
  | .blank :: params, p, hmem | .literal _ :: params, p, hmem => by
    rcases List.mem_cons.1 hmem with hp | hmem
    · cases hp
    · exact compileParam_bare_of_mem hexpand hsite s params p hmem
  | .rule r :: params, p, hmem => by
    rcases List.mem_cons.1 hmem with hp | hmem
    · obtain rfl := Param.rule.inj hp.symm
      simp only [compileParam, inner_bare hexpand hsite false r, load_bare]
    · exact compileParam_bare_of_mem hexpand hsite s params p hmem

end

private theorem compile_bare (scope : Scope) (n : Nat) : ∀ {site : Site Compiled} (s : Schema) (mods : List Modifier),
    site.IgnoresSource → FieldRules.IgnoresSource fun rule? => Site.compile scope n site s rule? mods := by
  induction n with
  | zero =>
    intro site s mods hsite rule?
    cases rule? with
    | none => rfl
    | some r => simp only [Site.compile, Option.map_some, Option.getD_some, Rule.toString_bare]
  | succ n ih =>
    intro site s mods hsite rule?
    cases rule? with
    | none => rfl
    | some r =>
      have hexpand (site : Site Compiled) (s : Schema) (hsite : site.IgnoresSource) := ih s [] hsite
      simp only [Site.compile, Option.map_some, Option.getD_some, Option.isNone_some, Modifier.foldl_apply_bare,
        inner_bare hexpand hsite, load_bare]

end Site

/-! ### Schemas -/

mutual

private theorem Schema.compile_bare (scope : Scope) : (s : Schema) → ∀ mods,
    IgnoresSource fun rule? => s.compile (.plain scope) rule? mods
  | ⟨shape, alias?, some codec, test⟩, mods => by
    simp only [Schema.compile]
    exact Site.compile_bare scope _ _ mods (Site.ignoresSource_leaf _)
  | ⟨shape, alias?, none, test⟩, mods => by
    simp only [Schema.compile]
    exact Site.compile_bare scope _ _ mods (Shape.site_ignoresSource scope shape _)

private theorem Schema.site_ignoresSource (scope : Scope) : (s : Schema) → (s.site (.plain scope)).IgnoresSource
  | ⟨shape, alias?, codec?, test⟩ => by
    simp only [Schema.site]
    exact Shape.site_ignoresSource scope shape _

private theorem Shape.site_ignoresSource (scope : Scope) : (shape : Shape) → ∀ s,
    (shape.site (.plain scope) s).IgnoresSource
  | .pointer target, _ => by
    simp only [Shape.site]
    exact Schema.site_ignoresSource scope target
  | .slice item, _ | .array item _, _ => by
    simp only [Shape.site]
    refine ⟨?_, nofun⟩
    rintro _ ⟨⟩
    exact Schema.compile_bare scope item []
  | .map key item, _ => by
    simp only [Shape.site]
    constructor
    · rintro _ ⟨⟩
      exact Schema.compile_bare scope item []
    · rintro _ ⟨⟩
      exact Schema.compile_bare scope key []
  | .struct _, _ | .bool, _ | .int _, _ | .uint _, _ | .float _, _ | .string, _ | .any, _ => ⟨nofun, nofun⟩

end

/-- Two rules that differ in source texts only are compiled alike. -/
theorem Schema.compile_eq_of_bare_eq {scope : Scope} {r t : Rule} (h : r.bare = t.bare) (s : Schema)
    (mods : List Modifier) :
    s.compile (.plain scope) (some r) mods = s.compile (.plain scope) (some t) mods := by
  have hbare (r : Rule) : s.compile (.plain scope) (some r.bare) mods = s.compile (.plain scope) (some r) mods :=
    s.compile_bare scope mods (some r)
  rw [← hbare r, h, hbare t]

end FieldRules
