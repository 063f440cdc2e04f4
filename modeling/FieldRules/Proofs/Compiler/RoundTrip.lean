import FieldRules.Proofs.Compiler.Restore
import FieldRules.Proofs.Rule.RoundTrip

/-!
# Validators and their texts

What is compiled from a rule comes back, as the same validator, from its own text (`Env.compile_toText`). The
induction is over two things at once: over the schema, which says how the parts of a slice or map are
compiled, and where nothing is known of the parts any more, over the rule. Fields play no part in it, since a
struct is written without them and compiles them from their tags again.
-/

namespace FieldRules

mutual

/-- The names in a rule and the rules in its params. -/
def Rule.names : Rule → List String
  | ⟨_, name, params, _, _, _, _⟩ => name :: Param.namesAll params

/-- The names in the rule that a param may hold. -/
def Param.names : Param → List String
  | .blank | .literal _ => []
  | .rule r => r.names

/-- The names in the rules of params. -/
def Param.namesAll : List Param → List String
  | [] => []
  | p :: ps => p.names ++ Param.namesAll ps

end

/-- Whether a rule can be read, and names the floating-point family nowhere. -/
def Rule.IsExact (r : Rule) : Prop :=
  r.WellFormed ∧ ∀ name ∈ r.names, name ∉ Registry.floatNames

/-- Params whose rules are exact. -/
def Param.AllExact (ps : List Param) : Prop :=
  Param.AllWellFormed ps ∧ ∀ name ∈ Param.namesAll ps, name ∉ Registry.floatNames

private theorem Rule.IsExact.name {r : Rule} (h : r.IsExact) : r.name ∉ Registry.floatNames := by
  cases r
  exact h.2 _ (List.mem_cons_self ..)

private theorem Rule.IsExact.params {r : Rule} (h : r.IsExact) : Param.AllExact r.params := by
  obtain ⟨-, hparams, -⟩ := Rule.wellFormed_iff.1 h.1
  refine ⟨hparams, ?_⟩
  cases r
  exact fun name hname => h.2 name (List.mem_cons_of_mem _ hname)

theorem mem_of_paramRule {ps : List Param} {i : Nat} {r : Rule} (hr : paramRule ps i = .ok (some r)) :
    .rule r ∈ ps := by
  unfold paramRule at hr
  split at hr <;> cases hr
  next hi => exact List.mem_of_getElem? hi

private theorem Param.AllExact.of_paramRule {ps : List Param} (h : Param.AllExact ps) {i : Nat} {r : Rule}
    (hr : paramRule ps i = .ok (some r)) : .rule r ∈ ps ∧ r.IsExact := by
  have hmem := mem_of_paramRule hr
  refine ⟨hmem, Param.allWellFormed_iff.1 h.1 _ hmem, ?_⟩
  intro name hname
  refine h.2 name ?_
  -- Only where the param stands is left to say.
  clear h hr
  induction ps with
  | nil => cases hmem
  | cons p ps ih =>
    rcases List.mem_cons.1 hmem with rfl | hmem
    · exact List.mem_append_left _ hname
    · exact List.mem_append_right _ (ih hmem)

/-- A schema implies no rule at all, or one that is exact and leaves the rules for its parts open. -/
private theorem Schema.impliedRule_isExact (s : Schema) :
    s.impliedRule.name = "" ∨
      Rule.IsExact { s.impliedRule with presence := .optional } ∧ s.impliedRule.params = [] := by
  have hplain (name : String) (hname : IsName name) (hfloat : name ∉ Registry.floatNames) (range : Option Range)
      (hrange : ∀ rg ∈ range, rg.WellFormed) :
      Rule.IsExact { Rule.named name with range := range, presence := .optional } :=
    ⟨Rule.wellFormed_of_plain hname trivial hrange rfl rfl, fun _ h => List.mem_singleton.1 h ▸ hfloat⟩
  unfold impliedRule
  split
  · exact .inl rfl
  · exact .inr ⟨hplain "struct" (by decide) (by decide) none (by simp), rfl⟩
  · exact .inr ⟨hplain "slice" (by decide) (by decide) none (by simp), rfl⟩
  next n _ _ =>
    refine .inr ⟨hplain "slice" (by decide) (by decide) _ ?_, rfl⟩
    rintro _ ⟨⟩
    refine ⟨fun _ h => absurd h (Option.not_mem_none _), ?_⟩
    rintro _ ⟨⟩
    exact Text.isLiteral_digits n
  · exact .inr ⟨hplain "map" (by decide) (by decide) none (by simp), rfl⟩
  · exact .inl rfl

/-- A compiler of rules that repeats on every exact rule and on none. -/
def Faithful (compile : Option Rule → Compiled Validator) : Prop :=
  ∀ rule? : Option Rule, (∀ r ∈ rule?, r.IsExact) → Repeats compile rule?

namespace Site

variable {scope : Scope} {expand : Site Compiled → Schema → Option Rule → Compiled Validator}
  {site : Site Compiled} {s : Schema} {compile : Option Rule → Compiled Validator}

/-- A rule that is written down has a check. -/
theorem exists_of_inner {r : Rule} {v? : Option Validator} (hname : r.name ≠ "")
    (h : site.inner scope expand false r = .ok v?) : ∃ v, v? = some v := by
  cases hcreation : Fields.get? scope.registry r.name with
  | none =>
    cases r
    simp only [inner, hname, if_false, hcreation] at h
    cases h
  | some creation =>
    obtain ⟨same, anew, hinner⟩ := inner_eq expand site false hname hcreation
    rw [hinner, Bool.and_false] at h
    obtain ⟨v, -, hv⟩ := bind_eq_ok.1 h
    exact ⟨v, (Except.ok.inj hv).symm⟩

section

variable (hbuiltin : scope.registry = .builtin) (hsimplifies : scope.simplifies = true)
  (hcompile : ∀ r, compile (some r) = do load s (← site.inner scope expand false r) r none)

include hbuiltin hsimplifies hcompile

/-- A rule repeats where the rules in its params do. -/
private theorem repeats_some {r : Rule} (hr : r.IsExact)
    (hparts : ∀ i rule?, paramRule r.params i = .ok rule? →
      Repeats (part scope expand site.key?) rule? ∧ Repeats (part scope expand site.item?) rule?) :
    Repeats compile (some r) := by
  intro w hw
  rw [hcompile] at hw
  obtain ⟨v?, hinner, hload⟩ := bind_eq_ok.1 hw
  obtain ⟨v, rfl⟩ := exists_of_inner (Rule.wellFormed_iff.1 hr.1).1.isLiteral.1 hinner
  obtain ⟨r₀, hrestores⟩ := inner_restores hbuiltin hsimplifies hr.1 hr.name hparts hinner
  exact .inr (hrestores.reproduces hcompile hload)

/-- The rule that a schema implies repeats where no rule for the parts does. -/
private theorem repeats_none
    (himplied : compile none = do
      let r : Rule := { s.impliedRule with presence := .optional }
      load s (← site.inner scope expand true r) r none)
    (hkey : Repeats (part scope expand site.key?) none) (hitem : Repeats (part scope expand site.item?) none) :
    Repeats compile none := by
  intro w hw
  rw [himplied] at hw
  obtain ⟨v?, hinner, hload⟩ := bind_eq_ok.1 hw
  cases v? with
  | none =>
    -- The implied check would accept everything, and was left away.
    obtain ⟨policy, hpolicy, rfl⟩ := load_eq_ok_iff.1 hload
    obtain rfl : .pass = policy := Except.ok.inj hpolicy
    exact .inl ⟨rfl, rfl, rfl⟩
  | some v =>
    rcases s.impliedRule_isExact with hname | ⟨hexact, hparams⟩
    · simp only [inner, hname, if_true] at hinner
      cases Except.ok.inj hinner
    · have hparts : ∀ i rule?, paramRule s.impliedRule.params i = .ok rule? →
          Repeats (part scope expand site.key?) rule? ∧ Repeats (part scope expand site.item?) rule? := by
        intro i rule? hrule
        rw [hparams] at hrule
        obtain rfl := Except.ok.inj hrule
        exact ⟨hkey, hitem⟩
      obtain ⟨r₀, hrestores⟩ := inner_restores hbuiltin hsimplifies hexact.1 hexact.name hparts hinner
      exact .inr (hrestores.reproduces hcompile hload)

end

/-- Whether the compilers for the parts of a site are faithful. -/
def PartsFaithful (site : Site Compiled) : Prop :=
  (∀ compile ∈ site.key?, Faithful compile) ∧ ∀ compile ∈ site.item?, Faithful compile

private theorem partsFaithful_of_none (hkey : site.key? = none) (hitem : site.item? = none) : site.PartsFaithful :=
  ⟨by simp [hkey], by simp [hitem]⟩

/-- Of a schema that takes any value, no rule makes a check. -/
private theorem compile_any_none {n : Nat} {v : Validator}
    (h : (Site.compile scope n (leaf .any) .any none [] : Compiled Validator) = .ok v) :
    v.isNoop = true ∧ v.toText = "" := by
  cases n with
  | zero => cases h
  | succ n =>
    obtain ⟨v?, hinner, hload⟩ := bind_eq_ok.1 h
    obtain rfl : none = v? := Except.ok.inj hinner
    obtain ⟨policy, hpolicy, rfl⟩ := load_eq_ok_iff.1 hload
    obtain rfl : .pass = policy := Except.ok.inj hpolicy
    exact ⟨rfl, rfl⟩

mutual

/-- Without anything known of the parts, the recursion is over the rule. -/
private theorem any_repeats (hbuiltin : scope.registry = .builtin) (hsimplifies : scope.simplifies = true)
    (hnone : Repeats (compileParam scope expand (leaf .any) .any) none) :
    (r : Rule) → r.IsExact → Repeats (compileParam scope expand (leaf .any) .any) (some r)
  | ⟨raw, name, params, range, values, pattern, presence⟩, hr => by
    refine repeats_some hbuiltin hsimplifies (fun _ => rfl) hr ?_
    intro i rule? hrule
    have hpart : Repeats (compileParam scope expand (leaf .any) .any) rule? := by
      cases rule? with
      | none => exact hnone
      | some r =>
        obtain ⟨hmem, hexact⟩ := hr.params.of_paramRule hrule
        exact any_repeats_of_mem hbuiltin hsimplifies hnone params r hmem hexact
    exact ⟨hpart, hpart⟩

private theorem any_repeats_of_mem (hbuiltin : scope.registry = .builtin) (hsimplifies : scope.simplifies = true)
    (hnone : Repeats (compileParam scope expand (leaf .any) .any) none) :
    (ps : List Param) → ∀ r, .rule r ∈ ps → r.IsExact →
      Repeats (compileParam scope expand (leaf .any) .any) (some r)
  | [], r, hmem, _ => absurd hmem List.not_mem_nil
  | .blank :: ps, r, hmem, hexact | .literal _ :: ps, r, hmem, hexact => by
    rcases List.mem_cons.1 hmem with hp | hmem
    · cases hp
    · exact any_repeats_of_mem hbuiltin hsimplifies hnone ps r hmem hexact
  | .rule r' :: ps, r, hmem, hexact => by
    rcases List.mem_cons.1 hmem with hp | hmem
    · obtain rfl := Param.rule.inj hp.symm
      exact any_repeats hbuiltin hsimplifies hnone r' hexact
    · exact any_repeats_of_mem hbuiltin hsimplifies hnone ps r hmem hexact

end

/-- A site compiles faithfully where its parts do, whatever the schema implies. -/
private theorem compile_faithful (hbuiltin : scope.registry = .builtin) (hsimplifies : scope.simplifies = true)
    (hsite : site.PartsFaithful) (n : Nat) : Faithful fun rule => Site.compile scope n site s rule [] := by
  cases n with
  | zero =>
    intro rule? hrule v hv
    cases hv
  | succ n =>
    let expand (site : Site Compiled) (s : Schema) (rule : Option Rule) : Compiled Validator :=
      Site.compile scope n site s rule []
    have hnone : Repeats (compileParam scope expand (leaf .any) .any) none :=
      fun v hv => .inl ⟨rfl, compile_any_none hv⟩
    have hany : Faithful (compileParam scope expand (leaf .any) .any) := by
      intro rule? hrule
      cases rule? with
      | none => exact hnone
      | some r => exact any_repeats hbuiltin hsimplifies hnone r (hrule r rfl)
    have hpart (known? : Option (Option Rule → Compiled Validator))
        (hknown : ∀ compile ∈ known?, Faithful compile) :
        Faithful (part scope expand known?) := by
      cases known? with
      | none => exact hany
      | some compile => exact hknown compile rfl
    have hkey := hpart site.key? hsite.1
    have hitem := hpart site.item? hsite.2
    intro rule? hrule
    cases rule? with
    | none =>
      exact repeats_none hbuiltin hsimplifies (fun _ => rfl) rfl (hkey none (by simp)) (hitem none (by simp))
    | some r =>
      have hr := hrule r rfl
      refine repeats_some hbuiltin hsimplifies (fun _ => rfl) hr ?_
      intro i rule? hparam
      have hexact : ∀ r ∈ rule?, r.IsExact := by
        rintro r rfl
        exact (hr.params.of_paramRule hparam).2
      exact ⟨hkey rule? hexact, hitem rule? hexact⟩

end Site

mutual

private theorem Schema.compile_faithful {env : Env Compiled} (hbuiltin : env.registry = .builtin)
    (hsimplifies : env.simplifies = true) : (s : Schema) → Faithful fun rule => s.compile env rule []
  | ⟨shape, alias?, some codec, test⟩ => by
    simp only [Schema.compile]
    exact Site.compile_faithful hbuiltin hsimplifies (Site.partsFaithful_of_none rfl rfl) _
  | ⟨shape, alias?, none, test⟩ => by
    simp only [Schema.compile]
    exact Site.compile_faithful hbuiltin hsimplifies (Shape.site_faithful hbuiltin hsimplifies shape _) _

private theorem Schema.site_faithful {env : Env Compiled} (hbuiltin : env.registry = .builtin)
    (hsimplifies : env.simplifies = true) : (s : Schema) → (s.site env).PartsFaithful
  | ⟨shape, alias?, codec?, test⟩ => by
    simp only [Schema.site]
    exact Shape.site_faithful hbuiltin hsimplifies shape _

private theorem Shape.site_faithful {env : Env Compiled} (hbuiltin : env.registry = .builtin)
    (hsimplifies : env.simplifies = true) : (shape : Shape) → (s : Schema) → (shape.site env s).PartsFaithful
  | .pointer target, _ => by
    simp only [Shape.site]
    exact Schema.site_faithful hbuiltin hsimplifies target
  | .slice item, _ | .array item _, _ => by
    simp only [Shape.site]
    refine ⟨fun _ h => absurd h (Option.not_mem_none _), ?_⟩
    rintro _ ⟨⟩
    exact Schema.compile_faithful hbuiltin hsimplifies item
  | .map key item, _ => by
    simp only [Shape.site]
    constructor
    · rintro _ ⟨⟩
      exact Schema.compile_faithful hbuiltin hsimplifies key
    · rintro _ ⟨⟩
      exact Schema.compile_faithful hbuiltin hsimplifies item
  | .struct _, _ | .bool, _ | .int _, _ | .uint _, _ | .float _, _ | .string, _ | .any, _ => by
    simp only [Shape.site]
    exact Site.partsFaithful_of_none rfl rfl

end

/-! ### Texts -/

theorem readRule_eq_ok {text : String} {rule? : Option Rule}
    (h : (readRule text : Compiled (Option Rule)) = .ok rule?) :
    ∀ r ∈ rule?, Rule.parse text = .ok r := by
  unfold readRule at h
  split at h
  · obtain rfl := Except.ok.inj h
    simp
  · split at h
    next r hr =>
      obtain rfl := Except.ok.inj h
      rintro _ ⟨⟩
      exact hr
    · cases h

theorem wellFormed_of_readRule {text : String} {rule? : Option Rule}
    (h : (readRule text : Compiled (Option Rule)) = .ok rule?) : ∀ r ∈ rule?, r.WellFormed :=
  fun r hr => Rule.wellFormed_of_parse (readRule_eq_ok h r hr)

/-- The text of a well-formed rule is not blank, and holds the rule. -/
theorem readRule_toString {r : Rule} (h : r.WellFormed) :
    ∃ s, (readRule r.toString : Compiled (Option Rule)) = .ok (some s) ∧ s.bare = r.bare := by
  obtain ⟨s, hs, hbare⟩ := Rule.parse_toString h
  have hblank : Text.allBlank r.toString.toList = false := by
    rw [Rule.toString, String.toList_ofList]
    cases r
    rfl
  refine ⟨s, ?_, hbare⟩
  unfold readRule
  rw [hblank, hs]
  rfl

/-- What the plain compiler makes of a rule text, it makes of the text of the outcome again. -/
theorem compile_toText {keys : TagKeys} {rule : String} {s : Schema} {v : Validator}
    (hfloat : ∀ r, Rule.parse rule = .ok r → ∀ name ∈ r.names, name ∉ Registry.floatNames)
    (h : compile .builtin keys rule s [] = .ok v) : compile .builtin keys v.toText s [] = .ok v := by
  obtain ⟨rule?, hrule, hv⟩ := bind_eq_ok.1 h
  have hexact : ∀ r ∈ rule?, r.IsExact := by
    intro r hr
    have hparse := readRule_eq_ok hrule r hr
    exact ⟨Rule.wellFormed_of_parse hparse, hfloat r hparse⟩
  rcases Schema.compile_faithful rfl rfl s rule? hexact v hv with ⟨rfl, -, htext⟩ | ⟨-, r, hr⟩
  · rw [htext]
    exact bind_eq_ok.2 ⟨none, rfl, hv⟩
  · obtain ⟨r', hread, hbare⟩ := readRule_toString hr.wellFormed
    rw [hr.text]
    exact bind_eq_ok.2 ⟨some r', hread, hr.compile_eq hbare⟩

namespace Factory

/-- Rendering a validator and compiling its text again loses nothing, as long as its rule does not ask for
floating-point numbers: the outcome has the same text, reports the same violations of every value, and fills
in the same defaults. -/
theorem compile_toText_compile (config : Config) (hcache : config.cache = false) (rule : String) (s : Schema)
    (hfloat : ∀ r, Rule.parse rule = .ok r → ∀ name ∈ r.names, name ∉ Registry.floatNames) (v : Validator)
    (h : ((builtin config).compile rule s []).1 = .ok v) :
    ∃ v', ((builtin config).compile v.toText s []).1 = .ok v' ∧ v'.toText = v.toText ∧
      ∀ x, v'.validate x = v.validate x ∧ v'.fill x = v.fill x := by
  have hplain (rule : String) : ((builtin config).compile rule s []).1 =
      FieldRules.compile .builtin config.tagKeys rule s [] := by
    simp only [Factory.compile, builtin, hcache, Bool.false_eq_true, if_false]
  rw [hplain] at h
  refine ⟨v, ?_, rfl, fun x => ⟨rfl, rfl⟩⟩
  rw [hplain]
  exact compile_toText hfloat h

/-- Two groups become one, the range of one length a single value, and the rule for the items is written out. -/
theorem compile_toText_compile_nested :
    let entry := Schema.struct "entry" [(Field.plain "n" (.int 64)).withRule "@int8(0,5]"]
    let s := Schema.map .string (.slice entry)
    ∃ v, ((builtin { cache := false }).compile "@map<@char{a}{b,c},>[2,2] ?" s []).1 = .ok v ∧
      v.toText = "@map<@string<chars>{ab,ac},@slice<@struct?>?>[2]?" ∧
      ∃ v', ((builtin { cache := false }).compile v.toText s []).1 = .ok v' ∧ v'.toText = v.toText ∧
        ∀ x, v'.validate x = v.validate x ∧ v'.fill x = v.fill x := by
  intro entry s
  have hcompiles : (((builtin { cache := false }).compile "@map<@char{a}{b,c},>[2,2] ?" s []).1.toOption.any
      fun v => decide (v.toText = "@map<@string<chars>{ab,ac},@slice<@struct?>?>[2]?")) = true := by
    decide +kernel
  have hnames : ((Rule.parse "@map<@char{a}{b,c},>[2,2] ?").toOption.all
      fun r => decide (∀ name ∈ r.names, name ∉ Registry.floatNames)) = true := by
    decide +kernel
  have hfloat : ∀ r, Rule.parse "@map<@char{a}{b,c},>[2,2] ?" = .ok r →
      ∀ name ∈ r.names, name ∉ Registry.floatNames := by
    intro r hr
    rw [hr] at hnames
    exact of_decide_eq_true hnames
  cases hv : ((builtin { cache := false }).compile "@map<@char{a}{b,c},>[2,2] ?" s []).1 with
  | error e =>
    rw [hv] at hcompiles
    cases hcompiles
  | ok v =>
    rw [hv] at hcompiles
    exact ⟨v, rfl, of_decide_eq_true hcompiles,
      compile_toText_compile { cache := false } rfl _ s hfloat v hv⟩

end Factory

end FieldRules
