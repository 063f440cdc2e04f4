import FieldRules.Proofs.Compiler.Direct
import FieldRules.Proofs.Compiler.Filling
import FieldRules.Proofs.Compiler.Plain
import FieldRules.Proofs.Schema.Inline
import FieldRules.Proofs.Validator.Settling

/-!
# Flattened structs

A struct whose embedded fields are flattened is compiled as the struct that declares their fields itself: the checks
are the same but for the embedded fields on the way (`Schema.checkOf_inlined`). These make no difference in values
that have no struct under their names, also when defaults are filled in on the way (`FieldCheck.walkAll_through`).
-/

namespace FieldRules

/-- The check in a loader. -/
def Validator.inner? : Validator → Option Validator
  | .loader l => l.inner
  | _ => none

/-- Whether a value has no struct under some names. -/
def Value.FlatAt (names : List String) (x : Value) : Prop :=
  ∀ n ∈ names, ∀ inner, x.get? n ≠ some (.struct inner)

/-- Whether two checks are the same, but for embedded fields with names from a list that the first one goes
through. -/
structure FieldCheck.Through (names : List String) (c d : FieldCheck) : Prop where
  access : ∃ steps, (∀ n ∈ steps, n ∈ names) ∧ c.access = steps ++ d.access
  name : c.name = d.name
  label : c.label = d.label
  validator : c.validator = d.validator

/-- Whether two checks are the same, or are of structs and have the same checks of declared fields, but for embedded
fields that these go through. -/
inductive SameInner (names declared : List String) : Option Validator → Option Validator → Prop
  | refl (inner : Option Validator) : SameInner names declared inner inner
  | struct {checks checks' : List FieldCheck} (same : List.Forall₂ (FieldCheck.Through names) checks checks')
      (fields : ∀ c ∈ checks, c.name ∈ declared) :
      SameInner names declared (some (.struct checks)) (some (.struct checks'))

variable {scope : Scope} {names : List String} {checks checks' : List FieldCheck}

/-! ### Compiling -/

private theorem FieldAt.Through.compile {a b : FieldAt} (h : a.Through names b) :
    (∀ c, a.compile scope = .ok c → ∃ d, b.compile scope = .ok d ∧ c.Through names d) ∧
      ∀ d, b.compile scope = .ok d → ∃ c, a.compile scope = .ok c ∧ c.Through names d := by
  obtain ⟨steps, hsteps, rfl⟩ := h
  constructor
  · intro c hc
    obtain ⟨hread, hcompile, haccess, hname, hlabel⟩ := FieldAt.compile_eq_ok_iff.1 hc
    refine ⟨⟨b.access, c.name, c.label, c.validator⟩, ?_, ⟨steps, hsteps, haccess⟩, rfl, rfl, rfl⟩
    exact FieldAt.compile_eq_ok_iff.2 ⟨hread, hcompile, rfl, hname, hlabel⟩
  · intro d hd
    obtain ⟨hread, hcompile, haccess, hname, hlabel⟩ := FieldAt.compile_eq_ok_iff.1 hd
    refine ⟨⟨steps ++ d.access, d.name, d.label, d.validator⟩, ?_, ⟨steps, hsteps, rfl⟩, rfl, rfl, rfl⟩
    exact FieldAt.compile_eq_ok_iff.2 ⟨hread, hcompile, by rw [haccess]; rfl, hname, hlabel⟩

/-- Lists of fields compile alike when their fields do, one by one. -/
private theorem FieldAt.CompileTo.of_forall₂ {R : FieldAt → FieldAt → Prop} {S : FieldCheck → FieldCheck → Prop}
    (hR : ∀ a b, R a b → ∀ c, a.compile scope = .ok c → ∃ d, b.compile scope = .ok d ∧ S c d)
    (hS : ∀ c d, S c d → c.validator = d.validator) {as bs : List FieldAt} (h : List.Forall₂ R as bs)
    (hchecks : FieldAt.CompileTo scope as checks) :
    ∃ checks', FieldAt.CompileTo scope bs checks' ∧ List.Forall₂ S checks checks' := by
  induction h generalizing checks with
  | nil =>
    rw [FieldAt.compileTo_nil] at hchecks
    subst hchecks
    exact ⟨[], FieldAt.compileTo_nil.2 rfl, .nil⟩
  | @cons a b as bs hab _ ih =>
    rw [← List.singleton_append, FieldAt.compileTo_append] at hchecks
    obtain ⟨cs, ds, hcs, hds, rfl⟩ := hchecks
    obtain ⟨c, hc, rfl⟩ := FieldAt.compileTo_singleton.1 hcs
    obtain ⟨d, hd, hcd⟩ := hR a b hab c hc
    obtain ⟨ds', hds', hrest⟩ := ih hds
    refine ⟨[d].filter scope.retains ++ ds', ?_, List.rel_append ?_ hrest⟩
    · rw [← List.singleton_append, FieldAt.compileTo_append]
      exact ⟨_, ds', FieldAt.compileTo_singleton.2 ⟨d, hd, rfl⟩, hds', rfl⟩
    · have hretains : scope.retains c = scope.retains d := by rw [Scope.retains, Scope.retains, hS c d hcd]
      by_cases hkept : scope.retains d = true
      · rw [List.filter_cons_of_pos (hretains ▸ hkept), List.filter_cons_of_pos hkept]
        exact .cons hcd .nil
      · rw [List.filter_cons_of_neg (hretains ▸ hkept), List.filter_cons_of_neg hkept]
        exact .nil

private theorem FieldAt.CompileTo.through {as bs : List FieldAt} (h : List.Forall₂ (FieldAt.Through names) as bs)
    (hchecks : FieldAt.CompileTo scope as checks) :
    ∃ checks', FieldAt.CompileTo scope bs checks' ∧ List.Forall₂ (FieldCheck.Through names) checks checks' :=
  hchecks.of_forall₂ (fun _ _ hab => FieldAt.Through.compile hab |>.1) (fun _ _ hcd => hcd.validator) h

private theorem FieldAt.CompileTo.of_through {as bs : List FieldAt} (h : List.Forall₂ (FieldAt.Through names) as bs)
    (hchecks : FieldAt.CompileTo scope bs checks') :
    ∃ checks, FieldAt.CompileTo scope as checks ∧ List.Forall₂ (FieldCheck.Through names) checks checks' := by
  obtain ⟨checks, has, hsame⟩ := hchecks.of_forall₂ (S := fun d c => c.Through names d)
    (fun _ _ hab => (FieldAt.Through.compile hab).2) (fun _ _ hcd => hcd.validator.symm) h.flip
  exact ⟨checks, has, hsame.flip⟩

/-- The checks of fields look at the names of these. -/
private theorem FieldAt.CompileTo.name_mem {fields : List FieldAt} (h : FieldAt.CompileTo scope fields checks) :
    ∀ c ∈ checks, c.name ∈ fields.map fun a => a.field.name := by
  obtain ⟨all, hall, rfl⟩ := h
  intro c hc
  obtain ⟨a, ha, hcompile⟩ := mapM_eq_ok hall c (List.mem_filter.1 hc).1
  obtain ⟨-, -, -, hname, -⟩ := FieldAt.compile_eq_ok_iff.1 hcompile
  exact List.mem_map.2 ⟨a, ha, hname.symm⟩

private theorem SameInner.of_isEmpty {declared : List String}
    (h : List.Forall₂ (FieldCheck.Through names) checks checks') (hfields : ∀ c ∈ checks, c.name ∈ declared)
    (simplifies : Bool) :
    SameInner names declared (if simplifies && checks.isEmpty then none else some (.struct checks))
      (if simplifies && checks'.isEmpty then none else some (.struct checks')) := by
  cases h with
  | nil => exact .refl _
  | cons hfirst hrest =>
    simp only [List.isEmpty_cons, Bool.and_false, Bool.false_eq_true, if_false]
    exact .struct (.cons hfirst hrest) hfields

private theorem FieldCheck.map_label_through (h : List.Forall₂ (FieldCheck.Through names) checks checks') :
    checks.map FieldCheck.label = checks'.map FieldCheck.label := by
  induction h with
  | nil => rfl
  | cons hcd _ ih => rw [List.map_cons, List.map_cons, hcd.label, ih]

private theorem SameInner.fieldLabels {declared : List String} {inner inner' : Option Validator}
    (h : SameInner names declared inner inner') :
    inner.map Validator.fieldLabels = inner'.map Validator.fieldLabels := by
  cases h with
  | refl => rfl
  | struct hsame _ => exact congrArg some (FieldCheck.map_label_through hsame)

variable (chosen : Field → Bool) {rule? : Option Rule} {mods : List Modifier}

namespace Schema

/-- The names of the fields of a struct that are checked for themselves. -/
def declaredNames (keys : TagKeys) (s : Schema) : List String :=
  (s.flatFields keys []).map fun a => a.field.name

/-- A rule has the same check for a struct and for the one with embedded fields declared in place. -/
theorem checkOf_inlined (hdirect : scope.registry.Direct) (s : Schema) (inferred : Bool) (r : Rule) :
    (∀ inner, s.seen.checkOf scope inferred r = .ok inner →
      ∃ inner', (s.inlined scope.keys chosen).seen.checkOf scope inferred r = .ok inner' ∧
        SameInner (s.inlinedNames scope.keys chosen) (s.declaredNames scope.keys) inner inner') ∧
    ∀ inner', (s.inlined scope.keys chosen).seen.checkOf scope inferred r = .ok inner' →
      ∃ inner, s.seen.checkOf scope inferred r = .ok inner ∧
        SameInner (s.inlinedNames scope.keys chosen) (s.declaredNames scope.keys) inner inner' := by
  have hfields := s.flatFields_inlined scope.keys chosen
  obtain ⟨shape, alias?, codec?, test⟩ := s
  cases codec? with
  | some codec =>
    -- The rule looks at a text in either case.
    cases shape <;> exact ⟨fun inner h => ⟨inner, h, .refl _⟩, fun inner h => ⟨inner, h, .refl _⟩⟩
  | none =>
    cases shape with
    | struct fields =>
      have hkind : (Schema.target ⟨.struct fields, alias?, none, test⟩).kind = .struct := rfl
      have hkind' : (Schema.target ⟨.struct (Field.inlined scope.keys chosen fields), alias?, none, test⟩).kind =
        .struct := rfl
      constructor
      · intro inner h
        rcases (checkOf_struct_eq_ok_iff hdirect hkind).1 h with
          hblank | ⟨hname, hcreation, hrefuse, checks, hchecks, rfl⟩
        · exact ⟨inner, (checkOf_struct_eq_ok_iff hdirect hkind').2 (.inl hblank), .refl _⟩
        · obtain ⟨checks', hchecks', hsame⟩ := hchecks.through hfields
          refine ⟨_, (checkOf_struct_eq_ok_iff hdirect hkind').2 (.inr ?_), .of_isEmpty hsame hchecks.name_mem _⟩
          exact ⟨hname, hcreation, hrefuse, checks', hchecks', rfl⟩
      · intro inner h
        rcases (checkOf_struct_eq_ok_iff hdirect hkind').1 h with
          hblank | ⟨hname, hcreation, hrefuse, checks', hchecks', rfl⟩
        · exact ⟨inner, (checkOf_struct_eq_ok_iff hdirect hkind).2 (.inl hblank), .refl _⟩
        · obtain ⟨checks, hchecks, hsame⟩ := hchecks'.of_through hfields
          refine ⟨_, (checkOf_struct_eq_ok_iff hdirect hkind).2 (.inr ?_), .of_isEmpty hsame hchecks.name_mem _⟩
          exact ⟨hname, hcreation, hrefuse, checks, hchecks, rfl⟩
    | _ => exact ⟨fun inner h => ⟨inner, h, .refl _⟩, fun inner h => ⟨inner, h, .refl _⟩⟩

private theorem inlined_codec? (keys : TagKeys) (s : Schema) : (s.inlined keys chosen).codec? = s.codec? := by
  obtain ⟨shape, alias?, codec?, test⟩ := s
  cases shape <;> rfl

private theorem inlined_ruleFor (keys : TagKeys) (s : Schema) :
    (s.inlined keys chosen).ruleFor rule? mods = s.ruleFor rule? mods := by
  obtain ⟨shape, alias?, codec?, test⟩ := s
  cases shape <;> cases codec? <;> rfl

private theorem inlined_deemsEmpty (keys : TagKeys) (s : Schema) (x : Value) :
    (s.inlined keys chosen).deemsEmpty x = s.deemsEmpty x := by
  obtain ⟨shape, alias?, codec?, test⟩ := s
  cases shape <;> rfl

/-- Without a default, the policy for empty values is a matter of the rule alone. -/
private theorem emptyPolicy_congr {s t : Schema} {inner inner' : Option Validator} {r : Rule}
    (h : ∀ text, r.presence ≠ .default text) :
    (emptyPolicy s inner r : Compiled EmptyPolicy) = emptyPolicy t inner' r := by
  unfold emptyPolicy
  cases hpresence : r.presence with
  | required | optional => rfl
  | default text => exact absurd hpresence (h text)

/-- Whether two validators are loaders for a struct and for the one with embedded fields declared in place, which have
the same check and treat empty values alike. -/
def SameLoader (keys : TagKeys) (chosen : Field → Bool) (s : Schema) (v w : Validator) : Prop :=
  ∃ inner inner' policy message? codec?, v = .loader ⟨s, inner, policy, message?, codec?⟩ ∧
    w = .loader ⟨s.inlined keys chosen, inner', policy, message?, codec?⟩ ∧
    SameInner (s.inlinedNames keys chosen) (s.declaredNames keys) inner inner'

/-- A rule without a default becomes the same validator for a struct and for the one with embedded fields declared in
place. -/
private theorem compile_sameLoader (hdirect : scope.registry.Direct) (s : Schema)
    (hpresence : ∀ text, (s.ruleFor rule? mods).presence ≠ .default text) :
    (∀ v, s.compile (.plain scope) rule? mods = .ok v →
      ∃ w, (s.inlined scope.keys chosen).compile (.plain scope) rule? mods = .ok w ∧
        s.SameLoader scope.keys chosen v w) ∧
    ∀ w, (s.inlined scope.keys chosen).compile (.plain scope) rule? mods = .ok w →
      ∃ v, s.compile (.plain scope) rule? mods = .ok v ∧ s.SameLoader scope.keys chosen v w := by
  obtain ⟨hforth, hback⟩ := checkOf_inlined chosen hdirect s rule?.isNone (s.ruleFor rule? mods)
  constructor
  · intro v hv
    obtain ⟨inner, policy, hinner, hpolicy, rfl⟩ := compile_eq_ok_iff.1 hv
    obtain ⟨inner', hinner', hsame⟩ := hforth inner hinner
    rw [emptyPolicy_congr hpresence] at hpolicy
    refine ⟨_, compile_eq_ok_iff.2 ⟨inner', policy, ?_, ?_, rfl⟩, inner, inner', policy, _, s.codec?, rfl, ?_, hsame⟩
    · rwa [inlined_ruleFor]
    · rwa [inlined_ruleFor]
    · rw [inlined_codec?]
  · intro w hw
    obtain ⟨inner', policy, hinner', hpolicy, rfl⟩ := compile_eq_ok_iff.1 hw
    rw [inlined_ruleFor] at hinner' hpolicy
    obtain ⟨inner, hinner, hsame⟩ := hback inner' hinner'
    rw [emptyPolicy_congr hpresence] at hpolicy
    refine ⟨_, compile_eq_ok_iff.2 ⟨inner, policy, hinner, hpolicy, rfl⟩, inner, inner', policy, _, s.codec?, rfl, ?_,
      hsame⟩
    rw [inlined_codec?]

end Schema

/-! ### Walking -/

namespace Walk

variable {α : Type} {fields : Fields Value} {steps : List String}

/-- Embedded fields that hold no struct are passed by. -/
private theorem within_of_not_structs {f : Fields Value → α × Fields Value}
    (h : ∀ n ∈ steps, ∀ inner, fields.get? n ≠ some (.struct inner)) (access : List String) :
    within f (steps ++ access) fields = within f access fields := by
  induction steps with
  | nil => rfl
  | cons step steps ih =>
    obtain ⟨hstep, hsteps⟩ := List.forall_mem_cons.1 h
    rw [List.cons_append, within_of_not_struct fun ⟨inner, hinner⟩ => hstep inner hinner, ih hsteps]

end Walk

/-- Walking a field puts no struct under other names. -/
private theorem Value.FlatAt.within {walk : Slot → Report × Slot} {name : String} (hname : name ∉ names)
    (access : List String) {fields : Fields Value} (h : (Value.struct fields).FlatAt names) :
    (Value.struct (Walk.within (Walk.field walk name) access fields).2).FlatAt names := by
  intro n hn inner hinner
  have hne : name ≠ n := fun hsame => hname (hsame ▸ hn)
  have hsame := Walk.get?_within_of_not_struct walk hne access fun ⟨inner, hinner⟩ => h n hn inner hinner
  exact h n hn inner (hsame.symm.trans hinner)

/-- Checks that go through more embedded fields do the same to fields without a struct under their names, as long as
the fields that are checked have other names. -/
theorem FieldCheck.walkAll_through (h : List.Forall₂ (FieldCheck.Through names) checks checks')
    (hnames : ∀ c ∈ checks, c.name ∉ names) (fills : Bool) {fields : Fields Value}
    (hflat : (Value.struct fields).FlatAt names) :
    FieldCheck.walkAll fills checks fields = FieldCheck.walkAll fills checks' fields := by
  induction h generalizing fields with
  | nil => rfl
  | @cons c d checks checks' hcd _ ih =>
    obtain ⟨access, name, label, validator⟩ := c
    obtain ⟨access', name', label', validator'⟩ := d
    obtain ⟨⟨steps, hsteps, haccess⟩, hsameName, hsameLabel, hsameValidator⟩ := hcd
    simp only at haccess hsameName hsameLabel hsameValidator
    subst haccess hsameName hsameLabel hsameValidator
    obtain ⟨hname, hnames⟩ := List.forall_mem_cons.1 hnames
    have hpassed : Walk.within (Walk.field (validator.walk fills) name) (steps ++ access') fields =
        Walk.within (Walk.field (validator.walk fills) name) access' fields :=
      Walk.within_of_not_structs (fun n hn => hflat n (hsteps n hn)) access'
    simp only [FieldCheck.walkAll, hpassed]
    rw [ih hnames (hflat.within hname access')]

private theorem Validator.walk_through (h : List.Forall₂ (FieldCheck.Through names) checks checks')
    (hnames : ∀ c ∈ checks, c.name ∉ names) (fills : Bool) {x : Value} (hflat : x.FlatAt names) :
    (Validator.struct checks).walk fills (some x) = (Validator.struct checks').walk fills (some x) := by
  cases x with
  | struct fields => simp only [Validator.walk, FieldCheck.walkAll_through h hnames fills hflat]
  | _ => simp only [Validator.walk]

/-- Two loaders that treat empty values alike do the same to values without a struct under the names of the embedded
fields that make the difference between their checks. -/
private theorem Loader.walk_of_sameInner {s t : Schema} (hempty : ∀ x, s.deemsEmpty x = t.deemsEmpty x)
    {declared : List String} {inner inner' : Option Validator} (h : SameInner names declared inner inner')
    (hnames : ∀ n ∈ declared, n ∉ names) (policy : EmptyPolicy) (message? : Option String) (codec? : Option Codec)
    (fills : Bool) {x : Value} (hflat : x.FlatAt names) :
    Loader.walk fills ⟨s, inner, policy, message?, codec?⟩ (some x) =
      Loader.walk fills ⟨t, inner', policy, message?, codec?⟩ (some x) := by
  have hisEmpty : Loader.isEmpty ⟨s, inner, policy, message?, codec?⟩ (Slot.read (some x)) =
      Loader.isEmpty ⟨t, inner', policy, message?, codec?⟩ (Slot.read (some x)) := hempty x
  cases h with
  | refl =>
    cases inner <;> simp only [Loader.walk, hisEmpty]
  | struct hsame hfields =>
    have hwalk := Validator.walk_through hsame fun c hc => hnames _ (hfields c hc)
    have htext (text : String) : (Value.string text).FlatAt names := by
      intro n _ inner
      simp [Value.get?]
    simp only [Loader.walk, hisEmpty, hwalk fills hflat, hwalk false (htext _)]

namespace Factory

/-- Flattening embedded structs is declaring their fields: without a cache and with rules that stand for themselves,
as the built-in ones do, a rule without a default, such as the implied one, compiles for a struct just when it does
for the one with the fields of chosen embedded structs in the place of these. The same fields are checked then, in
order, and values without a struct under the names of these embedded structs have the same violations and are filled
in alike, as long as no field is named like one of them. -/
theorem compile_inlined (f : Factory) (hcache : f.config.cache = false) (hdirect : f.registry.Direct)
    (chosen : Field → Bool) (rule : String) (s : Schema) (mods : List Modifier)
    (hpresence : ∀ rule? text, (readRule rule : Compiled (Option Rule)) = .ok rule? →
      (s.ruleFor rule? mods).presence ≠ .default text) :
    ((∃ v, (f.compile rule s mods).1 = .ok v) ↔
      ∃ w, (f.compile rule (s.inlined f.config.tagKeys chosen) mods).1 = .ok w) ∧
    ∀ v w, (f.compile rule s mods).1 = .ok v → (f.compile rule (s.inlined f.config.tagKeys chosen) mods).1 = .ok w →
      v.inner?.map Validator.fieldLabels = w.inner?.map Validator.fieldLabels ∧
      ((∀ n ∈ s.declaredNames f.config.tagKeys, n ∉ s.inlinedNames f.config.tagKeys chosen) →
        ∀ x : Value, x.FlatAt (s.inlinedNames f.config.tagKeys chosen) →
          v.validate x = w.validate x ∧ v.fill x = w.fill x) := by
  constructor
  · constructor
    · rintro ⟨v, hv⟩
      obtain ⟨rule?, hread, hv⟩ := (compile_eq_ok_iff hcache).1 hv
      obtain ⟨w, hw, -⟩ := (Schema.compile_sameLoader chosen hdirect s (hpresence rule? · hread)).1 v hv
      exact ⟨w, (compile_eq_ok_iff hcache).2 ⟨rule?, hread, hw⟩⟩
    · rintro ⟨w, hw⟩
      obtain ⟨rule?, hread, hw⟩ := (compile_eq_ok_iff hcache).1 hw
      obtain ⟨v, hv, -⟩ := (Schema.compile_sameLoader chosen hdirect s (hpresence rule? · hread)).2 w hw
      exact ⟨v, (compile_eq_ok_iff hcache).2 ⟨rule?, hread, hv⟩⟩
  · intro v w hv hw
    obtain ⟨rule?, hread, hcompile⟩ := (compile_eq_ok_iff hcache).1 hv
    obtain ⟨w', hw', inner, inner', policy, message?, codec?, rfl, rfl, hsame⟩ :=
      (Schema.compile_sameLoader chosen hdirect s (hpresence rule? · hread)).1 v hcompile
    have hagain := (compile_eq_ok_iff hcache).2 ⟨rule?, hread, hw'⟩
    obtain rfl := Except.ok.inj (hagain.symm.trans hw)
    refine ⟨hsame.fieldLabels, fun hnames x hflat => ?_⟩
    have hempty : ∀ y, s.deemsEmpty y = (s.inlined f.scope.keys chosen).deemsEmpty y :=
      fun y => (Schema.inlined_deemsEmpty chosen f.scope.keys s y).symm
    have hwalk := Loader.walk_of_sameInner hempty hsame hnames policy message? codec?
    simp only [Validator.validate, Validator.fill, Validator.walk, hwalk _ hflat, and_self]

/-- A struct embedded in an embedded one behind a pointer, and a value that holds its fields itself, one of which is
missing and one is filled in. -/
theorem compile_inlined_nested :
    let age := (Field.plain "age" (.int 8)).withTag (Tag.empty.withEntry "default" "7")
    let name := (Field.plain "name" .string).withRule "@string"
    let base := Field.embedding (.pointer (.struct "base" [age]))
    let mid := Field.embedding (.struct "mid" [base, name])
    let s := Schema.struct "person" [mid, (Field.plain "id" (.int 64)).withRule "@int64"]
    let f := builtin { cache := false }
    let x := Value.struct [("id", .int 5)]
    ∃ v w, (f.compile "" s []).1 = .ok v ∧ (f.compile "" (s.inlined {} fun _ => true) []).1 = .ok w ∧
      (s.inlined {} fun _ => true).fields.map Field.name = ["age", "name", "id"] ∧
      v.inner?.map Validator.fieldLabels = some ["age", "name", "id"] ∧
      w.inner?.map Validator.fieldLabels = some ["age", "name", "id"] ∧
      v.validate x = [⟨[.field "name"], .missing, none⟩] ∧ w.validate x = [⟨[.field "name"], .missing, none⟩] ∧
      (v.fill x).2.toString = "\x7b\"age\":7,\"id\":5\x7d" ∧ v.fill x = w.fill x := by
  intro age name base mid s f x
  have hcompiles : ((f.compile "" s []).1.toOption.any fun v =>
      decide (v.inner?.map Validator.fieldLabels = some ["age", "name", "id"] ∧
        v.validate x = [⟨[.field "name"], .missing, none⟩] ∧
        (v.fill x).2.toString = "\x7b\"age\":7,\"id\":5\x7d")) = true := by
    decide +kernel
  obtain ⟨v, hv, hruns⟩ := exists_of_toOption_any hcompiles
  obtain ⟨hlabels, hreport, hfilled⟩ := of_decide_eq_true hruns
  have hclaim := compile_inlined f rfl Registry.direct_builtin (fun _ => true) "" s [] (by
    rintro rule? text hread hdefault
    obtain rfl : none = rule? := Except.ok.inj hread
    cases hdefault)
  obtain ⟨w, hw⟩ := hclaim.1.1 ⟨v, hv⟩
  obtain ⟨hsame, hwalks⟩ := hclaim.2 v w hv hw
  have hnames : s.inlinedNames {} (fun _ => true) = ["mid", "base"] := by decide +kernel
  have hapart : ∀ n ∈ s.declaredNames {}, n ∉ s.inlinedNames {} fun _ => true := by decide +kernel
  have hflat : x.FlatAt (s.inlinedNames {} fun _ => true) := by
    rw [hnames]
    intro n hn inner
    simp only [List.mem_cons, List.not_mem_nil, or_false] at hn
    rcases hn with rfl | rfl <;> simp [x, Value.get?, Fields.get?]
  obtain ⟨hvalidate, hfill⟩ := hwalks hapart x hflat
  exact ⟨v, w, hv, hw, by decide +kernel, hlabels, hsame ▸ hlabels, hreport, hvalidate ▸ hreport, hfilled, hfill⟩

end Factory

end FieldRules
