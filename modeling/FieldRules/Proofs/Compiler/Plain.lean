import FieldRules.Proofs.Compiler.Lockstep
import FieldRules.Proofs.Compiler.RoundTrip
import FieldRules.Proofs.Schema.Fields

/-!
# What the plain compiler makes of a schema

Without a cache, a rule for a schema becomes a loader around the check that the rule has for what it looks at: the
schema, or a text if the schema has a codec (`Schema.compile_eq_ok_iff`). The checks of a struct are those of its
fields, each compiled for itself, without the ones that do nothing (`Schema.site_fields_eq_ok_iff`), and only the
rule for structs has a check for a struct (`Schema.checkOf_struct_eq_ok_iff`).
-/

namespace FieldRules

/-- The compiler without a cache. -/
def Env.plain (scope : Scope) : Env Compiled :=
  { toScope := scope, memo := fun _ answer => answer }

/-- What the meaning of rules in a factory depends on. -/
def Factory.scope (f : Factory) : Scope :=
  { registry := f.registry, keys := f.config.tagKeys }

/-- Compiles a rule in the place of another one. -/
def Scope.expand (scope : Scope) (site : Site Compiled) (s : Schema) (rule? : Option Rule) : Compiled Validator :=
  Site.compile scope (scope.registry.length + 1) site s rule? []

namespace Schema

/-- What the rule for a schema looks at: a text if there is a codec. -/
def seen (s : Schema) : Schema :=
  if s.codec?.isSome then .string else s

theorem seen_of_plain {s : Schema} (h : s.codec? = none) : s.seen = s := by
  simp [seen, h]

/-- The rule with which a schema is compiled: the given or implied one, with what modifiers add. -/
def ruleFor (s : Schema) (rule? : Option Rule) (mods : List Modifier) : Rule :=
  mods.foldl Modifier.apply (rule?.getD { s.impliedRule with presence := .optional })

/-- The check that a rule has for a schema. -/
def checkOf (scope : Scope) (s : Schema) (inferred : Bool) (r : Rule) : Compiled (Option Validator) :=
  (s.site (.plain scope)).inner scope scope.expand inferred r

end Schema

variable {scope : Scope} {s : Schema}

/-! ### Loaders -/

private theorem Site.compile_eq_ok_iff {site : Site Compiled} {rule? : Option Rule} {mods : List Modifier}
    {v : Validator} :
    (Env.plain scope).compileAt site s rule? mods = .ok v ↔
      ∃ inner policy, site.inner scope scope.expand rule?.isNone (s.ruleFor rule? mods) = .ok inner ∧
        (emptyPolicy s inner (s.ruleFor rule? mods) : Compiled EmptyPolicy) = .ok policy ∧
        v = .loader ⟨s, inner, policy, Modifier.message? mods, s.codec?⟩ := by
  have hsteps : (Env.plain scope).compileAt site s rule? mods =
      (do load s (← site.inner scope scope.expand rule?.isNone (s.ruleFor rule? mods)) (s.ruleFor rule? mods)
            (Modifier.message? mods)) := rfl
  rw [hsteps, bind_eq_ok]
  constructor
  · rintro ⟨inner, hinner, h⟩
    obtain ⟨policy, hpolicy, hv⟩ := load_eq_ok_iff.1 h
    exact ⟨inner, policy, hinner, hpolicy, hv⟩
  · rintro ⟨inner, policy, hinner, hpolicy, hv⟩
    exact ⟨inner, hinner, load_eq_ok_iff.2 ⟨policy, hpolicy, hv⟩⟩

/-- What a rule for a schema becomes. -/
theorem Schema.compile_eq_ok_iff {rule? : Option Rule} {mods : List Modifier} {v : Validator} :
    s.compile (.plain scope) rule? mods = .ok v ↔
      ∃ inner policy, s.seen.checkOf scope rule?.isNone (s.ruleFor rule? mods) = .ok inner ∧
        (emptyPolicy s inner (s.ruleFor rule? mods) : Compiled EmptyPolicy) = .ok policy ∧
        v = .loader ⟨s, inner, policy, Modifier.message? mods, s.codec?⟩ := by
  obtain ⟨shape, alias?, codec?, test⟩ := s
  cases codec? with
  | none =>
    simp only [Schema.compile]
    exact Site.compile_eq_ok_iff
  | some codec =>
    simp only [Schema.compile]
    exact Site.compile_eq_ok_iff

/-! ### Rules with modifiers -/

theorem Modifier.name_foldl_apply (mods : List Modifier) (r : Rule) :
    (mods.foldl Modifier.apply r).name = r.name := by
  induction mods generalizing r with
  | nil => rfl
  | cons m mods ih =>
    rw [List.foldl_cons, ih]
    cases m <;> rfl

/-- Modifiers never make a rule required. -/
theorem Modifier.required_of_foldl_apply (mods : List Modifier) {r : Rule}
    (h : (mods.foldl Modifier.apply r).presence = .required) : r.presence = .required := by
  induction mods generalizing r with
  | nil => exact h
  | cons m mods ih =>
    have hr := ih h
    cases m with
    | optional =>
      have hrelax : r.presence.relax = .required := hr
      cases hpresence : r.presence <;> rw [hpresence] at hrelax <;> cases hrelax
    | default text => cases hr
    | message text => exact hr

theorem Schema.ruleFor_nil (s : Schema) (rule? : Option Rule) :
    s.ruleFor rule? [] = rule?.getD { s.impliedRule with presence := .optional } :=
  rfl

/-! ### The fields of a struct -/

private theorem inField_eq_ok_iff {α : Type} {name : String} {x : Compiled α} {a : α} :
    inField name x = .ok a ↔ x = .ok a := by
  cases x with
  | error e => constructor <;> rintro ⟨⟩
  | ok b => exact Iff.rfl

namespace FieldAt

/-- The rule in the tag of a field, if it holds one that can be read. -/
def rule? (keys : TagKeys) (a : FieldAt) : Option Rule :=
  match (readRule (Field.ruleText keys a.field.tag) : Compiled (Option Rule)) with
  | .ok rule? => rule?
  | .error _ => none

/-- The rule with which a field is compiled. -/
def rule (keys : TagKeys) (a : FieldAt) : Rule :=
  a.field.schema.ruleFor (a.rule? keys) (Field.modifiers keys a.field.tag)

/-- Compiles the check of a field. -/
def compile (scope : Scope) (a : FieldAt) : Compiled FieldCheck := do
  let v ← (Env.plain scope).request (Field.ruleText scope.keys a.field.tag) a.field.schema
    (Field.modifiers scope.keys a.field.tag)
    fun rule? => a.field.schema.compile (.plain scope) rule? (Field.modifiers scope.keys a.field.tag)
  return ⟨a.access, a.field.name, a.label scope.keys, v⟩

/-- Compiling the check of a field, step by step. -/
theorem compile_eq (scope : Scope) (a : FieldAt) : a.compile scope = (do
    let rule? ← (readRule (Field.ruleText scope.keys a.field.tag) : Compiled (Option Rule))
    let v ← a.field.schema.compile (.plain scope) rule? (Field.modifiers scope.keys a.field.tag)
    return ⟨a.access, a.field.name, a.label scope.keys, v⟩) := by
  unfold compile
  simp only [Env.request, Env.plain, bind_assoc]

theorem compile_eq_ok_iff {a : FieldAt} {c : FieldCheck} :
    a.compile scope = .ok c ↔
      (readRule (Field.ruleText scope.keys a.field.tag) : Compiled (Option Rule)) = .ok (a.rule? scope.keys) ∧
        a.field.schema.compile (.plain scope) (a.rule? scope.keys) (Field.modifiers scope.keys a.field.tag) =
          .ok c.validator ∧
        c.access = a.access ∧ c.name = a.field.name ∧ c.label = a.label scope.keys := by
  rw [compile_eq, bind_eq_ok]
  constructor
  · rintro ⟨rule?, hread, h⟩
    obtain ⟨v, hv, h⟩ := bind_eq_ok.1 h
    obtain rfl := Except.ok.inj h
    have hrule : a.rule? scope.keys = rule? := by rw [FieldAt.rule?, hread]
    rw [hrule]
    exact ⟨hread, hv, rfl, rfl, rfl⟩
  · obtain ⟨access, name, label, v⟩ := c
    rintro ⟨hread, hv, rfl, rfl, rfl⟩
    exact ⟨_, hread, bind_eq_ok.2 ⟨v, hv, rfl⟩⟩

end FieldAt

/-- Whether a check of a field is left in a struct: one that does nothing is left out. -/
def Scope.retains (scope : Scope) (c : FieldCheck) : Bool :=
  !(scope.simplifies && c.validator.isNoop)

/-- Checks of fields, each compiled for itself, without those that are left out. -/
def FieldAt.CompileTo (scope : Scope) (fields : List FieldAt) (checks : List FieldCheck) : Prop :=
  ∃ all, fields.mapM (FieldAt.compile scope) = .ok all ∧ checks = all.filter scope.retains

theorem FieldAt.compileTo_nil {checks : List FieldCheck} : FieldAt.CompileTo scope [] checks ↔ checks = [] := by
  constructor
  · rintro ⟨all, hall, rfl⟩
    obtain rfl : [] = all := Except.ok.inj hall
    rfl
  · rintro rfl
    exact ⟨[], rfl, rfl⟩

theorem FieldAt.compileTo_append {as bs : List FieldAt} {checks : List FieldCheck} :
    FieldAt.CompileTo scope (as ++ bs) checks ↔
      ∃ cs ds, FieldAt.CompileTo scope as cs ∧ FieldAt.CompileTo scope bs ds ∧ checks = cs ++ ds := by
  constructor
  · rintro ⟨all, hall, rfl⟩
    rw [List.mapM_append, bind_eq_ok] at hall
    obtain ⟨cs, hcs, hall⟩ := hall
    obtain ⟨ds, hds, hall⟩ := bind_eq_ok.1 hall
    obtain rfl := Except.ok.inj hall
    exact ⟨_, _, ⟨cs, hcs, rfl⟩, ⟨ds, hds, rfl⟩, List.filter_append ..⟩
  · rintro ⟨_, _, ⟨cs, hcs, rfl⟩, ⟨ds, hds, rfl⟩, rfl⟩
    refine ⟨cs ++ ds, ?_, (List.filter_append ..).symm⟩
    rw [List.mapM_append, hcs, hds]
    rfl

theorem FieldAt.compileTo_singleton {a : FieldAt} {checks : List FieldCheck} :
    FieldAt.CompileTo scope [a] checks ↔ ∃ c, a.compile scope = .ok c ∧ checks = [c].filter scope.retains := by
  constructor
  · rintro ⟨all, hall, rfl⟩
    rw [List.mapM_cons, bind_eq_ok] at hall
    obtain ⟨c, hc, hall⟩ := hall
    obtain rfl := Except.ok.inj hall
    exact ⟨c, hc, rfl⟩
  · rintro ⟨c, hc, rfl⟩
    refine ⟨[c], ?_, rfl⟩
    rw [List.mapM_cons, hc]
    rfl

mutual

/-- The checks of a struct are those of its fields, each compiled for itself. -/
theorem Schema.site_fields_eq_ok_iff (access : List String) : (s : Schema) → ∀ checks,
    (s.site (.plain scope)).fields access = .ok checks ↔
      FieldAt.CompileTo scope (s.flatFields scope.keys access) checks
  | ⟨shape, alias?, codec?, test⟩ => by
    simp only [Schema.site, Schema.flatFields]
    exact Shape.site_fields_eq_ok_iff access shape _

theorem Shape.site_fields_eq_ok_iff (access : List String) : (shape : Shape) → (s : Schema) → ∀ checks,
    (shape.site (.plain scope) s).fields access = .ok checks ↔
      FieldAt.CompileTo scope (shape.flatFields scope.keys access) checks
  | .struct fields, s => by
    simp only [Shape.site, Shape.flatFields]
    exact Field.compileAll_eq_ok_iff access fields
  | .pointer target, s => by
    simp only [Shape.site, Shape.flatFields]
    exact Schema.site_fields_eq_ok_iff access target
  | .bool, s | .int _, s | .uint _, s | .float _, s | .string, s | .slice _, s | .array .., s | .map .., s
  | .any, s => by
    intro checks
    simp only [Shape.site, Shape.flatFields, FieldAt.compileTo_nil]
    constructor
    · intro h
      exact (Except.ok.inj h).symm
    · rintro rfl
      rfl

theorem Field.compileAll_eq_ok_iff (access : List String) : (fields : List Field) → ∀ checks,
    Field.compileAll (.plain scope) fields access = .ok checks ↔
      FieldAt.CompileTo scope (Field.flatFields scope.keys access fields) checks
  | [] => by
    intro checks
    simp only [Field.compileAll, Field.flatFields, FieldAt.compileTo_nil]
    constructor
    · intro h
      exact (Except.ok.inj h).symm
    · rintro rfl
      rfl
  | ⟨name, schema, tag, embedded⟩ :: rest => by
    intro checks
    have hrest := Field.compileAll_eq_ok_iff access rest
    have hkeys : (Env.plain scope).keys = scope.keys := rfl
    rw [Field.flatFields, FieldAt.compileTo_append]
    simp only [Field.compileAll, hkeys]
    by_cases hhidden : Field.isHidden scope.keys tag = true
    · rw [if_pos hhidden, if_pos hhidden, hrest]
      simp [FieldAt.compileTo_nil]
    rw [if_neg hhidden, if_neg hhidden]
    by_cases hflat : Field.isFlattened scope.keys ⟨name, schema, tag, embedded⟩ = true
    · rw [if_pos hflat, if_pos hflat, bind_eq_ok]
      have hinner := Schema.site_fields_eq_ok_iff (access ++ [name]) schema
      constructor
      · rintro ⟨cs, hcs, h⟩
        obtain ⟨ds, hds, h⟩ := bind_eq_ok.1 h
        exact ⟨cs, ds, (hinner cs).1 (inField_eq_ok_iff.1 hcs), (hrest ds).1 hds, (Except.ok.inj h).symm⟩
      · rintro ⟨cs, ds, hcs, hds, rfl⟩
        exact ⟨cs, inField_eq_ok_iff.2 ((hinner cs).2 hcs), bind_eq_ok.2 ⟨ds, (hrest ds).2 hds, rfl⟩⟩
    · rw [if_neg hflat, if_neg hflat, bind_eq_ok]
      let a : FieldAt := ⟨access, ⟨name, schema, tag, embedded⟩⟩
      have hcons (v : Validator) (ds : List FieldCheck) :
          (if ((Env.plain scope).simplifies && v.isNoop) = true then ds
            else ⟨access, name, (tag.get? scope.keys.name).getD name, v⟩ :: ds) =
          [(⟨access, name, a.label scope.keys, v⟩ : FieldCheck)].filter scope.retains ++ ds := by
        have hsimplifies : (Env.plain scope).simplifies = scope.simplifies := rfl
        by_cases hnoop : (scope.simplifies && v.isNoop) = true
        · rw [hsimplifies, if_pos hnoop, List.filter_cons_of_neg (by simp [Scope.retains, hnoop])]
          rfl
        · rw [hsimplifies, if_neg hnoop, List.filter_cons_of_pos (by simp [Scope.retains, hnoop])]
          rfl
      constructor
      · rintro ⟨v, hv, h⟩
        obtain ⟨ds, hds, h⟩ := bind_eq_ok.1 h
        refine ⟨_, ds, FieldAt.compileTo_singleton.2 ⟨⟨access, name, a.label scope.keys, v⟩, ?_, rfl⟩,
          (hrest ds).1 hds, ?_⟩
        · exact bind_eq_ok.2 ⟨v, inField_eq_ok_iff.1 hv, rfl⟩
        · rw [← hcons]
          exact (Except.ok.inj h).symm
      · rintro ⟨cs, ds, hcs, hds, rfl⟩
        obtain ⟨c, hc, rfl⟩ := FieldAt.compileTo_singleton.1 hcs
        obtain ⟨v, hv, hc⟩ := bind_eq_ok.1 hc
        obtain rfl := Except.ok.inj hc
        refine ⟨v, inField_eq_ok_iff.2 hv, bind_eq_ok.2 ⟨ds, (hrest ds).2 hds, ?_⟩⟩
        rw [← hcons]
        rfl

end

/-! ### Structs -/

mutual

/-- A schema has the site of what it points at. -/
theorem Schema.site_target {m : Type → Type} [Monad m] [MonadExceptOf CompileError m] (env : Env m) :
    (s : Schema) → s.site env = s.target.site env ∧ (s.site env).target = s.target
  | ⟨shape, alias?, codec?, test⟩ => by
    simp only [Schema.site]
    exact Shape.site_target env shape alias? codec? test

private theorem Shape.site_target {m : Type → Type} [Monad m] [MonadExceptOf CompileError m] (env : Env m) :
    (shape : Shape) → ∀ alias? codec? test, shape.site env ⟨shape, alias?, codec?, test⟩ =
      (Schema.target ⟨shape, alias?, codec?, test⟩).site env ∧
      (shape.site env ⟨shape, alias?, codec?, test⟩).target = Schema.target ⟨shape, alias?, codec?, test⟩
  | .pointer target => by
    intro alias? codec? test
    simp only [Shape.site, Schema.target]
    exact Schema.site_target env target
  | .struct _ | .bool | .int _ | .uint _ | .float _ | .string | .slice _ | .array .. | .map .. | .any => by
    intro alias? codec? test
    simp only [Schema.target, Schema.site, Shape.site, Site.leaf, and_self]

end

/-- Among rules that stand for themselves, only the one for structs has a check for a struct. -/
private theorem Site.create_struct_eq_ok_iff {site : Site Compiled} (hkind : site.target.kind = .struct) {r : Rule}
    {key item same : Nat → Compiled Validator} {anew : Rule → Compiled Validator} {creation : Creation}
    (hdirect : creation.isDirect = true) {v : Validator} :
    site.create scope r key item same anew creation = .ok v ↔
      creation = .struct ∧ Section.refuse r [.params, .range, .values, .pattern] = .ok () ∧
        ∃ checks, site.fields [] = .ok checks ∧ v = .struct checks := by
  have hexpect (kinds : List Kind) (hkinds : .struct ∉ kinds) : site.expect r kinds ≠ .ok () := by
    rw [ne_eq, Site.expect_eq_ok_iff, hkind]
    simp [hkinds]
  have hrefused (kinds : List Kind) (hkinds : .struct ∉ kinds) {f : Unit → Compiled Validator} :
      (site.expect r kinds >>= f) ≠ .ok v := by
    intro h
    obtain ⟨⟨⟩, hok, -⟩ := bind_eq_ok.1 h
    exact hexpect kinds hkinds hok
  cases creation with
  | struct =>
    have hok : site.expect r [.struct] = .ok () := Site.expect_eq_ok_iff.2 (.inr (by simp [hkind]))
    simp only [Site.create, Site.struct, true_and]
    constructor
    · intro h
      obtain ⟨⟨⟩, -, h⟩ := bind_eq_ok.1 h
      obtain ⟨⟨⟩, hrefuse, h⟩ := bind_eq_ok.1 h
      obtain ⟨checks, hchecks, h⟩ := bind_eq_ok.1 h
      exact ⟨orInvalid_eq_ok_iff.1 hrefuse, checks, hchecks, (Except.ok.inj h).symm⟩
    · rintro ⟨hrefuse, checks, hchecks, rfl⟩
      refine bind_eq_ok.2 ⟨(), hok, bind_eq_ok.2 ⟨(), orInvalid_eq_ok_iff.2 hrefuse, ?_⟩⟩
      exact bind_eq_ok.2 ⟨checks, hchecks, rfl⟩
  | integer signed =>
    simp only [Site.create, reduceCtorEq, false_and, iff_false]
    cases signed
    · exact hrefused [.uint] (by decide)
    · exact hrefused [.int] (by decide)
  | float =>
    simp only [Site.create, reduceCtorEq, false_and, iff_false]
    exact hrefused [.float] (by decide)
  | text =>
    simp only [Site.create, reduceCtorEq, false_and, iff_false]
    exact hrefused [.string] (by decide)
  | format f =>
    simp only [Site.create, reduceCtorEq, false_and, iff_false]
    exact hrefused [.string] (by decide)
  | slice =>
    simp only [Site.create, reduceCtorEq, false_and, iff_false]
    exact hrefused [.slice, .array] (by decide)
  | map =>
    simp only [Site.create, reduceCtorEq, false_and, iff_false]
    exact hrefused [.map] (by decide)
  | derived kinds rule => cases hdirect
  | forwarding refused => cases hdirect

/-- The check that a rule has for a struct, where no rule stands for another one. -/
theorem Schema.checkOf_struct_eq_ok_iff (hdirect : scope.registry.Direct) (hkind : s.target.kind = .struct)
    {inferred : Bool} {r : Rule} {v? : Option Validator} :
    s.checkOf scope inferred r = .ok v? ↔
      (r.name = "" ∧ v? = none) ∨
        (r.name ≠ "" ∧ Fields.get? scope.registry r.name = some .struct ∧
          Section.refuse r [.params, .range, .values, .pattern] = .ok () ∧
          ∃ checks, FieldAt.CompileTo scope (s.flatFields scope.keys []) checks ∧
            v? = if scope.simplifies && inferred && checks.isEmpty then none else some (.struct checks)) := by
  have htarget : (s.site (.plain scope)).target.kind = .struct := by rw [(s.site_target _).2, hkind]
  unfold Schema.checkOf
  by_cases hname : r.name = ""
  · cases r
    obtain rfl := hname
    simp only [Site.inner, if_true, true_and, ne_eq, not_true_eq_false, false_and, or_false]
    constructor
    · intro h
      exact (Except.ok.inj h).symm
    · rintro rfl
      rfl
  · cases hcreation : Fields.get? scope.registry r.name with
    | none =>
      cases r
      simp only [Site.inner, hname, if_false, hcreation, false_and, or_false, reduceCtorEq, and_false]
    | some creation =>
      obtain ⟨same, anew, hinner⟩ := Site.inner_eq scope.expand (s.site (.plain scope)) inferred hname hcreation
      rw [hinner, bind_eq_ok]
      simp only [Site.create_struct_eq_ok_iff htarget (hdirect _ _ hcreation), hname, false_and, false_or, ne_eq,
        not_false_eq_true, true_and, Option.some.injEq, s.site_fields_eq_ok_iff []]
      constructor
      · rintro ⟨v, ⟨hstruct, hrefuse, checks, hchecks, rfl⟩, h⟩
        exact ⟨hstruct, hrefuse, checks, hchecks, (Except.ok.inj h).symm⟩
      · rintro ⟨hstruct, hrefuse, checks, hchecks, rfl⟩
        exact ⟨_, ⟨hstruct, hrefuse, checks, hchecks, rfl⟩, rfl⟩

/-! ### Factories without a cache -/

namespace Factory

/-- Without a cache, a factory reads the rule and compiles what it holds. -/
theorem compile_eq {f : Factory} (hcache : f.config.cache = false) (rule : String) (s : Schema)
    (mods : List Modifier) :
    (f.compile rule s mods).1 =
      (readRule rule : Compiled (Option Rule)) >>= fun rule? => s.compile (.plain f.scope) rule? mods := by
  simp only [Factory.compile, hcache, Bool.false_eq_true, if_false]
  rfl

/-- Without a cache, a factory answers as the plain compiler does. -/
theorem compile_eq_ok_iff {f : Factory} (hcache : f.config.cache = false) {rule : String} {mods : List Modifier}
    {v : Validator} :
    (f.compile rule s mods).1 = .ok v ↔
      ∃ rule?, (readRule rule : Compiled (Option Rule)) = .ok rule? ∧
        s.compile (.plain f.scope) rule? mods = .ok v := by
  rw [compile_eq hcache, bind_eq_ok]

end Factory

end FieldRules
