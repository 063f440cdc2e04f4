import FieldRules.Proofs.Compiler.Outcome

/-!
# Compilers in lockstep

Compiling is written for any monad, so two compilers that only differ in their monad and in how they answer
requests do the same steps. A `Lockstep` relates computations of the one to computations of the other and
follows the steps; in it two compilers come to the same error or the same validator, as long as the answers to
requests are related (`Lockstep.compile`). Of the validator they also say whatever the steps of compiling keep
(`Registry.Keeps`), so that a property of compiled validators is the case of one compiler beside itself
(`OutcomeLogic.lockstep`).
-/

namespace FieldRules

/-- A way to relate the outcomes of computations in two monads. -/
structure Lockstep (m n : Type → Type) [Monad m] [MonadExceptOf CompileError m] [Monad n]
    [MonadExceptOf CompileError n] where
  relates : {α β : Type} → m α → n β → (α → β → Prop) → Prop
  pure : ∀ {α β : Type} {a : α} {b : β} {Q : α → β → Prop}, Q a b → relates (Pure.pure a) (Pure.pure b) Q
  bind : ∀ {α β γ δ : Type} {x : m α} {y : n β} {f : α → m γ} {g : β → n δ} {P : α → β → Prop}
    {Q : γ → δ → Prop}, relates x y P → (∀ a b, P a b → relates (f a) (g b) Q) →
      relates (x >>= f) (y >>= g) Q
  mono : ∀ {α β : Type} {x : m α} {y : n β} {P Q : α → β → Prop}, relates x y P → (∀ a b, P a b → Q a b) →
    relates x y Q
  throw : ∀ {α β : Type} {e : CompileError} {Q : α → β → Prop},
    relates (MonadExcept.throw e : m α) (MonadExcept.throw e : n β) Q
  tryCatch : ∀ {α β : Type} {x : m α} {y : n β} {f : CompileError → m α} {g : CompileError → n β}
    {Q : α → β → Prop}, relates x y Q → (∀ e, relates (f e) (g e) Q) →
      relates (MonadExcept.tryCatch x f) (MonadExcept.tryCatch y g) Q

/-- A computation beside itself, where a logic says what its outcome is like. -/
def OutcomeLogic.lockstep {m : Type → Type} [Monad m] [MonadExceptOf CompileError m] (L : OutcomeLogic m) :
    Lockstep m m where
  relates x _ Q := L.ensures x fun a => ∃ b, Q a b
  pure h := L.pure ⟨_, h⟩
  bind hx hf := L.bind hx fun a ⟨b, h⟩ => hf a b h
  mono hx hPQ := L.mono hx fun a ⟨b, h⟩ => ⟨b, hPQ a b h⟩
  throw := L.throw
  tryCatch hx hf := L.tryCatch hx hf

/-! ### What compiling keeps -/

/-- Whether a creation does not put one rule in the place of another. -/
def Creation.isDirect : Creation → Bool
  | .derived .. | .forwarding _ => false
  | _ => true

/-- Whether no rule of a registry stands for another one. -/
def Registry.Direct (r : Registry) : Prop :=
  ∀ name creation, Fields.get? r name = some creation → creation.isDirect = true

/-- Whether each step of compiling makes good validators of good ones, by way of checks. -/
structure Registry.Keeps (registry : Registry) (Good Check : Validator → Prop) : Prop where
  loader : ∀ l : Loader, (∀ v, l.inner = some v → Check v) → Good (.loader l)
  integer : ∀ c, Check (.integer c)
  float : ∀ c, Check (.float c)
  text : ∀ c, Check (.text c)
  format : ∀ f, Check (.format f)
  slice : ∀ item bounds length?, (∀ v, item = some v → Good v) → Check (.slice item bounds length?)
  map : ∀ key item bounds, (∀ v, key = some v → Good v) → (∀ v, item = some v → Good v) →
    Check (.map key item bounds)
  struct : ∀ checks : List FieldCheck, (∀ c ∈ checks, Good c.validator) → Check (.struct checks)
  /-- Only where rules can stand for other ones, the loader of a rule is a check. -/
  standIn : ¬ registry.Direct → ∀ v, Good v → Check v

theorem Registry.keeps_true (registry : Registry) : registry.Keeps (fun _ => True) (fun _ => True) := by
  constructor <;> intros <;> trivial

namespace Lockstep

variable {m n : Type → Type} [Monad m] [MonadExceptOf CompileError m] [Monad n] [MonadExceptOf CompileError n]
  (L : Lockstep m n)

/-- Two computations have the same outcome, which has a property if it is not an error. -/
def agree {α : Type} (x : m α) (y : n α) (Q : α → Prop) : Prop :=
  L.relates x y fun a b => a = b ∧ Q a

variable {α β : Type} {Q : α → Prop} {r : Rule} {s : Schema}

private theorem agree_pure {a : α} (h : Q a) : L.agree (Pure.pure a) (Pure.pure a) Q :=
  L.pure ⟨rfl, h⟩

private theorem agree_throw {e : CompileError} : L.agree (MonadExcept.throw e : m α) (MonadExcept.throw e : n α) Q :=
  L.throw

private theorem agree_bind {γ δ : Type} {x : m α} {y : n α} {f : α → m γ} {g : α → n δ} {R : γ → δ → Prop}
    (h : L.agree x y Q) (hf : ∀ a, Q a → L.relates (f a) (g a) R) : L.relates (x >>= f) (y >>= g) R :=
  L.bind h fun a _ ⟨hab, ha⟩ => hab ▸ hf a ha

/-! ### Steps without parts -/

private theorem throw_bind {γ δ : Type} {e : CompileError} {f : α → m γ} {g : β → n δ} {R : γ → δ → Prop} :
    L.relates (MonadExcept.throw e >>= f) (MonadExcept.throw e >>= g) R :=
  L.bind (L.throw : L.relates _ _ fun _ _ => False) fun _ _ h => h.elim

private theorem orInvalid (r : Rule) (x : Except Defect α) :
    L.agree (FieldRules.orInvalid r x) (FieldRules.orInvalid r x) fun a => x = .ok a := by
  cases x with
  | error defect => exact L.agree_throw
  | ok a => exact L.agree_pure rfl

private theorem emptyPolicy (s : Schema) (inner : Option Validator) (r : Rule) :
    L.agree (FieldRules.emptyPolicy s inner r) (FieldRules.emptyPolicy s inner r) fun _ => True := by
  simp only [FieldRules.emptyPolicy]
  split
  · exact L.agree_pure trivial
  · exact L.agree_pure trivial
  · split
    · exact L.agree_throw
    · cases inner with
      | none => exact L.agree_pure trivial
      | some v =>
        simp only
        split
        · exact L.agree_pure trivial
        · exact L.agree_throw

private theorem readRule (text : String) :
    L.agree (FieldRules.readRule text) (FieldRules.readRule text) fun _ => True := by
  simp only [FieldRules.readRule]
  split
  · exact L.agree_pure trivial
  · split
    · exact L.agree_pure trivial
    · exact L.agree_throw

private theorem inField {name : String} {x : m α} {y : n α} (h : L.agree x y Q) :
    L.agree (FieldRules.inField name x) (FieldRules.inField name y) Q :=
  L.tryCatch h fun _ => L.throw

section

variable {registry : Registry} {Good Check : Validator → Prop} (hkeeps : registry.Keeps Good Check)
include hkeeps

theorem load {inner : Option Validator} {message? : Option String} (h : ∀ v, inner = some v → Check v) :
    L.agree (FieldRules.load s inner r message?) (FieldRules.load s inner r message?) Good :=
  L.agree_bind (L.emptyPolicy s inner r) fun _ _ => L.agree_pure (hkeeps.loader _ h)

end

/-! ### Sites -/

/-- Two ways to compile the rules of a part, if nothing or something is known of the part at both sites. -/
abbrev PartsAgree (Good : Validator → Prop) :
    Option (Option Rule → m Validator) → Option (Option Rule → n Validator) → Prop :=
  Option.Rel fun compile compile' => ∀ rule?, L.agree (compile rule?) (compile' rule?) Good

/-- Two sites for the same schema, with ways to compile the rules of their parts that agree. -/
structure SitesAgree (Good : Validator → Prop) (site : Site m) (site' : Site n) : Prop where
  target : site.target = site'.target
  item : L.PartsAgree Good site.item? site'.item?
  key : L.PartsAgree Good site.key? site'.key?
  fields : ∀ access, L.agree (site.fields access) (site'.fields access) fun checks =>
    ∀ c ∈ checks, Good c.validator

variable {Good Check : Validator → Prop} {site : Site m} {site' : Site n} {scope : Scope}

private theorem sitesAgree_leaf (s : Schema) : L.SitesAgree Good (Site.leaf s) (Site.leaf s) where
  target := rfl
  item := .none
  key := .none
  fields := fun _ => L.agree_pure (List.forall_mem_nil _)

private theorem SitesAgree.own {L : Lockstep m n} (h : L.SitesAgree Good site site') :
    L.SitesAgree Good site.own site'.own := by
  unfold Site.own
  rw [h.target]
  split
  · exact L.sitesAgree_leaf .string
  · exact h

private theorem expect (h : site.target = site'.target) (r : Rule) (kinds : List Kind) :
    L.agree (site.expect r kinds) (site'.expect r kinds) fun _ => True := by
  simp only [Site.expect, h]
  split
  · exact L.agree_pure trivial
  · exact L.agree_throw

private theorem param {compile : Nat → m Validator} {compile' : Nat → n Validator} {i : Nat}
    (h : L.agree (compile i) (compile' i) Good) :
    L.agree (Site.param scope compile i) (Site.param scope compile' i) fun v? => ∀ v, v? = some v → Good v := by
  refine L.agree_bind h fun v hv => L.agree_pure ?_
  intro w hw
  split at hw
  · cases hw
  · exact Option.some.inj hw ▸ hv

/-- What creators make at two sites that agree. -/
private theorem create {registry : Registry} (hkeeps : registry.Keeps Good Check)
    (hsites : L.SitesAgree Good site site') {r : Rule} {key item same : Nat → m Validator}
    {key' item' same' : Nat → n Validator} {anew : Rule → m Validator} {anew' : Rule → n Validator}
    (hkey : ∀ i, L.agree (key i) (key' i) Good) (hitem : ∀ i, L.agree (item i) (item' i) Good)
    (hsame : ∀ i, L.agree (same i) (same' i) Good) (hanew : ∀ rule, L.agree (anew rule) (anew' rule) Good)
    {creation : Creation} (hcreation : creation.isDirect = false → ¬ registry.Direct) :
    L.agree (site.create scope r key item same anew creation) (site'.create scope r key' item' same' anew' creation)
      Check := by
  have htarget := hsites.target
  cases creation with
  | integer signed =>
    refine L.agree_bind (L.expect htarget ..) fun _ _ => ?_
    exact L.agree_bind (L.orInvalid ..) fun c _ => L.agree_pure (hkeeps.integer c)
  | float =>
    refine L.agree_bind (L.expect htarget ..) fun _ _ => ?_
    exact L.agree_bind (L.orInvalid ..) fun c _ => L.agree_pure (hkeeps.float c)
  | text =>
    refine L.agree_bind (L.expect htarget ..) fun _ _ => ?_
    exact L.agree_bind (L.orInvalid ..) fun c _ => L.agree_pure (hkeeps.text c)
  | format f =>
    refine L.agree_bind (L.expect htarget ..) fun _ _ => ?_
    exact L.agree_bind (L.orInvalid ..) fun _ _ => L.agree_pure (hkeeps.format f)
  | struct =>
    refine L.agree_bind (L.expect htarget ..) fun _ _ => ?_
    refine L.agree_bind (L.orInvalid ..) fun _ _ => ?_
    exact L.agree_bind (hsites.fields []) fun checks h => L.agree_pure (hkeeps.struct checks h)
  | slice =>
    simp only [Site.create, Site.slice, htarget]
    refine L.agree_bind (L.expect htarget ..) fun _ _ => ?_
    refine L.agree_bind (L.orInvalid ..) fun _ _ => ?_
    split
    · exact L.throw_bind
    refine L.agree_bind (L.param (hitem 0)) fun item hitem => ?_
    refine L.agree_bind (L.orInvalid ..) fun bounds _ => ?_
    exact L.agree_bind (L.orInvalid ..) fun _ _ => L.agree_pure (hkeeps.slice item bounds _ hitem)
  | map =>
    refine L.agree_bind (L.expect htarget ..) fun _ _ => ?_
    refine L.agree_bind (L.orInvalid ..) fun _ _ => ?_
    split
    · exact L.throw_bind
    refine L.agree_bind (L.orInvalid ..) fun bounds _ => ?_
    refine L.agree_bind (L.param (hkey 0)) fun key hkey => ?_
    exact L.agree_bind (L.param (hitem 1)) fun item hitem => L.agree_pure (hkeeps.map key item bounds hkey hitem)
  | derived kinds rule =>
    refine L.agree_bind (L.expect htarget ..) fun _ _ => ?_
    exact L.mono (hanew rule) fun v w ⟨heq, hv⟩ => ⟨heq, hkeeps.standIn (hcreation rfl) v hv⟩
  | forwarding refused =>
    simp only [Site.create, htarget]
    split
    · exact L.throw_bind
    refine L.agree_bind (L.param (hsame 0)) fun v? hv => ?_
    cases v? with
    | none => exact L.agree_throw
    | some v => exact L.agree_pure (hkeeps.standIn (hcreation rfl) v (hv v rfl))

/-! ### Rules in rules -/

/-- Two ways to compile rules in the place of rules, which agree at sites that do. -/
def ExpandsAlike (Good : Validator → Prop) (expand : Site m → Schema → Option Rule → m Validator)
    (expand' : Site n → Schema → Option Rule → n Validator) : Prop :=
  ∀ (site : Site m) (site' : Site n) (s : Schema) (rule? : Option Rule), L.SitesAgree Good site site' →
    L.agree (expand site s rule?) (expand' site' s rule?) Good

/-- Two ways to compile the rule in a param are refused alike, or agree. -/
inductive ParamsAgree (Good : Validator → Prop) : Except Defect (m Validator) → Except Defect (n Validator) → Prop
  | error (defect : Defect) : ParamsAgree Good (.error defect) (.error defect)
  | ok {x : m Validator} {y : n Validator} (h : L.agree x y Good) : ParamsAgree Good (.ok x) (.ok y)

private theorem ParamsAgree.run {L : Lockstep m n} {x : Except Defect (m Validator)} {y : Except Defect (n Validator)}
    (h : L.ParamsAgree Good x y) (r : Rule) :
    L.agree (do (← FieldRules.orInvalid r x)) (do (← FieldRules.orInvalid r y)) Good := by
  cases h with
  | error defect => exact L.throw_bind
  | ok h => exact L.bind (L.pure h) fun _ _ h => h

variable {expand : Site m → Schema → Option Rule → m Validator}
  {expand' : Site n → Schema → Option Rule → n Validator}

mutual

private theorem inner (hkeeps : scope.registry.Keeps Good Check) (hexpand : L.ExpandsAlike Good expand expand')
    (inferred : Bool) : (r : Rule) → ∀ {site : Site m} {site' : Site n}, L.SitesAgree Good site site' →
      L.agree (site.inner scope expand inferred r) (site'.inner scope expand' inferred r) fun v? =>
        ∀ v, v? = some v → Check v
  | ⟨raw, name, params, range, values, pattern, presence⟩, site, site', hsites => by
    have hnth := Lockstep.nth hkeeps hexpand params
    have hpart {part : Option (Option Rule → m Validator)} {part' : Option (Option Rule → n Validator)}
        (r : Rule) (i : Nat) : L.PartsAgree Good part part' →
        L.agree (match part with
          | some compile => (do compile (← FieldRules.orInvalid r (paramRule params i)))
          | none => (do (← FieldRules.orInvalid r (Site.nth scope expand (Site.leaf .any) .any params i))))
          (match part' with
          | some compile => (do compile (← FieldRules.orInvalid r (paramRule params i)))
          | none => (do (← FieldRules.orInvalid r (Site.nth scope expand' (Site.leaf .any) .any params i))))
          Good := by
      intro h
      cases h with
      | some h => exact L.agree_bind (L.orInvalid ..) fun rule? _ => h rule?
      | none => exact (hnth .any (L.sitesAgree_leaf .any) i).run r
    simp only [Site.inner]
    split
    · exact L.agree_pure (by simp)
    split
    · exact L.agree_throw
    next creation hcreation =>
      have hdirect (h : creation.isDirect = false) : ¬ scope.registry.Direct := by
        intro hall
        rw [hall name creation hcreation] at h
        cases h
      refine L.agree_bind (L.create hkeeps hsites (fun i => hpart _ i hsites.key)
        (fun i => hpart _ i hsites.item) (fun i => ?_) (fun rule => ?_) hdirect) fun v hv => L.agree_pure ?_
      · rw [hsites.target]
        exact (hnth site'.target hsites.own i).run _
      · rw [hsites.target]
        exact hexpand site.own site'.own site'.target (some rule) hsites.own
      · intro w hw
        split at hw
        · cases hw
        · exact Option.some.inj hw ▸ hv

private theorem nth (hkeeps : scope.registry.Keeps Good Check) (hexpand : L.ExpandsAlike Good expand expand') :
    (ps : List Param) → ∀ (s : Schema) {site : Site m} {site' : Site n}, L.SitesAgree Good site site' →
      ∀ i, L.ParamsAgree Good (Site.nth scope expand site s ps i) (Site.nth scope expand' site' s ps i)
  | [], s, site, site', hsites, _ => .ok (hexpand site site' s none hsites)
  | .blank :: _, s, site, site', hsites, 0 => .ok (hexpand site site' s none hsites)
  | .literal text :: _, _, _, _, _, 0 => .error (.paramNotRule text)
  | .rule r :: _, _, _, _, hsites, 0 =>
    .ok (L.agree_bind (Lockstep.inner hkeeps hexpand false r hsites) fun _ h => L.load hkeeps h)
  | p :: ps, s, _, _, hsites, i + 1 => by
    have hrest := Lockstep.nth hkeeps hexpand ps s hsites i
    cases p <;> exact hrest

end

/-- Compiling at two sites that agree has the same outcome, however often rules are put in the place of rules. -/
private theorem siteCompile (hkeeps : scope.registry.Keeps Good Check) (k : Nat) (mods : List Modifier) :
    L.ExpandsAlike Good (fun site s rule? => Site.compile scope k site s rule? mods)
      (fun site s rule? => Site.compile scope k site s rule? mods) := by
  induction k generalizing mods with
  | zero => exact fun _ _ _ _ _ => L.agree_throw
  | succ k ih =>
    intro site site' s rule? hsites
    exact L.agree_bind (L.inner hkeeps (ih []) _ _ hsites) fun inner hinner => L.load hkeeps hinner

end Lockstep

/-! ### Requests -/

/-- A request for a validator. -/
structure Request where
  rule : String
  schema : Schema
  mods : List Modifier

namespace Request

/-- The key of a request. -/
def key (q : Request) : RequestKey :=
  requestKey q.rule q.schema q.mods

/-- What a compiler answers to a request, from the rule text on. -/
def answer {m : Type → Type} [Monad m] [MonadExceptOf CompileError m] (env : Env m) (q : Request) : m Validator := do
  q.schema.compile env (← readRule q.rule) q.mods

end Request

mutual

/-- The requests that compiling a schema makes for the fields in it. -/
def Schema.requests (keys : TagKeys) : Schema → List Request
  | ⟨shape, _, _, _⟩ => shape.requests keys

/-- The requests for the fields in a shape. -/
def Shape.requests (keys : TagKeys) : Shape → List Request
  | .slice item | .array item _ => item.requests keys
  | .map key item => key.requests keys ++ item.requests keys
  | .struct fields => Field.requests keys fields
  | .pointer target => target.requests keys
  | _ => []

/-- The requests for fields: none for one that is hidden, and those for its own fields for one that is
flattened. -/
def Field.requests (keys : TagKeys) : List Field → List Request
  | [] => []
  | ⟨name, schema, tag, embedded⟩ :: rest =>
    (if Field.isHidden keys tag then []
      else if Field.isFlattened keys ⟨name, schema, tag, embedded⟩ then schema.requests keys
      else ⟨Field.ruleText keys tag, schema, Field.modifiers keys tag⟩ :: schema.requests keys) ++
      Field.requests keys rest

end

/-- A request and the requests for fields that come of it. -/
def Request.all (keys : TagKeys) (q : Request) : List Request :=
  q :: q.schema.requests keys

namespace Lockstep

variable {m n : Type → Type} [Monad m] [MonadExceptOf CompileError m] [Monad n] [MonadExceptOf CompileError n]
  (L : Lockstep m n)

/-- Two compilers with the same creators, whose answers to requests agree when those that they would give anew
do. -/
structure EnvsAgree (Good : Validator → Prop) (R : Request → Prop) (env : Env m) (env' : Env n) : Prop where
  scope : env.toScope = env'.toScope
  memo : ∀ q, R q → L.agree (q.answer env) (q.answer env') Good →
    L.agree (env.memo q.key (q.answer env)) (env'.memo q.key (q.answer env')) Good

variable {Good Check : Validator → Prop} {R : Request → Prop} {env : Env m} {env' : Env n}

private theorem compileAt (henv : L.EnvsAgree Good R env env') (hkeeps : env.registry.Keeps Good Check)
    {site : Site m} {site' : Site n} (hsites : L.SitesAgree Good site site') (s : Schema) (rule? : Option Rule)
    (mods : List Modifier) :
    L.agree (env.compileAt site s rule? mods) (env'.compileAt site' s rule? mods) Good := by
  rw [Env.compileAt, Env.compileAt, ← henv.scope]
  exact L.siteCompile hkeeps _ mods site site' s rule? hsites

mutual

/-- Compiling a schema has the same outcome in two compilers that agree on the requests for its fields. -/
private theorem schemaCompile (henv : L.EnvsAgree Good R env env') (hkeeps : env.registry.Keeps Good Check) :
    (s : Schema) → (∀ q ∈ s.requests env.keys, R q) → ∀ rule? mods,
      L.agree (s.compile env rule? mods) (s.compile env' rule? mods) Good
  | ⟨shape, alias?, some codec, test⟩, _, rule?, mods => by
    simp only [Schema.compile]
    exact L.compileAt henv hkeeps (L.sitesAgree_leaf .string) _ rule? mods
  | ⟨shape, alias?, none, test⟩, hs, rule?, mods => by
    simp only [Schema.compile]
    exact L.compileAt henv hkeeps (Lockstep.shapeSite henv hkeeps shape _ hs) _ rule? mods

private theorem schemaSite (henv : L.EnvsAgree Good R env env') (hkeeps : env.registry.Keeps Good Check) :
    (s : Schema) → (∀ q ∈ s.requests env.keys, R q) → L.SitesAgree Good (s.site env) (s.site env')
  | ⟨shape, alias?, codec?, test⟩, hs => by
    simp only [Schema.site]
    exact Lockstep.shapeSite henv hkeeps shape _ hs

private theorem shapeSite (henv : L.EnvsAgree Good R env env') (hkeeps : env.registry.Keeps Good Check) :
    (shape : Shape) → (s : Schema) → (∀ q ∈ shape.requests env.keys, R q) →
      L.SitesAgree Good (shape.site env s) (shape.site env' s)
  | .pointer target, s, hs => by
    simp only [Shape.site]
    exact Lockstep.schemaSite henv hkeeps target hs
  | .slice item, s, hs | .array item _, s, hs => by
    simp only [Shape.site]
    exact { L.sitesAgree_leaf s with
      item := .some fun rule? => Lockstep.schemaCompile henv hkeeps item hs rule? [] }
  | .map key item, s, hs => by
    rw [Shape.requests, List.forall_mem_append] at hs
    simp only [Shape.site]
    exact { L.sitesAgree_leaf s with
      key := .some fun rule? => Lockstep.schemaCompile henv hkeeps key hs.1 rule? []
      item := .some fun rule? => Lockstep.schemaCompile henv hkeeps item hs.2 rule? [] }
  | .struct fields, s, hs => by
    simp only [Shape.site]
    exact { L.sitesAgree_leaf s with fields := Lockstep.compileAll henv hkeeps fields hs }
  | .bool, s, _ | .int _, s, _ | .uint _, s, _ | .float _, s, _ | .string, s, _ | .any, s, _ => by
    simp only [Shape.site]
    exact L.sitesAgree_leaf s

private theorem compileAll (henv : L.EnvsAgree Good R env env') (hkeeps : env.registry.Keeps Good Check) :
    (fields : List Field) → (∀ q ∈ Field.requests env.keys fields, R q) → ∀ access,
      L.agree (Field.compileAll env fields access) (Field.compileAll env' fields access) fun checks =>
        ∀ c ∈ checks, Good c.validator
  | [], _, _ => L.agree_pure (List.forall_mem_nil _)
  | ⟨name, schema, tag, embedded⟩ :: rest, hfields, access => by
    rw [Field.requests, List.forall_mem_append] at hfields
    obtain ⟨hfield, hrest⟩ := hfields
    have hchecks := Lockstep.compileAll henv hkeeps rest hrest access
    have hkeys : env'.keys = env.keys := congrArg Scope.keys henv.scope.symm
    have hsimplifies : env'.simplifies = env.simplifies := congrArg Scope.simplifies henv.scope.symm
    simp only [Field.compileAll, hkeys, hsimplifies]
    split
    · exact hchecks
    next hshown =>
      rw [if_neg hshown] at hfield
      split
      next hflat =>
        rw [if_pos hflat] at hfield
        have hsites := Lockstep.schemaSite henv hkeeps schema hfield
        refine L.agree_bind (L.inField (hsites.fields (access ++ [name]))) fun inner hinner => ?_
        refine L.agree_bind hchecks fun checks hchecks => L.agree_pure ?_
        exact List.forall_mem_append.2 ⟨hinner, hchecks⟩
      next hflat =>
        rw [if_neg hflat] at hfield
        obtain ⟨hrequest, hparts⟩ := List.forall_mem_cons.1 hfield
        have hanswer := henv.memo _ hrequest (L.agree_bind (L.readRule _) fun rule? _ =>
          Lockstep.schemaCompile henv hkeeps schema hparts rule? _)
        refine L.agree_bind (L.inField hanswer) fun v hv => ?_
        refine L.agree_bind hchecks fun checks hchecks => L.agree_pure ?_
        split
        · exact hchecks
        · exact List.forall_mem_cons.2 ⟨hv, hchecks⟩

end

/-- Compiling has the same outcome in two compilers that agree on a request and on the ones that come of it. -/
theorem compile (henv : L.EnvsAgree Good R env env') (hkeeps : env.registry.Keeps Good Check) (rule : String)
    (s : Schema) (mods : List Modifier) (hR : ∀ q ∈ Request.all env.keys ⟨rule, s, mods⟩, R q) :
    L.agree (env.compile rule s mods) (env'.compile rule s mods) Good := by
  obtain ⟨hrequest, hparts⟩ := List.forall_mem_cons.1 hR
  exact henv.memo _ hrequest (L.agree_bind (L.readRule rule) fun rule? _ =>
    L.schemaCompile henv hkeeps s hparts rule? mods)

end Lockstep

end FieldRules
