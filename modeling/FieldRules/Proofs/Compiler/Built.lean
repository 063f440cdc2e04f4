import FieldRules.Proofs.Compiler.Outcome
import FieldRules.Proofs.Schema.Names

/-!
# What compiling can build

`Built` says what validators come out of compiling, whatever the rules are: every loader has the codec of its
schema and a default that its check accepts, and below a loader the fields of a struct are those of the
schema, in order and some of them left out. With a cache, where answers are shared between requests, it is all
that is known of an answer.
-/

namespace FieldRules

/-- Where the check of a field looks. -/
def FieldCheck.spot (c : FieldCheck) : List String × String :=
  (c.access, c.name)

/-- Whether a default is the value of its text, and its check accepts what it sees of it. -/
def EmptyPolicy.Materialized (s : Schema) (inner : Option Validator) (onEmpty : EmptyPolicy) : Prop :=
  ∀ text value, onEmpty = .fill text value →
    ∃ seen, readDefault s text = .ok (value, seen) ∧ ∀ v, inner = some v → v.validate seen = []

mutual

/-- The validators that compiling makes for schemas with a property. -/
inductive Built (keys : TagKeys) (P : Schema → Prop) : Validator → Prop
  | loader {s : Schema} {inner : Option Validator} {onEmpty : EmptyPolicy} {message? : Option String}
      (schema : P s) (check : ∀ v, inner = some v → BuiltCheck keys P s v)
      (default : onEmpty.Materialized s inner) :
      Built keys P (.loader ⟨s, inner, onEmpty, message?, s.codec?⟩)

/-- The checks that compiling makes in a loader for a schema. -/
inductive BuiltCheck (keys : TagKeys) (P : Schema → Prop) : Schema → Validator → Prop
  | integer (s : Schema) (c : IntegerCheck) : BuiltCheck keys P s (.integer c)
  | float (s : Schema) (c : FloatCheck) : BuiltCheck keys P s (.float c)
  | text (s : Schema) (c : TextCheck) : BuiltCheck keys P s (.text c)
  | format (s : Schema) (f : Format) : BuiltCheck keys P s (.format f)
  | slice (s : Schema) {item : Option Validator} (bounds : Bounds Nat) (length? : Option Nat)
      (item_built : ∀ v, item = some v → Built keys P v) : BuiltCheck keys P s (.slice item bounds length?)
  | map (s : Schema) {key item : Option Validator} (bounds : Bounds Nat)
      (key_built : ∀ v, key = some v → Built keys P v) (item_built : ∀ v, item = some v → Built keys P v) :
      BuiltCheck keys P s (.map key item bounds)
  | struct {s : Schema} {checks : List FieldCheck}
    (spots : (checks.map FieldCheck.spot).Sublist (s.spots keys []))
      (checks_built : ∀ c ∈ checks, Built keys P c.validator) : BuiltCheck keys P s (.struct checks)
  /-- A rule that stands for another one has the loader of that one as its check. -/
  | loader (s : Schema) {v : Validator} (built : Built keys P v) : BuiltCheck keys P s v

end

/-- A check that was made for one schema fits another one with the same fields. -/
private theorem BuiltCheck.of_spots {keys : TagKeys} {P : Schema → Prop} {s t : Schema}
    (hspots : (t.spots keys []).Sublist (s.spots keys [])) {v : Validator} (h : BuiltCheck keys P t v) :
    BuiltCheck keys P s v := by
  cases h with
  | integer _ c => exact .integer s c
  | float _ c => exact .float s c
  | text _ c => exact .text s c
  | format _ f => exact .format s f
  | slice _ bounds length? hitem => exact .slice s bounds length? hitem
  | map _ bounds hkey hitem => exact .map s bounds hkey hitem
  | struct hchecksSpots hchecks => exact .struct (hchecksSpots.trans hspots) hchecks
  | loader _ h => exact .loader s h

/-- A property of schemas that goes down to their parts, and holds where nothing or only a text is known. -/
structure Hereditary (P : Schema → Prop) : Prop where
  any : P .any
  string : P .string
  types : ∀ s, P s → ∀ t ∈ s.types, P t

private theorem Schema.spots_eq (keys : TagKeys) (access : List String) (s : Schema) :
    s.spots keys access = s.shape.spots keys access := by
  cases s
  rfl

section

variable {m : Type → Type} [Monad m] [MonadExceptOf CompileError m] (L : OutcomeLogic m)

/-! ### Steps without parts -/

private theorem OutcomeLogic.orInvalid {α : Type} {r : Rule} {x : Except Defect α} {Q : α → Prop}
    (h : ∀ a, x = .ok a → Q a) :
    L.ensures (FieldRules.orInvalid r x) Q := by
  cases x with
  | error defect => exact L.throw
  | ok a => exact L.pure (h a rfl)

private theorem OutcomeLogic.throw_bind {α β : Type} {e : CompileError} {f : α → m β} {Q : β → Prop} :
    L.ensures (MonadExcept.throw e >>= f) Q :=
  L.bind (L.throw : L.ensures _ fun _ => False) fun _ h => h.elim

private theorem OutcomeLogic.expect (s : Site m) (r : Rule) (kinds : List Kind) :
    L.ensures (s.expect r kinds) fun _ => True := by
  unfold Site.expect
  split
  · exact L.pure trivial
  · exact L.throw

theorem OutcomeLogic.emptyPolicy (s : Schema) (inner : Option Validator) (r : Rule) :
    L.ensures (FieldRules.emptyPolicy s inner r) fun onEmpty => onEmpty.Materialized s inner := by
  unfold FieldRules.emptyPolicy
  split
  · exact L.pure (by rintro _ _ ⟨⟩)
  · exact L.pure (by rintro _ _ ⟨⟩)
  next text _ =>
    split
    · exact L.throw
    next value seen hread =>
      have hfill (hseen : ∀ v, inner = some v → v.validate seen = []) :
          (EmptyPolicy.fill text value).Materialized s inner := by
        rintro _ _ ⟨⟩
        exact ⟨seen, hread, hseen⟩
      cases inner with
      | none => exact L.pure (hfill (by simp))
      | some v =>
        simp only
        split
        next hpasses =>
          refine L.pure (hfill ?_)
          rintro _ ⟨⟩
          exact List.isEmpty_iff.1 hpasses
        · exact L.throw

private theorem OutcomeLogic.load {keys : TagKeys} {P : Schema → Prop} {s : Schema} {inner : Option Validator}
    {r : Rule} {message? : Option String} (hs : P s) (hinner : ∀ v, inner = some v → BuiltCheck keys P s v) :
    L.ensures (FieldRules.load s inner r message?) (Built keys P) :=
  L.bind (L.emptyPolicy s inner r) fun _ hdefault => L.pure (.loader hs hinner hdefault)

/-! ### Sites -/

/-- What is known of a site: the ways to compile the rules of its parts make validators as expected, and the
checks of its fields look where its schema says. -/
structure Site.Sound (keys : TagKeys) (P : Schema → Prop) (site : Site m) : Prop where
  target : P site.target
  item : ∀ compile, site.item? = some compile → ∀ rule?, L.ensures (compile rule?) (Built keys P)
  key : ∀ compile, site.key? = some compile → ∀ rule?, L.ensures (compile rule?) (Built keys P)
  fields : ∀ access, L.ensures (site.fields access) fun checks =>
    (checks.map FieldCheck.spot).Sublist (site.target.spots keys access) ∧
      ∀ c ∈ checks, Built keys P c.validator

/-- Whether the checks of fields that are made at a site are those of a schema. -/
def Site.Serves (keys : TagKeys) (site : Site m) (s : Schema) : Prop :=
  ∀ access, (site.target.spots keys access).Sublist (s.spots keys access)

variable {keys : TagKeys} {P : Schema → Prop} {site : Site m} {s : Schema} {scope : Scope}

private theorem Site.sound_leaf (hs : P s) : (leaf s : Site m).Sound L keys P where
  target := hs
  item := fun _ h => absurd h (Option.not_mem_none _)
  key := fun _ h => absurd h (Option.not_mem_none _)
  fields := fun _ => L.pure ⟨List.nil_sublist _, by simp⟩

private theorem Site.Sound.own (hP : Hereditary P) (h : site.Sound L keys P) : site.own.Sound L keys P := by
  unfold Site.own
  split
  · exact Site.sound_leaf L hP.string
  · exact h

omit [MonadExceptOf CompileError m] in
private theorem Site.own_serves (site : Site m) : site.own.Serves keys site.target := by
  unfold Site.own Site.Serves
  split
  · exact fun _ => List.nil_sublist _
  · exact fun _ => List.Sublist.refl _

private theorem OutcomeLogic.param {compile : Nat → m Validator} {i : Nat}
    (h : L.ensures (compile i) (Built keys P)) :
    L.ensures (Site.param scope compile i) fun v? => ∀ v, v? = some v → Built keys P v := by
  refine L.bind h fun v hv => L.pure ?_
  rintro w hw
  split at hw
  · cases hw
  · exact Option.some.inj hw ▸ hv

/-- What creators make at a site, given the ways to compile the rules in params. -/
private theorem OutcomeLogic.create (hsite : site.Sound L keys P) {r : Rule} {key item same : Nat → m Validator}
    {anew : Rule → m Validator} (hkey : ∀ i, L.ensures (key i) (Built keys P))
    (hitem : ∀ i, L.ensures (item i) (Built keys P)) (hsame : ∀ i, L.ensures (same i) (Built keys P))
    (hanew : ∀ rule, L.ensures (anew rule) (Built keys P)) (creation : Creation) :
    L.ensures (site.create scope r key item same anew creation) (BuiltCheck keys P site.target) := by
  cases creation with
  | integer signed =>
    refine L.bind (L.expect ..) fun _ _ => ?_
    exact L.bind (L.orInvalid fun _ _ => trivial) fun c _ => L.pure (.integer site.target c)
  | float =>
    refine L.bind (L.expect ..) fun _ _ => ?_
    exact L.bind (L.orInvalid fun _ _ => trivial) fun c _ => L.pure (.float site.target c)
  | text =>
    refine L.bind (L.expect ..) fun _ _ => ?_
    exact L.bind (L.orInvalid fun _ _ => trivial) fun c _ => L.pure (.text site.target c)
  | format f =>
    refine L.bind (L.expect ..) fun _ _ => ?_
    exact L.bind (L.orInvalid fun _ _ => trivial) fun _ _ => L.pure (.format site.target f)
  | struct =>
    refine L.bind (L.expect ..) fun _ _ => ?_
    refine L.bind (L.orInvalid fun _ _ => trivial) fun _ _ => ?_
    exact L.bind (hsite.fields []) fun checks h => L.pure (.struct h.1 h.2)
  | slice =>
    refine L.bind (L.expect ..) fun _ _ => ?_
    refine L.bind (L.orInvalid fun _ _ => trivial) fun _ _ => ?_
    split
    · exact L.throw_bind
    refine L.bind (L.param (hitem 0)) fun item hitem => ?_
    refine L.bind (L.orInvalid fun _ _ => trivial) fun bounds _ => ?_
    exact L.bind (L.orInvalid fun _ _ => trivial) fun _ _ => L.pure (.slice site.target bounds _ hitem)
  | map =>
    refine L.bind (L.expect ..) fun _ _ => ?_
    refine L.bind (L.orInvalid fun _ _ => trivial) fun _ _ => ?_
    split
    · exact L.throw_bind
    refine L.bind (L.orInvalid fun _ _ => trivial) fun bounds _ => ?_
    refine L.bind (L.param (hkey 0)) fun key hkey => ?_
    exact L.bind (L.param (hitem 1)) fun item hitem => L.pure (.map site.target bounds hkey hitem)
  | derived kinds rule =>
    refine L.bind (L.expect ..) fun _ _ => ?_
    exact L.mono (hanew rule) fun v hv => .loader site.target hv
  | forwarding refused =>
    simp only [Site.create]
    split
    · exact L.throw_bind
    refine L.bind (L.param (hsame 0)) fun v? hv => ?_
    cases v? with
    | none => exact L.throw
    | some v => exact L.pure (.loader site.target (hv v rfl))

/-- The ways to compile rules in the place of rules, at sites of which enough is known. -/
def Expands (keys : TagKeys) (P : Schema → Prop) (expand : Site m → Schema → Option Rule → m Validator) :
    Prop :=
  ∀ (site : Site m) (s : Schema) (rule? : Option Rule), site.Sound L keys P → site.Serves keys s → P s →
    L.ensures (expand site s rule?) (Built keys P)

variable {expand : Site m → Schema → Option Rule → m Validator}

mutual

/-- The check of a rule is one that can be built. -/
private theorem OutcomeLogic.inner (hP : Hereditary P) (hexpand : Expands L keys P expand) (inferred : Bool) :
    (r : Rule) → ∀ site : Site m, site.Sound L keys P →
      L.ensures (site.inner scope expand inferred r) fun v? =>
        ∀ v, v? = some v → BuiltCheck keys P site.target v
  | ⟨raw, name, params, range, values, pattern, presence⟩ => by
    intro site hsite
    have hnth := OutcomeLogic.nth hP hexpand params
    simp only [Site.inner]
    split
    · exact L.pure (by simp)
    split
    · exact L.throw
    next creation _ =>
      have hpart (part : Option (Option Rule → m Validator))
          (h : ∀ compile, part = some compile → ∀ rule?, L.ensures (compile rule?) (Built keys P)) (r : Rule)
          (i : Nat) :
          L.ensures (match part with
            | some compile => (do compile (← FieldRules.orInvalid r (paramRule params i)))
            | none => (do (← FieldRules.orInvalid r (Site.nth scope expand (Site.leaf .any) .any params i))))
            (Built keys P) := by
        cases part with
        | some compile => exact L.bind (L.orInvalid fun _ _ => trivial) fun rule? _ => h compile rfl rule?
        | none =>
          refine L.bind (L.orInvalid fun x hx => ?_) fun x (hx : L.ensures x (Built keys P)) => hx
          exact hnth (Site.leaf .any) .any (Site.sound_leaf L hP.any)
            (fun _ => List.Sublist.refl _) hP.any i x hx
      have hsame (r : Rule) (i : Nat) : L.ensures
          (do (← FieldRules.orInvalid r (Site.nth scope expand site.own site.target params i)))
          (Built keys P) := by
        refine L.bind (L.orInvalid fun x hx => ?_) fun x (hx : L.ensures x (Built keys P)) => hx
        exact hnth site.own site.target (hsite.own L hP) site.own_serves hsite.target i x hx
      have hanew (rule : Rule) : L.ensures (expand site.own site.target (some rule)) (Built keys P) :=
        hexpand site.own site.target (some rule) (hsite.own L hP) site.own_serves hsite.target
      refine L.bind (L.create hsite (hpart _ hsite.key _) (hpart _ hsite.item _) (hsame _) hanew creation) ?_
      intro v hv
      refine L.pure ?_
      intro w hw
      split at hw
      · cases hw
      · exact Option.some.inj hw ▸ hv

private theorem OutcomeLogic.nth (hP : Hereditary P) (hexpand : Expands L keys P expand) : (ps : List Param) →
    ∀ (site : Site m) (s : Schema), site.Sound L keys P → site.Serves keys s → P s →
      ∀ (i : Nat) (x : m Validator), Site.nth scope expand site s ps i = .ok x → L.ensures x (Built keys P)
  | [], site, s, hsite, hserves, hs, i, x, hx => by
    obtain rfl : expand site s none = x := Except.ok.inj hx
    exact hexpand site s none hsite hserves hs
  | .blank :: ps, site, s, hsite, hserves, hs, 0, x, hx => by
    obtain rfl : expand site s none = x := Except.ok.inj hx
    exact hexpand site s none hsite hserves hs
  | .literal text :: ps, _, _, _, _, _, 0, _, hx => by cases hx
  | .rule r :: ps, site, s, hsite, hserves, hs, 0, x, hx => by
    obtain rfl := Except.ok.inj hx
    refine L.bind (OutcomeLogic.inner hP hexpand false r site hsite) fun inner hinner => ?_
    exact L.load hs fun v hv => (hinner v hv).of_spots (hserves [])
  | p :: ps, site, s, hsite, hserves, hs, i + 1, x, hx =>
    OutcomeLogic.nth hP hexpand ps site s hsite hserves hs i x (by cases p <;> exact hx)

end

/-- What is compiled at a site can be built, however often rules are put in the place of rules. -/
private theorem OutcomeLogic.siteCompile (hP : Hereditary P) (n : Nat) (mods : List Modifier) :
    Expands L keys P fun site s rule? => Site.compile scope n site s rule? mods := by
  induction n generalizing mods with
  | zero => exact fun _ _ _ _ _ _ => L.throw
  | succ n ih =>
    intro site s rule? hsite hserves hs
    refine L.bind (L.inner hP (ih []) _ _ site hsite) fun inner hinner => ?_
    exact L.load hs fun v hv => (hinner v hv).of_spots (hserves [])

end

/-! ### Schemas -/

section

variable {m : Type → Type} [Monad m] [MonadExceptOf CompileError m] (L : OutcomeLogic m) {env : Env m}
  {P : Schema → Prop}

/-- Whether requests that are answered with what can be built are remembered as such. -/
def Env.Remembers (P : Schema → Prop) (env : Env m) : Prop :=
  ∀ key answer, L.ensures answer (Built env.keys P) → L.ensures (env.memo key answer) (Built env.keys P)

private theorem OutcomeLogic.inField {α : Type} {name : String} {x : m α} {Q : α → Prop} (h : L.ensures x Q) :
    L.ensures (FieldRules.inField name x) Q :=
  L.tryCatch h fun _ => L.throw

private theorem OutcomeLogic.readRule (text : String) : L.ensures (FieldRules.readRule text) fun _ => True := by
  unfold FieldRules.readRule
  split
  · exact L.pure trivial
  · split
    · exact L.pure trivial
    · exact L.throw

theorem OutcomeLogic.request (hmemo : env.Remembers L P) {rule : String} {s : Schema} {mods : List Modifier}
    {compile : Option Rule → m Validator} (h : ∀ rule?, L.ensures (compile rule?) (Built env.keys P)) :
    L.ensures (env.request rule s mods compile) (Built env.keys P) :=
  hmemo _ _ (L.bind (L.readRule rule) fun rule? _ => h rule?)

mutual

/-- What is compiled for a schema can be built. -/
theorem OutcomeLogic.schemaCompile (hP : Hereditary P) (hmemo : env.Remembers L P) : (s : Schema) → P s →
    ∀ rule? mods, L.ensures (s.compile env rule? mods) (Built env.keys P)
  | ⟨shape, alias?, some codec, test⟩, hs, rule?, mods => by
    simp only [Schema.compile]
    exact L.siteCompile hP _ mods _ _ rule? (Site.sound_leaf L hP.string) (fun _ => List.nil_sublist _) hs
  | ⟨shape, alias?, none, test⟩, hs, rule?, mods => by
    obtain ⟨hsite, hserves⟩ := OutcomeLogic.shapeSite hP hmemo shape ⟨shape, alias?, none, test⟩ rfl hs
    simp only [Schema.compile]
    exact L.siteCompile hP _ mods _ _ rule? hsite hserves hs

theorem OutcomeLogic.schemaSite (hP : Hereditary P) (hmemo : env.Remembers L P) : (s : Schema) → P s →
    (s.site env).Sound L env.keys P ∧ (s.site env).Serves env.keys s
  | ⟨shape, alias?, codec?, test⟩, hs => by
    simp only [Schema.site]
    exact OutcomeLogic.shapeSite hP hmemo shape ⟨shape, alias?, codec?, test⟩ rfl hs

private theorem OutcomeLogic.shapeSite (hP : Hereditary P) (hmemo : env.Remembers L P) : (shape : Shape) →
    (s : Schema) → s.shape = shape → P s →
      (shape.site env s).Sound L env.keys P ∧ (shape.site env s).Serves env.keys s
  | .pointer target, s, hshape, hs => by
    have htarget : P target := hP.types s hs target (Schema.mem_types_of_shape (hshape ▸ target.mem_types_self))
    obtain ⟨hsite, hserves⟩ := OutcomeLogic.schemaSite hP hmemo target htarget
    simp only [Shape.site]
    refine ⟨hsite, fun access => ?_⟩
    rw [s.spots_eq, hshape]
    exact hserves access
  | .slice item, s, hshape, hs | .array item _, s, hshape, hs => by
    have hitem : P item := hP.types s hs item (Schema.mem_types_of_shape (hshape ▸ item.mem_types_self))
    have hleaf : (Site.leaf s).Sound L env.keys P := Site.sound_leaf L hs
    simp only [Shape.site]
    refine ⟨{ hleaf with item := ?_ }, fun _ => List.Sublist.refl _⟩
    rintro _ ⟨⟩ rule?
    exact OutcomeLogic.schemaCompile hP hmemo item hitem rule? []
  | .map key item, s, hshape, hs => by
    have hkey : P key := hP.types s hs key
      (Schema.mem_types_of_shape (hshape ▸ List.mem_append_left _ key.mem_types_self))
    have hitem : P item := hP.types s hs item
      (Schema.mem_types_of_shape (hshape ▸ List.mem_append_right _ item.mem_types_self))
    have hleaf : (Site.leaf s).Sound L env.keys P := Site.sound_leaf L hs
    simp only [Shape.site]
    refine ⟨{ hleaf with item := ?_, key := ?_ }, fun _ => List.Sublist.refl _⟩
    · rintro _ ⟨⟩ rule?
      exact OutcomeLogic.schemaCompile hP hmemo item hitem rule? []
    · rintro _ ⟨⟩ rule?
      exact OutcomeLogic.schemaCompile hP hmemo key hkey rule? []
  | .struct fields, s, hshape, hs => by
    have hfields : ∀ t ∈ Field.types fields, P t := fun t ht =>
      hP.types s hs t (Schema.mem_types_of_shape (hshape ▸ ht))
    have hleaf : (Site.leaf s).Sound L env.keys P := Site.sound_leaf L hs
    simp only [Shape.site]
    refine ⟨{ hleaf with fields := fun access => ?_ }, fun _ => List.Sublist.refl _⟩
    have hspots : (Site.leaf s : Site m).target.spots env.keys access = Field.spots env.keys access fields := by
      rw [Site.leaf, s.spots_eq, hshape, Shape.spots]
    rw [hspots]
    exact OutcomeLogic.compileAll hP hmemo fields hfields access
  | .bool, s, _, hs | .int _, s, _, hs | .uint _, s, _, hs | .float _, s, _, hs | .string, s, _, hs
  | .any, s, _, hs => by
    simp only [Shape.site]
    exact ⟨Site.sound_leaf L hs, fun _ => List.Sublist.refl _⟩

private theorem OutcomeLogic.compileAll (hP : Hereditary P) (hmemo : env.Remembers L P) : (fields : List Field) →
    (∀ t ∈ Field.types fields, P t) → ∀ access, L.ensures (Field.compileAll env fields access) fun checks =>
      (checks.map FieldCheck.spot).Sublist (Field.spots env.keys access fields) ∧
        ∀ c ∈ checks, Built env.keys P c.validator
  | [], _, _ => L.pure ⟨List.Sublist.refl _, by simp⟩
  | ⟨name, schema, tag, embedded⟩ :: rest, hfields, access => by
    rw [Field.types, List.forall_mem_append] at hfields
    have hschema : P schema := hfields.1 schema schema.mem_types_self
    have hrest := OutcomeLogic.compileAll hP hmemo rest hfields.2 access
    rw [Field.spots]
    simp only [Field.compileAll]
    split
    · -- A hidden field has no check.
      exact L.mono hrest fun checks h => ⟨h.1.trans (List.sublist_append_right ..), h.2⟩
    split
    next hflat =>
      obtain ⟨hsite, hserves⟩ := OutcomeLogic.schemaSite hP hmemo schema hschema
      refine L.bind (L.inField (hsite.fields (access ++ [name]))) fun inner hinner => ?_
      refine L.bind hrest fun checks h => L.pure ⟨?_, List.forall_mem_append.2 ⟨hinner.2, h.2⟩⟩
      rw [List.map_append]
      exact (hinner.1.trans (hserves _)).append h.1
    next hflat =>
      refine L.bind (L.inField (L.request hmemo fun rule? => ?_)) fun v hv => ?_
      · exact OutcomeLogic.schemaCompile hP hmemo schema hschema rule? _
      refine L.bind hrest fun checks h => L.pure ?_
      split
      · exact ⟨h.1.trans (List.sublist_append_right ..), h.2⟩
      · exact ⟨h.1.cons_cons _, List.forall_mem_cons.2 ⟨hv, h.2⟩⟩

end

end

end FieldRules
