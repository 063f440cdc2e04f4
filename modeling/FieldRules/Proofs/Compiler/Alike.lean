import FieldRules.Proofs.Compiler.Codecs
import FieldRules.Proofs.Compiler.Direct
import FieldRules.Proofs.Compiler.Modifiers
import FieldRules.Proofs.Schema.Matching

/-!
# Validators of matching schemas

A rule is compiled twice: for schemas that match, by compilers that may differ in what they leave out. `Alike` says
how the two validators go together, part by part, and what is known of either: which schema each loader is for, and
that nothing is refused where nothing is checked. When the first compiler succeeds, so does the second, with a
validator like that of the first (`Schema.compile_alike`). It takes one fact of checks that are alike: whatever the
first one accepts as a default, the second one accepts too (`Scope.Precedes`).

No rule stands for another one here, so that every check is that of a family or a format.
-/

namespace FieldRules

/-- The check as it is kept in a loader: an inferred one that accepts everything is left out. -/
def Scope.settle (scope : Scope) (inferred : Bool) (c : Validator) : Option Validator :=
  if scope.simplifies && inferred && c.isVacuous then none else some c

/-- Whether a check looks at scalars only. -/
def Validator.isLeaf : Validator → Bool
  | .integer _ | .float _ | .text _ | .format _ => true
  | _ => false

mutual

/-- Whether two loaders come of the same rule for matching schemas. The schema and the message are those of the
first. -/
inductive Alike (scope scope' : Scope) (M : Option String → Option String → Prop) :
    Schema → Option String → Validator → Validator → Prop
  | unchecked {s s' : Schema} {m m' : Option String} {onEmpty : EmptyPolicy}
      (schemas : s.Matches scope.keys M s') (messages : M m m') (optional : onEmpty ≠ .refuse) :
      Alike scope scope' M s m (.loader ⟨s, none, onEmpty, m, s.codec?⟩) (.loader ⟨s', none, onEmpty, m', s'.codec?⟩)
  | checked {s s' : Schema} {m m' : Option String} {onEmpty : EmptyPolicy} {inferred : Bool} {c c' : Validator}
      (schemas : s.Matches scope.keys M s') (messages : M m m') (optional : inferred = true → onEmpty ≠ .refuse)
      (implied : inferred = true → s.seen.target.kind ≠ .any)
      (checks : AlikeCheck scope scope' M s.seen.target c c') :
      Alike scope scope' M s m (.loader ⟨s, scope.settle inferred c, onEmpty, m, s.codec?⟩)
        (.loader ⟨s', scope'.settle inferred c', onEmpty, m', s'.codec?⟩)

/-- Whether two checks come of the same rule for schemas that match and are no pointers. -/
inductive AlikeCheck (scope scope' : Scope) (M : Option String → Option String → Prop) :
    Schema → Validator → Validator → Prop
  | leaf {t : Schema} {c : Validator} (kind : t.kind ∈ [.any, .int, .uint, .float, .string])
      (leaf : c.isLeaf = true) : AlikeCheck scope scope' M t c c
  | slice {t : Schema} {item item' : Validator} {bounds : Bounds Nat} (kind : t.kind ∈ [.any, .slice, .array])
      (length : checkLength bounds t.length? = .ok ())
      (items : Alike scope scope' M (t.item?.getD .any) none item item') :
      AlikeCheck scope scope' M t (.slice (scope.keep item) bounds t.length?)
        (.slice (scope'.keep item') bounds t.length?)
  | map {t : Schema} {key key' item item' : Validator} (bounds : Bounds Nat) (kind : t.kind ∈ [.any, .map])
      (keys_alike : Alike scope scope' M (t.key?.getD .any) none key key')
      (items : Alike scope scope' M (t.item?.getD .any) none item item') :
      AlikeCheck scope scope' M t (.map (scope.keep key) (scope.keep item) bounds)
        (.map (scope'.keep key') (scope'.keep item') bounds)
  | struct {t : Schema} {all all' : List FieldCheck} (kind : t.kind ∈ [.any, .struct])
      (fields : AlikeFields scope scope' M (t.flatFields scope.keys []) all all') :
      AlikeCheck scope scope' M t (.struct (all.filter scope.retains)) (.struct (all'.filter scope'.retains))

/-- Whether two lists of checks come of the same fields. -/
inductive AlikeFields (scope scope' : Scope) (M : Option String → Option String → Prop) :
    List FieldAt → List FieldCheck → List FieldCheck → Prop
  | nil : AlikeFields scope scope' M [] [] []
  | cons {a : FieldAt} {v v' : Validator} {as : List FieldAt} {all all' : List FieldCheck}
      (field : Alike scope scope' M a.field.schema (a.field.tag.message? scope.keys) v v')
      (rest : AlikeFields scope scope' M as all all') :
      AlikeFields scope scope' M (a :: as) (⟨a.access, a.field.name, a.label scope.keys, v⟩ :: all)
        (⟨a.access, a.field.name, a.label scope.keys, v'⟩ :: all')

end

/-! ### Computations -/

/-- Whether the second computation has an outcome if the first has one, and the two are related. -/
def Follows {α β : Type} (Q : α → β → Prop) (x : Compiled α) (y : Compiled β) : Prop :=
  ∀ a, x = .ok a → ∃ b, y = .ok b ∧ Q a b

namespace Follows

variable {α β γ δ : Type} {P Q : α → β → Prop} {R : γ → δ → Prop} {x : Compiled α} {y : Compiled β}

private theorem pure {a : α} {b : β} (h : Q a b) : Follows Q (Pure.pure a) (Pure.pure b) := by
  rintro _ ⟨⟩
  exact ⟨b, rfl, h⟩

private theorem throw {e : CompileError} : Follows Q (MonadExcept.throw e) y :=
  nofun

private theorem bind {f : α → Compiled γ} {g : β → Compiled δ} (h : Follows Q x y)
    (hf : ∀ a b, Q a b → Follows R (f a) (g b)) : Follows R (x >>= f) (y >>= g) := by
  intro c hc
  obtain ⟨a, ha, hc⟩ := bind_eq_ok.1 hc
  obtain ⟨b, hb, hab⟩ := h a ha
  obtain ⟨d, hd, hcd⟩ := hf a b hab c hc
  exact ⟨d, bind_eq_ok.2 ⟨b, hb, hd⟩, hcd⟩

/-- A computation follows itself. -/
private theorem self (x : Compiled α) : Follows (fun a b => x = .ok a ∧ a = b) x x :=
  fun a ha => ⟨a, ha, ha, rfl⟩

end Follows

theorem checkLength_eq_ok {bounds : Bounds Nat} {n : Nat} (h : checkLength bounds (some n) = .ok ()) :
    bounds.max = some n ∧ bounds.exclusiveMax = false := by
  rw [checkLength] at h
  split at h
  next hinclusive => exact hinclusive
  next => cases h

variable {scope scope' : Scope} {M : Option String → Option String → Prop}

/-- Whether one compiler succeeds whenever another one does, on schemas whose messages are related: they have the same
creators, none of which puts one rule in the place of another, and the same keys of tags, and what the first of two
checks that are alike accepts, the second one accepts too, as far as it is kept. -/
structure Scope.Precedes (scope scope' : Scope) (M : Option String → Option String → Prop) : Prop where
  registry : scope'.registry = scope.registry
  keys : scope'.keys = scope.keys
  direct : scope.registry.Direct
  no_message : M none none
  backed : ∀ (t : Schema) (inferred : Bool) (c c' : Validator), AlikeCheck scope scope' M t c c' →
    ∀ d' ∈ scope'.settle inferred c', ∃ d ∈ scope.settle inferred c, ∀ x, d.validate x = [] → d'.validate x = []

/-! ### Loaders -/

/-- What a rule becomes for matching schemas: nothing if it has no name, else checks that are alike. -/
inductive AlikeInner (scope scope' : Scope) (M : Option String → Option String → Prop) (t : Schema) (r : Rule)
    (inferred : Bool) : Option Validator → Option Validator → Prop
  | unchecked (nameless : r.name = "") : AlikeInner scope scope' M t r inferred none none
  | checked {c c' : Validator} (named : r.name ≠ "") (checks : AlikeCheck scope scope' M t c c') :
      AlikeInner scope scope' M t r inferred (scope.settle inferred c) (scope'.settle inferred c')

/-- A rule decides what happens to empty values by its mark, and a default has to be a value that its check
accepts. -/
private theorem emptyPolicy_eq_ok_iff {s : Schema} {inner : Option Validator} {r : Rule} {policy : EmptyPolicy} :
    (emptyPolicy s inner r : Compiled EmptyPolicy) = .ok policy ↔
      policy.presence = r.presence ∧ policy.Materialized s inner := by
  constructor
  · intro h
    exact ⟨(emptyPolicy_of_presence h).1, OutcomeLogic.plain.emptyPolicy s inner r policy h⟩
  · rintro ⟨hpresence, hdefault⟩
    unfold emptyPolicy
    rw [← hpresence]
    cases policy with
    | refuse | pass => rfl
    | fill text value =>
      obtain ⟨seen, hread, hpasses⟩ := hdefault text value rfl
      cases inner with
      | none => simp only [EmptyPolicy.presence, hread]; rfl
      | some v => simp only [EmptyPolicy.presence, hread, hpasses v rfl]; rfl

/-- A default that a check accepts is accepted by one that accepts as much. -/
private theorem emptyPolicy_of_backed {s s' : Schema} {inner inner' : Option Validator} {r : Rule}
    {policy : EmptyPolicy} (hread : ∀ text, readDefault s text = readDefault s' text)
    (hbacked : ∀ d' ∈ inner', ∃ d ∈ inner, ∀ x, d.validate x = [] → d'.validate x = [])
    (h : (emptyPolicy s inner r : Compiled EmptyPolicy) = .ok policy) :
    (emptyPolicy s' inner' r : Compiled EmptyPolicy) = .ok policy := by
  obtain ⟨hpresence, hdefault⟩ := emptyPolicy_eq_ok_iff.1 h
  refine emptyPolicy_eq_ok_iff.2 ⟨hpresence, fun text value hfill => ?_⟩
  obtain ⟨seen, hseen, hpasses⟩ := hdefault text value hfill
  refine ⟨seen, hread text ▸ hseen, fun d' hd' => ?_⟩
  obtain ⟨d, hd, haccepts⟩ := hbacked d' hd'
  exact haccepts seen (hpasses d hd)

private theorem load_alike (hscopes : scope.Precedes scope' M) {s s' : Schema} (hs : s.Matches scope.keys M s')
    {m m' : Option String} (hm : M m m') {r : Rule} {inferred : Bool}
    (hoptional : r.name = "" ∨ inferred = true → r.presence ≠ .required)
    (himplied : inferred = true → r.name ≠ "" → s.seen.target.kind ≠ .any) {inner inner' : Option Validator}
    (hinner : AlikeInner scope scope' M s.seen.target r inferred inner inner') :
    Follows (Alike scope scope' M s m) (load s inner r m) (load s' inner' r m') := by
  intro v hv
  obtain ⟨policy, hpolicy, rfl⟩ := load_eq_ok_iff.1 hv
  have hpresence : r.presence ≠ .required → policy ≠ .refuse := by
    rintro h rfl
    exact h (emptyPolicy_of_presence hpolicy).1.symm
  cases hinner with
  | unchecked nameless =>
    have hpolicy' : (emptyPolicy s' none r : Compiled EmptyPolicy) = .ok policy :=
      emptyPolicy_of_backed hs.readDefault nofun hpolicy
    exact ⟨_, load_eq_ok_iff.2 ⟨policy, hpolicy', rfl⟩, .unchecked hs hm (hpresence (hoptional (.inl nameless)))⟩
  | checked named checks =>
    have hpolicy' := emptyPolicy_of_backed hs.readDefault (hscopes.backed _ inferred _ _ checks) hpolicy
    exact ⟨_, load_eq_ok_iff.2 ⟨policy, hpolicy', rfl⟩,
      .checked hs hm (fun h => hpresence (hoptional (.inr h))) (fun h => himplied h named) checks⟩

/-! ### Sites -/

/-- Whether parts of two sites, if anything is known of them, compile a rule to validators that are alike. -/
inductive AlikePart (scope scope' : Scope) (M : Option String → Option String → Prop) :
    Option Schema → Option (Option Rule → Compiled Validator) → Option (Option Rule → Compiled Validator) → Prop
  | unknown : AlikePart scope scope' M none none none
  | known {t : Schema} {compile compile' : Option Rule → Compiled Validator}
      (compiles : ∀ rule?, (∀ r ∈ rule?, r.WellFormed) →
        Follows (Alike scope scope' M t none) (compile rule?) (compile' rule?)) :
      AlikePart scope scope' M (some t) (some compile) (some compile')

/-- Checks of the same fields, without those that each compiler leaves out. -/
def AlikeChecks (scope scope' : Scope) (M : Option String → Option String → Prop) (fields : List FieldAt)
    (checks checks' : List FieldCheck) : Prop :=
  ∃ all all', AlikeFields scope scope' M fields all all' ∧ checks = all.filter scope.retains ∧
    checks' = all'.filter scope'.retains

/-- Whether two sites are those of matching schemas that are no pointers. -/
structure Site.Paired (scope scope' : Scope) (M : Option String → Option String → Prop) (site site' : Site Compiled) :
    Prop where
  targets : site.target.Matches scope.keys M site'.target
  item : AlikePart scope scope' M site.target.item? site.item? site'.item?
  key : AlikePart scope scope' M site.target.key? site.key? site'.key?
  fields : Follows (AlikeChecks scope scope' M (site.target.flatFields scope.keys [])) (site.fields [])
    (site'.fields [])

namespace Site

private theorem paired_leaf {s s' : Schema} (hs : s.Matches scope.keys M s') (hscalar : s.shape.isScalar = true) :
    (leaf s).Paired scope scope' M (leaf s') := by
  obtain ⟨hitem, hkey, hfields⟩ := @Schema.parts_of_isScalar scope.keys s hscalar
  refine ⟨hs, ?_, ?_, Follows.pure ⟨[], [], ?_, rfl, rfl⟩⟩
  · exact hitem ▸ .unknown
  · exact hkey ▸ .unknown
  · exact hfields [] ▸ .nil

private theorem paired_any : (leaf .any).Paired scope scope' M (leaf .any) :=
  paired_leaf (.of_shapes none none none (.scalar rfl)) rfl

variable {site site' : Site Compiled} {r : Rule}

private theorem expect_follows (hsite : site.Paired scope scope' M site') (r : Rule) (kinds : List Kind) :
    Follows (fun _ _ => site.target.kind ∈ Kind.any :: kinds) (site.expect r kinds) (site'.expect r kinds) := by
  rintro ⟨⟩ h
  have hkind := expect_eq_ok_iff.1 h
  refine ⟨(), expect_eq_ok_iff.2 (hsite.targets.kind ▸ hkind), ?_⟩
  exact List.mem_cons.2 hkind

private theorem param_follows {t : Schema} {compile compile' : Nat → Compiled Validator} {i : Nat}
    (h : Follows (Alike scope scope' M t none) (compile i) (compile' i)) :
    Follows (fun kept kept' => ∃ v v', Alike scope scope' M t none v v' ∧ kept = scope.keep v ∧
      kept' = scope'.keep v')
      (param scope compile i) (param scope' compile' i) :=
  h.bind fun v v' hv => .pure ⟨v, v', hv, rfl, rfl⟩

/-- A creator makes checks that are alike, given ways to compile the parts that do. -/
private theorem create_follows (hsite : site.Paired scope scope' M site') (r : Rule)
    {key key' item item' same same' : Nat → Compiled Validator} {anew anew' : Rule → Compiled Validator}
    (hkey : ∀ i, Follows (Alike scope scope' M (site.target.key?.getD .any) none) (key i) (key' i))
    (hitem : ∀ i, Follows (Alike scope scope' M (site.target.item?.getD .any) none) (item i) (item' i))
    {creation : Creation} (hdirect : creation.isDirect = true) :
    Follows (AlikeCheck scope scope' M site.target) (site.create scope r key item same anew creation)
      (site'.create scope' r key' item' same' anew' creation) := by
  have hscalar {kind : Kind} (h : site.target.kind ∈ [.any, kind])
      (hkind : kind ∈ [Kind.int, .uint, .float, .string]) :
      site.target.kind ∈ [.any, .int, .uint, .float, .string] := by
    rcases List.mem_cons.1 h with h | h
    · exact h ▸ List.mem_cons_self ..
    · exact List.mem_cons_of_mem _ (List.mem_singleton.1 h ▸ hkind)
  cases creation with
  | integer signed =>
    refine (expect_follows hsite r _).bind fun _ _ hkind => ?_
    refine (Follows.self _).bind fun c _ ⟨_, hc⟩ => hc ▸ .pure (.leaf (hscalar hkind ?_) rfl)
    cases signed <;> decide
  | float =>
    refine (expect_follows hsite r _).bind fun _ _ hkind => ?_
    exact (Follows.self _).bind fun c _ ⟨_, hc⟩ => hc ▸ .pure (.leaf (hscalar hkind (by decide)) rfl)
  | text =>
    refine (expect_follows hsite r _).bind fun _ _ hkind => ?_
    exact (Follows.self _).bind fun c _ ⟨_, hc⟩ => hc ▸ .pure (.leaf (hscalar hkind (by decide)) rfl)
  | format f =>
    refine (expect_follows hsite r _).bind fun _ _ hkind => ?_
    exact (Follows.self _).bind fun _ _ _ => .pure (.leaf (hscalar hkind (by decide)) rfl)
  | slice =>
    refine (expect_follows hsite r _).bind fun _ _ hkind => (Follows.self _).bind fun _ _ _ => ?_
    split
    next => exact Follows.throw
    refine (param_follows (hitem 0)).bind fun kept kept' ⟨v, v', hv, hkept, hkept'⟩ => ?_
    refine (Follows.self _).bind fun bounds _ ⟨_, hbounds⟩ => ?_
    rw [← hsite.targets.length?, hkept, hkept', ← hbounds]
    refine (Follows.self _).bind fun ⟨⟩ _ ⟨hlength, _⟩ => .pure (.slice hkind (orInvalid_eq_ok_iff.1 hlength) hv)
  | map =>
    refine (expect_follows hsite r _).bind fun _ _ hkind => (Follows.self _).bind fun _ _ _ => ?_
    split
    next => exact Follows.throw
    refine (Follows.self _).bind fun bounds _ ⟨_, hbounds⟩ => ?_
    refine (param_follows (hkey 0)).bind fun kept kept' ⟨v, v', hv, hkept, hkept'⟩ => ?_
    refine (param_follows (hitem 1)).bind fun kept₁ kept₁' ⟨w, w', hw, hkept₁, hkept₁'⟩ => ?_
    rw [hkept, hkept', hkept₁, hkept₁', ← hbounds]
    exact .pure (.map bounds hkind hv hw)
  | struct =>
    refine (expect_follows hsite r _).bind fun _ _ hkind => (Follows.self _).bind fun _ _ _ => ?_
    refine hsite.fields.bind fun checks checks' ⟨all, all', hall, hchecks, hchecks'⟩ => ?_
    rw [hchecks, hchecks']
    exact .pure (.struct hkind hall)
  | derived kinds rule => cases hdirect
  | forwarding refused => cases hdirect

variable {expand expand' : Site Compiled → Schema → Option Rule → Compiled Validator}

mutual

/-- Where creators are the same, a rule becomes checks that are alike. -/
private theorem inner_follows (hscopes : scope.Precedes scope' M)
    (hany : Follows (Alike scope scope' M .any none) (expand (leaf .any) .any none) (expand' (leaf .any) .any none))
    (inferred : Bool) : (r : Rule) → Param.AllWellFormed r.params → ∀ {site site' : Site Compiled},
    site.Paired scope scope' M site' → Follows (AlikeInner scope scope' M site.target r inferred)
      (site.inner scope expand inferred r) (site'.inner scope' expand' inferred r)
  | ⟨raw, name, params, range, values, pattern, presence⟩, hparams, site, site', hsite => by
    let r : Rule := ⟨raw, name, params, range, values, pattern, presence⟩
    change Follows (AlikeInner scope scope' M site.target r inferred) (site.inner scope expand inferred r)
      (site'.inner scope' expand' inferred r)
    by_cases hname : name = ""
    · simp only [r, inner, hname, if_true]
      exact .pure (.unchecked rfl)
    cases hcreation : Fields.get? scope.registry name with
    | none =>
      simp only [r, inner, hname, if_false, hcreation]
      exact Follows.throw
    | some creation =>
      have hcreation' : Fields.get? scope'.registry name = some creation := hscopes.registry ▸ hcreation
      have hpart {t? : Option Schema} {known? known?' : Option (Option Rule → Compiled Validator)}
          (hknown : AlikePart scope scope' M t? known? known?') (i : Nat) :
          Follows (Alike scope scope' M (t?.getD .any) none) (partAt r (part scope expand known?) i)
            (partAt r (part scope' expand' known?') i) := by
        refine (Follows.self _).bind fun rule? _ ⟨hrule, heq⟩ => heq ▸ ?_
        have hrule : paramRule params i = .ok rule? := orInvalid_eq_ok_iff.1 hrule
        cases hknown with
        | known compiles =>
          refine compiles rule? ?_
          rintro p rfl
          exact Param.allWellFormed_iff.1 hparams _ (mem_of_paramRule hrule)
        | unknown =>
          cases rule? with
          | none => exact hany
          | some p => exact compileParam_follows hscopes hany params hparams p (mem_of_paramRule hrule)
      rw [inner_eq_create expand site inferred (r := r) hname hcreation,
        inner_eq_create expand' site' inferred (r := r) hname hcreation']
      refine (create_follows hsite r (hpart hsite.key) (hpart hsite.item) (hscopes.direct _ _ hcreation)).bind ?_
      exact fun c c' hc => .pure (.checked hname hc)

/-- A rule among params becomes validators that are alike, where nothing is known of the values. -/
private theorem compileParam_follows (hscopes : scope.Precedes scope' M)
    (hany : Follows (Alike scope scope' M .any none) (expand (leaf .any) .any none) (expand' (leaf .any) .any none)) :
    (ps : List Param) → Param.AllWellFormed ps → ∀ p, .rule p ∈ ps → Follows (Alike scope scope' M .any none)
      (compileParam scope expand (leaf .any) .any (some p)) (compileParam scope' expand' (leaf .any) .any (some p))
  | [], _, p, hmem => absurd hmem List.not_mem_nil
  | .blank :: ps, hps, p, hmem | .literal _ :: ps, hps, p, hmem => by
    rcases List.mem_cons.1 hmem with hp | hmem
    · cases hp
    · exact compileParam_follows hscopes hany ps hps.2 p hmem
  | .rule r :: ps, hps, p, hmem => by
    rcases List.mem_cons.1 hmem with hp | hmem
    · obtain rfl := Param.rule.inj hp.symm
      obtain ⟨hname, hparams, -⟩ := Rule.wellFormed_iff.1 hps.1
      refine (inner_follows hscopes hany false r hparams paired_any).bind fun inner inner' hinner => ?_
      refine load_alike hscopes (.of_shapes none none none (.scalar rfl)) hscopes.no_message ?_
        (fun h => absurd h Bool.false_ne_true) hinner
      rintro (hnameless | h)
      · exact absurd hnameless hname.isLiteral.1
      · cases h
    · exact compileParam_follows hscopes hany ps hps.2 p hmem

end

end Site

/-! ### Schemas -/

/-- Where nothing is known of values and no rule is given, nothing is checked. -/
private theorem Scope.expand_any (hM : M none none) : Follows (Alike scope scope' M .any none)
    (scope.expand (.leaf .any) .any none) (scope'.expand (.leaf .any) .any none) :=
  Follows.pure (.unchecked (.of_shapes none none none (.scalar rfl)) hM nofun)

/-- What a field is compiled to: checks that look at the same place and are reported under the same name. -/
def FieldAt.Compiles (scope scope' : Scope) (M : Option String → Option String → Prop) (a a' : FieldAt) : Prop :=
  Follows (fun c c' => ∃ v v', Alike scope scope' M a.field.schema (a.field.tag.message? scope.keys) v v' ∧
      c = ⟨a.access, a.field.name, a.label scope.keys, v⟩ ∧ c' = ⟨a.access, a.field.name, a.label scope.keys, v'⟩)
    (a.compile scope) (a'.compile scope')

private theorem FieldAt.mapM_compile_follows {as as' : List FieldAt}
    (h : List.Forall₂ (FieldAt.Compiles scope scope' M) as as') :
    Follows (AlikeFields scope scope' M as) (as.mapM (FieldAt.compile scope))
      (as'.mapM (FieldAt.compile scope')) := by
  induction h with
  | nil => exact .pure .nil
  | cons ha _ ih =>
    rw [List.mapM_cons, List.mapM_cons]
    refine ha.bind fun c c' ⟨v, v', hv, hc, hc'⟩ => ih.bind fun all all' hall => ?_
    rw [hc, hc']
    exact .pure (.cons hv hall)

/-- A rule that is implied by name is one for lists, maps or structs. -/
private theorem Schema.kind_of_impliedRule {s : Schema} (h : s.impliedRule.name ≠ "") :
    s.seen.target.kind ≠ .any := by
  intro hany
  refine h ?_
  unfold Schema.impliedRule
  cases hcodec : s.codec? with
  | some codec => rfl
  | none =>
    rw [Schema.seen_of_plain hcodec, Schema.kind] at hany
    cases hshape : s.target.shape <;> rw [hshape] at hany <;> first | rfl | cases hany

/-- The rule for a schema is well formed but for the name, which may be missing. Then, and where the rule is the
implied one, a value may be missing too. -/
private theorem Schema.ruleFor_sound (s : Schema) {rule? : Option Rule} (hrule : ∀ r ∈ rule?, r.WellFormed)
    (mods : List Modifier) :
    Param.AllWellFormed (s.ruleFor rule? mods).params ∧
      ((s.ruleFor rule? mods).name = "" ∨ rule?.isNone = true → (s.ruleFor rule? mods).presence ≠ .required) ∧
      (rule?.isNone = true → (s.ruleFor rule? mods).name ≠ "" → s.seen.target.kind ≠ .any) := by
  cases rule? with
  | none =>
    refine ⟨?_, ?_, ?_⟩
    · have hparams : s.impliedRule.params = [] := by
        unfold Schema.impliedRule
        split <;> rfl
      rw [Schema.ruleFor, Modifier.foldl_apply_eq]
      exact hparams ▸ trivial
    · intro _ hrequired
      cases Modifier.required_of_foldl_apply mods hrequired
    · intro _ hnamed
      rw [Schema.ruleFor, Modifier.name_foldl_apply] at hnamed
      exact Schema.kind_of_impliedRule hnamed
  | some r =>
    obtain ⟨hname, hparams, -⟩ := Rule.wellFormed_iff.1 (hrule r rfl)
    rw [Schema.ruleFor, Modifier.foldl_apply_eq]
    refine ⟨hparams, ?_, fun h => absurd h Bool.false_ne_true⟩
    rintro (hnameless | h)
    · exact absurd hnameless hname.isLiteral.1
    · cases h

/-- A field is compiled like its counterpart, if its schema is. -/
private theorem FieldAt.compiles_of_schema (hscopes : scope.Precedes scope' M) {access : List String} {name : String}
    {schema schema' : Schema} {tag tag' : Tag} {embedded : Bool} (tags : tag.Matches scope.keys M embedded tag')
    (h : ∀ {rule? : Option Rule} {mods mods' : List Modifier}, (∀ r ∈ rule?, r.WellFormed) →
      (∀ r : Rule, mods.foldl Modifier.apply r = mods'.foldl Modifier.apply r) →
      M (Modifier.message? mods) (Modifier.message? mods') →
      Follows (Alike scope scope' M schema (Modifier.message? mods)) (schema.compile (.plain scope) rule? mods)
        (schema'.compile (.plain scope') rule? mods')) :
    FieldAt.Compiles scope scope' M ⟨access, ⟨name, schema, tag, embedded⟩⟩
      ⟨access, ⟨name, schema', tag', embedded⟩⟩ := by
  unfold FieldAt.Compiles
  rw [FieldAt.compile_eq, FieldAt.compile_eq, hscopes.keys, ← tags.ruleText]
  refine (Follows.self _).bind fun rule? _ ⟨hread, heq⟩ => heq ▸ ?_
  have hrule : ∀ r ∈ rule?, r.WellFormed := wellFormed_of_readRule hread
  have hmessages : M (Modifier.message? (Field.modifiers scope.keys tag))
      (Modifier.message? (Field.modifiers scope.keys tag')) := by
    rw [Modifier.message?_modifiers, Modifier.message?_modifiers]
    exact tags.message
  refine (h hrule tags.foldl_modifiers hmessages).bind fun v v' hv => .pure ⟨v, v', ?_, rfl, ?_⟩
  · rw [← Modifier.message?_modifiers]
    exact hv
  · simp only [FieldAt.label, tags.name]

/-- Compiling a rule for matching schemas, given their sites. -/
private theorem Schema.compile_alike_of_paired (hscopes : scope.Precedes scope' M) {s s' : Schema}
    (hs : s.Matches scope.keys M s')
    (hsites : (s.seen.site (.plain scope)).Paired scope scope' M (s'.seen.site (.plain scope')))
    {rule? : Option Rule} (hrule : ∀ r ∈ rule?, r.WellFormed) {mods mods' : List Modifier}
    (hmods : ∀ r : Rule, mods.foldl Modifier.apply r = mods'.foldl Modifier.apply r)
    (hmessages : M (Modifier.message? mods) (Modifier.message? mods')) :
    Follows (Alike scope scope' M s (Modifier.message? mods)) (s.compile (.plain scope) rule? mods)
      (s'.compile (.plain scope') rule? mods') := by
  intro v hv
  obtain ⟨inner, policy, hinner, hpolicy, rfl⟩ := Schema.compile_eq_ok_iff.1 hv
  have hruleFor : s'.ruleFor rule? mods' = s.ruleFor rule? mods := by
    simp only [Schema.ruleFor, hmods, hs.impliedRule]
  obtain ⟨hparams, hoptional, himplied⟩ := s.ruleFor_sound hrule mods
  obtain ⟨inner', hinner', halike⟩ := Site.inner_follows hscopes (Scope.expand_any hscopes.no_message) rule?.isNone
    (s.ruleFor rule? mods) hparams hsites inner hinner
  rw [(s.seen.site_target _).2] at halike
  obtain ⟨v', hv', hload⟩ := load_alike hscopes hs hmessages hoptional himplied halike _
    (load_eq_ok_iff.2 ⟨policy, hpolicy, rfl⟩)
  obtain ⟨policy', hpolicy', rfl⟩ := load_eq_ok_iff.1 hv'
  refine ⟨_, Schema.compile_eq_ok_iff.2 ⟨inner', policy', ?_, ?_, rfl⟩, hload⟩
  · rw [hruleFor]
    exact hinner'
  · rw [hruleFor]
    exact hpolicy'

mutual

/-- When a rule compiles for a schema, it compiles for every schema that matches, by a compiler that accepts as much,
and the validators are alike. -/
theorem Schema.compile_alike (hscopes : scope.Precedes scope' M) {s s' : Schema} (hs : s.Matches scope.keys M s')
    {rule? : Option Rule} (hrule : ∀ r ∈ rule?, r.WellFormed) {mods mods' : List Modifier}
    (hmods : ∀ r : Rule, mods.foldl Modifier.apply r = mods'.foldl Modifier.apply r)
    (hmessages : M (Modifier.message? mods) (Modifier.message? mods')) :
    Follows (Alike scope scope' M s (Modifier.message? mods)) (s.compile (.plain scope) rule? mods)
      (s'.compile (.plain scope') rule? mods') :=
  match hs with
  | .of_shapes alias? none test shapes =>
    Schema.compile_alike_of_paired hscopes (.of_shapes alias? none test shapes)
      (Shape.site_paired hscopes alias? none test shapes) hrule hmods hmessages
  | .of_shapes alias? (some codec) test shapes =>
    Schema.compile_alike_of_paired hscopes (.of_shapes alias? (some codec) test shapes)
      (Site.paired_leaf (.of_shapes none none none (.scalar rfl)) rfl) hrule hmods hmessages

private theorem Schema.site_paired (hscopes : scope.Precedes scope' M) {s s' : Schema} : s.Matches scope.keys M s' →
    (s.site (.plain scope)).Paired scope scope' M (s'.site (.plain scope'))
  | .of_shapes alias? codec? test shapes => by
    simp only [Schema.site]
    exact Shape.site_paired hscopes alias? codec? test shapes

private theorem Shape.site_paired (hscopes : scope.Precedes scope' M) (alias? : Option String) (codec? : Option Codec)
    (test : Option ZeroTest) {shape shape' : Shape} : shape.Matches scope.keys M shape' →
    (shape.site (.plain scope) ⟨shape, alias?, codec?, test⟩).Paired scope scope' M
      (shape'.site (.plain scope') ⟨shape', alias?, codec?, test⟩)
  | @Shape.Matches.scalar _ _ shape scalar => by
    have hs : Schema.Matches scope.keys M ⟨shape, alias?, codec?, test⟩ ⟨shape, alias?, codec?, test⟩ :=
      .of_shapes alias? codec? test (.scalar scalar)
    have hleaf : (Site.leaf _).Paired scope scope' M (Site.leaf _) := Site.paired_leaf hs scalar
    cases shape <;> first | exact hleaf | cases scalar
  | .slice items => by
    simp only [Shape.site]
    refine ⟨.of_shapes alias? codec? test (.slice items), .known fun rule? hrule => ?_, .unknown,
      .pure ⟨[], [], .nil, rfl, rfl⟩⟩
    exact Schema.compile_alike hscopes items hrule (fun _ => rfl) hscopes.no_message
  | .array length items => by
    simp only [Shape.site]
    refine ⟨.of_shapes alias? codec? test (.array length items), .known fun rule? hrule => ?_, .unknown,
      .pure ⟨[], [], .nil, rfl, rfl⟩⟩
    exact Schema.compile_alike hscopes items hrule (fun _ => rfl) hscopes.no_message
  | .map keys_match items => by
    simp only [Shape.site]
    refine ⟨.of_shapes alias? codec? test (.map keys_match items), .known fun rule? hrule => ?_,
      .known fun rule? hrule => ?_, .pure ⟨[], [], .nil, rfl, rfl⟩⟩
    · exact Schema.compile_alike hscopes items hrule (fun _ => rfl) hscopes.no_message
    · exact Schema.compile_alike hscopes keys_match hrule (fun _ => rfl) hscopes.no_message
  | @Shape.Matches.struct _ _ fields fields' fields_match => by
    have hfields := FieldAt.mapM_compile_follows (Field.flatFields_paired hscopes [] fields_match)
    refine ⟨.of_shapes alias? codec? test (.struct fields_match), .unknown, .unknown, fun checks hchecks => ?_⟩
    obtain ⟨all, hall, rfl⟩ := (Shape.site_fields_eq_ok_iff [] (.struct fields) _ checks).1 hchecks
    obtain ⟨all', hall', halike⟩ := hfields all hall
    refine ⟨_, (Shape.site_fields_eq_ok_iff [] (.struct fields') _ _).2 ⟨all', ?_, rfl⟩, all, all', halike, rfl, rfl⟩
    rw [hscopes.keys]
    exact hall'
  | .pointer targets => by
    simp only [Shape.site]
    exact Schema.site_paired hscopes targets

private theorem Schema.flatFields_paired (hscopes : scope.Precedes scope' M) (access : List String) {s s' : Schema} :
    s.Matches scope.keys M s' →
    List.Forall₂ (FieldAt.Compiles scope scope' M) (s.flatFields scope.keys access) (s'.flatFields scope.keys access)
  | .of_shapes _ _ _ shapes => Shape.flatFields_paired hscopes access shapes

private theorem Shape.flatFields_paired (hscopes : scope.Precedes scope' M) (access : List String)
    {shape shape' : Shape} :
    shape.Matches scope.keys M shape' →
    List.Forall₂ (FieldAt.Compiles scope scope' M) (shape.flatFields scope.keys access)
      (shape'.flatFields scope.keys access)
  | .struct fields_match => Field.flatFields_paired hscopes access fields_match
  | .pointer targets => Schema.flatFields_paired hscopes access targets
  | .slice _ | .array _ _ | .map _ _ => .nil
  | @Shape.Matches.scalar _ _ shape scalar => by
    cases shape <;> first | exact .nil | cases scalar

private theorem Field.flatFields_paired (hscopes : scope.Precedes scope' M) (access : List String)
    {fields fields' : List Field} : Field.AllMatch scope.keys M fields fields' →
    List.Forall₂ (FieldAt.Compiles scope scope' M) (Field.flatFields scope.keys access fields)
      (Field.flatFields scope.keys access fields')
  | .nil => .nil
  | .cons name embedded schemas tags rest => by
    have hrest := Field.flatFields_paired hscopes access rest
    rw [Field.flatFields, Field.flatFields, tags.isHidden, Field.isFlattened_eq schemas tags]
    refine List.rel_append ?_ hrest
    split
    · exact .nil
    split
    · exact Schema.flatFields_paired hscopes _ schemas
    · refine .cons ?_ .nil
      exact FieldAt.compiles_of_schema hscopes tags fun hrule hmods hmessages =>
        Schema.compile_alike hscopes schemas hrule hmods hmessages

end

end FieldRules
