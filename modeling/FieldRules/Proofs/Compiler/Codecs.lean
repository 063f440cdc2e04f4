import FieldRules.Proofs.Compiler.Cache
import FieldRules.Proofs.Compiler.Filling
import FieldRules.Proofs.Compiler.Plain
import FieldRules.Proofs.Validator.Reporting

/-!
# Types with codecs

A rule for a type with a codec is compiled against texts, and values of the type are judged by their texts
(`Loader.SeesText`). `Judges` follows a type to all that it consists of, with the rules that apply there, and so says
that this holds wherever such a type occurs; what is compiled is that way (`Schema.judges`). A codec is looked for on
the type at hand only, neither behind a pointer nor on an embedded struct whose fields are flattened
(`Factory.codec_missed_behind_pointer`).
-/

namespace FieldRules

/-! ### Texts of values -/

/-- What a rule for a type with a codec says of empty values: a default is the value of its text, and the check of the
rule accepts the text of that value. -/
inductive TextPolicy (codec : Codec) (inner : Option Validator) : Presence → EmptyPolicy → Prop
  | required : TextPolicy codec inner .required .refuse
  | optional : TextPolicy codec inner .optional .pass
  | default {text written : String} {value : Value} (read : codec.unmarshal text = .ok value)
      (write : codec.marshal value = .ok written) (passes : ∀ v, inner = some v → v.validate (.string written) = []) :
      TextPolicy codec inner (.default text) (.fill text value)

/-- Whether a loader sees values as the texts that a codec makes of them: its check is the one that the rule has for
texts, and its verdict on a value that is not empty is that of the check on the text. -/
structure Loader.SeesText (scope : Scope) (inferred : Bool) (r : Rule) (codec : Codec) (l : Loader) : Prop where
  check : Schema.string.checkOf scope inferred r = .ok l.inner
  policy : TextPolicy codec l.inner r.presence l.onEmpty
  verdict : ∀ v, l.inner = some v → ∀ fills slot text, l.isEmpty slot.read = false →
    codec.marshal slot.read = .ok text →
      (l.walk fills slot).1 = (v.validate (.string text)).map (Violation.said l.message?)
  failure : ∀ v, l.inner = some v → ∀ fills slot reason, l.isEmpty slot.read = false →
    codec.marshal slot.read = .error reason → (l.walk fills slot).1 = [⟨[], .badText reason, l.message?⟩]
  alike : ∀ fills slot slot', l.isEmpty slot.read = false → l.isEmpty slot'.read = false →
    codec.marshal slot.read = codec.marshal slot'.read → (l.walk fills slot).1 = (l.walk fills slot').1
  leaves : ∀ fills slot, l.isEmpty slot.read = false → (l.walk fills slot).2 = slot

private theorem readDefault_eq_ok_iff_of_codec {s : Schema} {codec : Codec} (hcodec : s.codec? = some codec)
    {text : String} {value seen : Value} :
    readDefault s text = .ok (value, seen) ↔
      ∃ written, codec.unmarshal text = .ok value ∧ codec.marshal value = .ok written ∧ seen = .string written := by
  have hsteps : readDefault s text = (do
      let value ← codec.unmarshal text
      return (value, .string (← codec.marshal value))) := by
    simp only [readDefault, hcodec]
  rw [hsteps, bind_eq_ok]
  constructor
  · rintro ⟨read, hread, h⟩
    obtain ⟨written, hwritten, h⟩ := bind_eq_ok.1 h
    obtain ⟨rfl, rfl⟩ := Prod.mk.inj (Except.ok.inj h)
    exact ⟨written, hread, hwritten, rfl⟩
  · rintro ⟨written, hread, hwritten, rfl⟩
    exact ⟨value, hread, bind_eq_ok.2 ⟨written, hwritten, rfl⟩⟩

/-- A default for a type with a codec is read from its text and checked in its text. -/
private theorem emptyPolicy_eq_ok_iff_of_codec {s : Schema} {codec : Codec} (hcodec : s.codec? = some codec)
    {inner : Option Validator} {r : Rule} {policy : EmptyPolicy} :
    (emptyPolicy s inner r : Compiled EmptyPolicy) = .ok policy ↔ TextPolicy codec inner r.presence policy := by
  constructor
  · intro h
    obtain ⟨hpresence, -⟩ := emptyPolicy_of_presence h
    have hdefault := OutcomeLogic.plain.emptyPolicy s inner r policy h
    rw [← hpresence]
    cases policy with
    | refuse => exact .required
    | pass => exact .optional
    | fill text value =>
      obtain ⟨seen, hread, hpasses⟩ := hdefault text value rfl
      obtain ⟨written, hvalue, hwritten, rfl⟩ := (readDefault_eq_ok_iff_of_codec hcodec).1 hread
      exact .default hvalue hwritten hpasses
  · intro h
    unfold emptyPolicy
    generalize r.presence = presence at h
    cases h with
    | required | optional => rfl
    | @default text written value read write passes =>
      have hread : readDefault s text = .ok (value, .string written) :=
        (readDefault_eq_ok_iff_of_codec hcodec).2 ⟨written, read, write, rfl⟩
      simp only [hread]
      cases inner with
      | none => rfl
      | some v =>
        simp only [passes v rfl]
        rfl

namespace Loader

variable {l : Loader} {codec : Codec}

/-- With a codec, values that are not empty are judged by their texts and left as they are. -/
theorem walk_of_codec (hcodec : l.codec? = some codec) (fills : Bool) {slot : Slot}
    (nonempty : l.isEmpty slot.read = false) :
    l.walk fills slot = (match l.inner with
      | some v => (match codec.marshal slot.read with
        | .ok text => v.validate (.string text)
        | .error reason => Report.single (.badText reason)).map (Violation.said l.message?)
      | none => [], slot) := by
  obtain ⟨schema, inner, onEmpty, message?, codec?⟩ := l
  obtain rfl : codec? = some codec := hcodec
  cases inner with
  | none => simp only [Loader.walk, nonempty, Bool.false_eq_true, if_false]
  | some v =>
    simp only [Loader.walk, nonempty, Bool.false_eq_true, if_false]
    cases codec.marshal slot.read <;> exact congrArg (·, slot) (Report.map_said message? _)

private theorem seesText (hcodec : l.codec? = some codec) {scope : Scope} {inferred : Bool} {r : Rule}
    (hcheck : Schema.string.checkOf scope inferred r = .ok l.inner)
    (hpolicy : TextPolicy codec l.inner r.presence l.onEmpty) : l.SeesText scope inferred r codec where
  check := hcheck
  policy := hpolicy
  verdict := by
    intro v hv fills slot text nonempty hmarshal
    simp only [walk_of_codec hcodec fills nonempty, hv, hmarshal]
  failure := by
    intro v hv fills slot reason nonempty hmarshal
    simp only [walk_of_codec hcodec fills nonempty, hv, hmarshal]
    cases l.message? <;> rfl
  alike := by
    intro fills slot slot' nonempty nonempty' hsame
    simp only [walk_of_codec hcodec fills nonempty, walk_of_codec hcodec fills nonempty', hsame]
  leaves := by
    intro fills slot nonempty
    rw [walk_of_codec hcodec fills nonempty]

end Loader

/-! ### Wherever a type occurs -/

/-- The validator of a part as it is kept in the check of the whole: one that does nothing is left out. -/
def Scope.keep (scope : Scope) (v : Validator) : Option Validator :=
  if scope.simplifies && v.isNoop then none else some v

mutual

/-- Whether a validator is a loader of a rule, or of the inferred one, for a schema, such that schemas with codecs are
seen as texts there and wherever they occur below. Nothing is said of what a pointer points at when that has a
codec. -/
inductive Judges (scope : Scope) : Schema → Option Rule → List Modifier → Validator → Prop
  | text {s : Schema} {rule? : Option Rule} {mods : List Modifier} {codec : Codec} {l : Loader}
      (has_codec : s.codec? = some codec) (schema : l.schema = s) (message : l.message? = Modifier.message? mods)
      (seen : l.SeesText scope rule?.isNone (s.ruleFor rule? mods) codec) : Judges scope s rule? mods (.loader l)
  | plain {s : Schema} {rule? : Option Rule} {mods : List Modifier} {l : Loader} (no_codec : s.codec? = none)
      (schema : l.schema = s) (message : l.message? = Modifier.message? mods)
      (check : s.target.codec? = none → ∀ v, l.inner = some v → JudgesCheck scope s.target (s.ruleFor rule? mods) v) :
      Judges scope s rule? mods (.loader l)

/-- Whether the check of a rule for a schema without a codec, which is no pointer, judges the parts of its values by
the rules for these. -/
inductive JudgesCheck (scope : Scope) : Schema → Rule → Validator → Prop
  | integer (s : Schema) (r : Rule) (c : IntegerCheck) : JudgesCheck scope s r (.integer c)
  | float (s : Schema) (r : Rule) (c : FloatCheck) : JudgesCheck scope s r (.float c)
  | text (s : Schema) (r : Rule) (c : TextCheck) : JudgesCheck scope s r (.text c)
  | format (s : Schema) (r : Rule) (f : Format) : JudgesCheck scope s r (.format f)
  | slice {s : Schema} {r : Rule} {item? : Option Rule} {item : Validator} (bounds : Bounds Nat)
      (length? : Option Nat) (item_rule : paramRule r.params 0 = .ok item?)
      (item_judged : ∀ t, s.item? = some t → Judges scope t item? [] item) :
      JudgesCheck scope s r (.slice (scope.keep item) bounds length?)
  | map {s : Schema} {r : Rule} {key? item? : Option Rule} {key item : Validator} (bounds : Bounds Nat)
      (key_rule : paramRule r.params 0 = .ok key?) (key_judged : ∀ t, s.key? = some t → Judges scope t key? [] key)
      (item_rule : paramRule r.params 1 = .ok item?)
      (item_judged : ∀ t, s.item? = some t → Judges scope t item? [] item) :
      JudgesCheck scope s r (.map (scope.keep key) (scope.keep item) bounds)
  | struct {s : Schema} (r : Rule) {all : List FieldCheck}
      (fields : List.Forall₂ (JudgesField scope) (s.flatFields scope.keys []) all) :
      JudgesCheck scope s r (.struct (all.filter scope.retains))
  /-- A rule that stands for another one judges as that one does. -/
  | derived {s : Schema} {r rule : Rule} {kinds : List Kind} {v : Validator}
      (creation : Fields.get? scope.registry r.name = some (.derived kinds rule))
      (judged : Judges scope s (some rule) [] v) : JudgesCheck scope s r v
  /-- A rule that stands for the one in its param judges as that one does. -/
  | forwarding {s : Schema} {r : Rule} {rule? : Option Rule} {refused : List Kind} {v : Validator}
      (creation : Fields.get? scope.registry r.name = some (.forwarding refused))
      (rule : paramRule r.params 0 = .ok rule?) (judged : Judges scope s rule? [] v) : JudgesCheck scope s r v

/-- Whether the check of a field judges it by the rule in its tag. -/
inductive JudgesField (scope : Scope) : FieldAt → FieldCheck → Prop
  | field {a : FieldAt} {c : FieldCheck} (spot : c.spot = a.spot) (label : c.label = a.label scope.keys)
      (judged : Judges scope a.field.schema (a.rule? scope.keys) (Field.modifiers scope.keys a.field.tag)
        c.validator) :
      JudgesField scope a c

end

variable {scope : Scope} {s : Schema}

/-- A rule for a type with a codec becomes a loader that sees its values as texts. -/
private theorem Schema.compile_eq_ok_iff_of_codec {codec : Codec} (hcodec : s.codec? = some codec)
    {rule? : Option Rule} {mods : List Modifier} {v : Validator} :
    s.compile (.plain scope) rule? mods = .ok v ↔
      ∃ l, v = .loader l ∧ l.schema = s ∧ l.message? = Modifier.message? mods ∧ l.codec? = some codec ∧
        l.SeesText scope rule?.isNone (s.ruleFor rule? mods) codec := by
  have hseen : s.seen = .string := by rw [seen, hcodec]; rfl
  rw [compile_eq_ok_iff, hseen, hcodec]
  constructor
  · rintro ⟨inner, policy, hinner, hpolicy, rfl⟩
    exact ⟨_, rfl, rfl, rfl, rfl, Loader.seesText rfl hinner ((emptyPolicy_eq_ok_iff_of_codec hcodec).1 hpolicy)⟩
  · rintro ⟨⟨schema, inner, policy, message?, codec?⟩, rfl, rfl, rfl, rfl, hseen⟩
    exact ⟨inner, policy, hseen.check, (emptyPolicy_eq_ok_iff_of_codec hcodec).2 hseen.policy, rfl⟩

/-! ### Sites -/

/-- What is known of the site of a schema without a codec, which is no pointer: its parts and fields are compiled to
what judges them. -/
structure Site.Offers (scope : Scope) (site : Site Compiled) (s : Schema) : Prop where
  target : site.target = s
  no_codec : s.codec? = none
  no_pointer : s.target = s
  item : ∀ t, s.item? = some t → ∃ compile, site.item? = some compile ∧
    ∀ rule? v, compile rule? = .ok v → Judges scope t rule? [] v
  key : ∀ t, s.key? = some t → ∃ compile, site.key? = some compile ∧
    ∀ rule? v, compile rule? = .ok v → Judges scope t rule? [] v
  fields : ∀ checks, site.fields [] = .ok checks →
    ∃ all, List.Forall₂ (JudgesField scope) (s.flatFields scope.keys []) all ∧ checks = all.filter scope.retains

/-- Whether rules that are put in the place of rules become what judges values of the schema at hand. -/
def Site.Expands (scope : Scope) (expand : Site Compiled → Schema → Option Rule → Compiled Validator) : Prop :=
  ∀ (site : Site Compiled) (s : Schema), site.Offers scope s →
    ∀ rule? v, expand site s rule? = .ok v → Judges scope s rule? [] v

namespace Site

variable {expand : Site Compiled → Schema → Option Rule → Compiled Validator} {site : Site Compiled} {r : Rule}
  {v : Validator}

private theorem param_eq_ok_iff {compile : Nat → Compiled Validator} {i : Nat} {v? : Option Validator} :
    param scope compile i = .ok v? ↔ ∃ v, compile i = .ok v ∧ v? = scope.keep v := by
  rw [param, bind_eq_ok]
  constructor
  · rintro ⟨v, hv, h⟩
    exact ⟨v, hv, (Except.ok.inj h).symm⟩
  · rintro ⟨v, hv, rfl⟩
    exact ⟨v, hv, rfl⟩

private theorem partAt_eq_ok_iff {compile : Option Rule → Compiled Validator} {i : Nat} :
    partAt r compile i = .ok v ↔ ∃ rule?, paramRule r.params i = .ok rule? ∧ compile rule? = .ok v := by
  rw [partAt, bind_eq_ok]
  simp only [orInvalid_eq_ok_iff]

/-- What a creator is given for a part whose schema is known compiles the rule in a param for it. -/
private theorem judges_part {known? : Option (Option Rule → Compiled Validator)} {part? : Option Schema} {i : Nat}
    (hpart : ∀ t, part? = some t → ∃ compile, known? = some compile ∧
      ∀ rule? v, compile rule? = .ok v → Judges scope t rule? [] v)
    {kept? : Option Validator} (hkept : param scope (partAt r (part scope expand known?)) i = .ok kept?) :
    ∃ v rule?, kept? = scope.keep v ∧ paramRule r.params i = .ok rule? ∧
      ∀ t, part? = some t → Judges scope t rule? [] v := by
  obtain ⟨v, hv, rfl⟩ := param_eq_ok_iff.1 hkept
  obtain ⟨rule?, hrule, hv⟩ := partAt_eq_ok_iff.1 hv
  refine ⟨v, rule?, rfl, hrule, fun t ht => ?_⟩
  obtain ⟨compile, rfl, hcompile⟩ := hpart t ht
  exact hcompile rule? v hv

/-- What a creator makes at a site judges the parts of values by the rules for these. -/
private theorem judges_create (hsite : site.Offers scope s) {same : Nat → Compiled Validator}
    {anew : Rule → Compiled Validator}
    (hsame : ∀ v, same 0 = .ok v → ∃ rule?, paramRule r.params 0 = .ok rule? ∧ Judges scope s rule? [] v)
    (hanew : ∀ rule v, anew rule = .ok v → Judges scope s (some rule) [] v) {creation : Creation}
    (hcreation : Fields.get? scope.registry r.name = some creation)
    (hv : site.create scope r (partAt r (part scope expand site.key?)) (partAt r (part scope expand site.item?)) same
      anew creation = .ok v) :
    JudgesCheck scope s r v := by
  cases creation with
  | integer signed =>
    obtain ⟨⟨⟩, -, hv⟩ := bind_eq_ok.1 hv
    obtain ⟨c, -, hv⟩ := bind_eq_ok.1 hv
    obtain rfl := Except.ok.inj hv
    exact .integer s r c
  | float =>
    obtain ⟨⟨⟩, -, hv⟩ := bind_eq_ok.1 hv
    obtain ⟨c, -, hv⟩ := bind_eq_ok.1 hv
    obtain rfl := Except.ok.inj hv
    exact .float s r c
  | text =>
    obtain ⟨⟨⟩, -, hv⟩ := bind_eq_ok.1 hv
    obtain ⟨c, -, hv⟩ := bind_eq_ok.1 hv
    obtain rfl := Except.ok.inj hv
    exact .text s r c
  | format f =>
    obtain ⟨⟨⟩, -, hv⟩ := bind_eq_ok.1 hv
    obtain ⟨⟨⟩, -, hv⟩ := bind_eq_ok.1 hv
    obtain rfl := Except.ok.inj hv
    exact .format s r f
  | struct =>
    obtain ⟨⟨⟩, -, hv⟩ := bind_eq_ok.1 hv
    obtain ⟨⟨⟩, -, hv⟩ := bind_eq_ok.1 hv
    obtain ⟨checks, hchecks, hv⟩ := bind_eq_ok.1 hv
    obtain rfl := Except.ok.inj hv
    obtain ⟨all, hall, rfl⟩ := hsite.fields checks hchecks
    exact .struct r hall
  | slice =>
    obtain ⟨⟨⟩, -, hv⟩ := bind_eq_ok.1 hv
    obtain ⟨⟨⟩, -, hv⟩ := bind_eq_ok.1 hv
    split at hv
    next => cases hv
    obtain ⟨item?, hitem, hv⟩ := bind_eq_ok.1 hv
    obtain ⟨bounds, -, hv⟩ := bind_eq_ok.1 hv
    obtain ⟨⟨⟩, -, hv⟩ := bind_eq_ok.1 hv
    obtain rfl := Except.ok.inj hv
    obtain ⟨item, rule?, rfl, hrule, hjudges⟩ := judges_part hsite.item hitem
    exact .slice bounds _ hrule hjudges
  | map =>
    obtain ⟨⟨⟩, -, hv⟩ := bind_eq_ok.1 hv
    obtain ⟨⟨⟩, -, hv⟩ := bind_eq_ok.1 hv
    split at hv
    next => cases hv
    obtain ⟨bounds, -, hv⟩ := bind_eq_ok.1 hv
    obtain ⟨key?, hkey, hv⟩ := bind_eq_ok.1 hv
    obtain ⟨item?, hitem, hv⟩ := bind_eq_ok.1 hv
    obtain rfl := Except.ok.inj hv
    obtain ⟨key, _, rfl, hkeyRule, hkeyJudges⟩ := judges_part hsite.key hkey
    obtain ⟨item, _, rfl, hitemRule, hitemJudges⟩ := judges_part hsite.item hitem
    exact .map bounds hkeyRule hkeyJudges hitemRule hitemJudges
  | derived kinds rule =>
    obtain ⟨⟨⟩, -, hv⟩ := bind_eq_ok.1 hv
    exact .derived hcreation (hanew rule v hv)
  | forwarding refused =>
    simp only [Site.create] at hv
    split at hv
    next => cases hv
    obtain ⟨v?, hparam, hv⟩ := bind_eq_ok.1 hv
    obtain ⟨w, hw, rfl⟩ := param_eq_ok_iff.1 hparam
    obtain ⟨rule?, hrule, hjudges⟩ := hsame w hw
    rw [Scope.keep] at hv
    split at hv
    next u hkept =>
      split at hkept
      · cases hkept
      · obtain rfl := Option.some.inj hkept
        obtain rfl := Except.ok.inj hv
        exact .forwarding hcreation hrule hjudges
    · cases hv

mutual

/-- The check of a rule at a site judges the parts of values by the rules for these. -/
private theorem judges_inner (hexpand : Expands scope expand) (hsite : site.Offers scope s) (inferred : Bool) :
    (r : Rule) → ∀ v, site.inner scope expand inferred r = .ok (some v) → JudgesCheck scope s r v
  | ⟨raw, name, params, range, values, pattern, presence⟩ => by
    intro v h
    by_cases hname : name = ""
    · simp only [Site.inner, hname, if_true] at h
      cases h
    cases hcreation : Fields.get? scope.registry name with
    | none =>
      simp only [Site.inner, hname, if_false, hcreation] at h
      cases h
    | some creation =>
      have hown : site.own = site := by rw [Site.own, hsite.target, hsite.no_codec]; rfl
      rw [inner_eq_create expand site inferred hname hcreation, hown, hsite.target] at h
      obtain ⟨w, hw, h⟩ := bind_eq_ok.1 h
      have hkept := Except.ok.inj h
      split at hkept
      · cases hkept
      obtain rfl := Option.some.inj hkept
      refine judges_create hsite (fun u hu => ?_) (fun rule u hu => hexpand site s hsite _ u hu) hcreation hw
      obtain ⟨rule?, hrule, hu⟩ := partAt_eq_ok_iff.1 hu
      refine ⟨rule?, hrule, ?_⟩
      cases rule? with
      | none => exact hexpand site s hsite none u hu
      | some p => exact judges_of_mem hexpand hsite params p (mem_of_paramRule hrule) u hu

/-- A rule among params becomes what judges values of the schema at hand. -/
private theorem judges_of_mem (hexpand : Expands scope expand) (hsite : site.Offers scope s) :
    (ps : List Param) → ∀ p, .rule p ∈ ps → ∀ v, compileParam scope expand site s (some p) = .ok v →
      Judges scope s (some p) [] v
  | [], p, hmem, _, _ => absurd hmem List.not_mem_nil
  | .blank :: ps, p, hmem, v, hv | .literal _ :: ps, p, hmem, v, hv => by
    rcases List.mem_cons.1 hmem with hp | hmem
    · cases hp
    · exact judges_of_mem hexpand hsite ps p hmem v hv
  | .rule r :: ps, p, hmem, v, hv => by
    rcases List.mem_cons.1 hmem with hp | hmem
    · obtain rfl := Param.rule.inj hp.symm
      obtain ⟨inner, hinner, hv⟩ := bind_eq_ok.1 hv
      obtain ⟨policy, -, rfl⟩ := load_eq_ok_iff.1 hv
      refine .plain hsite.no_codec rfl rfl fun _ x hx => ?_
      rw [hsite.no_pointer]
      exact judges_inner hexpand hsite false r x (hinner.trans (congrArg Except.ok hx))
    · exact judges_of_mem hexpand hsite ps p hmem v hv

end

/-- What is compiled at a site judges values of any schema that leads there, however often rules are put in the place
of rules. -/
private theorem judges_compile (n : Nat) :
    ∀ {site : Site Compiled} {s : Schema} {rule? : Option Rule} {mods : List Modifier}
    {v : Validator}, s.codec? = none → site.Offers scope s.target →
      Site.compile scope n site s rule? mods = .ok v → Judges scope s rule? mods v := by
  induction n with
  | zero =>
    intro site s rule? mods v _ _ hv
    cases hv
  | succ n ih =>
    intro site s rule? mods v hcodec hsite hv
    have hexpand : Expands scope fun site s rule? => Site.compile scope n site s rule? [] := by
      intro site s hsite rule? v hv
      exact ih hsite.no_codec (hsite.no_pointer.symm ▸ hsite) hv
    obtain ⟨inner, hinner, hv⟩ := bind_eq_ok.1 hv
    obtain ⟨policy, -, rfl⟩ := load_eq_ok_iff.1 hv
    refine .plain hcodec rfl rfl fun _ w hw => ?_
    exact judges_inner hexpand hsite _ _ w (hinner.trans (congrArg Except.ok hw))

end Site

/-! ### Schemas -/

private theorem forall₂_of_mapM_eq_ok {ε α β : Type} {R : α → β → Prop} {f : α → Except ε β} {as : List α}
    {bs : List β} (h : as.mapM f = .ok bs) (hR : ∀ a ∈ as, ∀ b, f a = .ok b → R a b) : List.Forall₂ R as bs := by
  induction as generalizing bs with
  | nil =>
    obtain rfl := Except.ok.inj h
    exact .nil
  | cons a as ih =>
    rw [List.mapM_cons, bind_eq_ok] at h
    obtain ⟨b, hb, h⟩ := h
    obtain ⟨bs', hbs, h⟩ := bind_eq_ok.1 h
    obtain rfl := Except.ok.inj h
    obtain ⟨ha, has⟩ := List.forall_mem_cons.1 hR
    exact .cons (ha b hb) (ih hbs has)

private theorem JudgesField.of_compile {a : FieldAt} {c : FieldCheck}
    (h : ∀ rule? mods v, a.field.schema.compile (.plain scope) rule? mods = .ok v →
      Judges scope a.field.schema rule? mods v)
    (hc : a.compile scope = .ok c) : JudgesField scope a c := by
  obtain ⟨-, hcompile, haccess, hname, hlabel⟩ := FieldAt.compile_eq_ok_iff.1 hc
  exact .field (congrArg₂ Prod.mk haccess hname) hlabel (h _ _ _ hcompile)

mutual

/-- What a rule becomes for a schema sees values with codecs as texts, wherever they occur. -/
theorem Schema.judges : (s : Schema) → ∀ rule? mods v, s.compile (.plain scope) rule? mods = .ok v →
    Judges scope s rule? mods v
  | ⟨shape, alias?, some codec, test⟩, rule?, mods, v, hv => by
    obtain ⟨l, rfl, hschema, hmessage, -, hseen⟩ := (Schema.compile_eq_ok_iff_of_codec rfl).1 hv
    exact .text rfl hschema hmessage hseen
  | ⟨shape, alias?, none, test⟩, rule?, mods, v, hv => by
    by_cases htarget : (Schema.target ⟨shape, alias?, none, test⟩).codec? = none
    · simp only [Schema.compile] at hv
      exact Site.judges_compile _ rfl (Shape.site_offers shape alias? none test htarget) hv
    · obtain ⟨inner, policy, -, -, rfl⟩ := Schema.compile_eq_ok_iff.1 hv
      exact .plain rfl rfl rfl fun h => absurd h htarget

private theorem Schema.site_offers :
    (s : Schema) → s.target.codec? = none → (s.site (.plain scope)).Offers scope s.target
  | ⟨shape, alias?, codec?, test⟩, h => by
    simp only [Schema.site]
    exact Shape.site_offers shape alias? codec? test h

private theorem Shape.site_offers : (shape : Shape) → ∀ alias? codec? test,
    (Schema.target ⟨shape, alias?, codec?, test⟩).codec? = none →
      (shape.site (.plain scope) ⟨shape, alias?, codec?, test⟩).Offers scope
        (Schema.target ⟨shape, alias?, codec?, test⟩)
  | .pointer target, alias?, codec?, test, h => by
    simp only [Shape.site, Schema.target] at h ⊢
    exact Schema.site_offers target h
  | .struct fields, alias?, codec?, test, h => by
    simp only [Shape.site, Schema.target] at h ⊢
    refine ⟨rfl, h, rfl, nofun, nofun, fun checks hchecks => ?_⟩
    obtain ⟨all, hall, rfl⟩ := (Field.compileAll_eq_ok_iff [] fields checks).1 hchecks
    exact ⟨all, forall₂_of_mapM_eq_ok hall (Field.judges fields []), rfl⟩
  | .slice item, alias?, codec?, test, h | .array item _, alias?, codec?, test, h => by
    simp only [Shape.site, Schema.target] at h ⊢
    refine ⟨rfl, h, rfl, ?_, nofun, fun checks hchecks => ⟨[], .nil, (Except.ok.inj hchecks).symm⟩⟩
    rintro _ ⟨⟩
    exact ⟨_, rfl, fun rule? v hv => Schema.judges item rule? [] v hv⟩
  | .map key item, alias?, codec?, test, h => by
    simp only [Shape.site, Schema.target] at h ⊢
    refine ⟨rfl, h, rfl, ?_, ?_, fun checks hchecks => ⟨[], .nil, (Except.ok.inj hchecks).symm⟩⟩
    · rintro _ ⟨⟩
      exact ⟨_, rfl, fun rule? v hv => Schema.judges item rule? [] v hv⟩
    · rintro _ ⟨⟩
      exact ⟨_, rfl, fun rule? v hv => Schema.judges key rule? [] v hv⟩
  | .bool, alias?, codec?, test, h | .int _, alias?, codec?, test, h | .uint _, alias?, codec?, test, h
  | .float _, alias?, codec?, test, h | .string, alias?, codec?, test, h | .any, alias?, codec?, test, h =>
    ⟨rfl, h, rfl, nofun, nofun, fun checks hchecks => ⟨[], .nil, (Except.ok.inj hchecks).symm⟩⟩

private theorem Schema.judges_fields : (s : Schema) → ∀ access, ∀ a ∈ s.flatFields scope.keys access, ∀ c,
    a.compile scope = .ok c → JudgesField scope a c
  | ⟨.struct fields, _, _, _⟩, access => Field.judges fields access
  | ⟨.pointer target, _, _, _⟩, access => Schema.judges_fields target access
  | ⟨.bool, _, _, _⟩, _ | ⟨.int _, _, _, _⟩, _ | ⟨.uint _, _, _, _⟩, _ | ⟨.float _, _, _, _⟩, _
  | ⟨.string, _, _, _⟩, _ | ⟨.slice _, _, _, _⟩, _ | ⟨.array .., _, _, _⟩, _ | ⟨.map .., _, _, _⟩, _
  | ⟨.any, _, _, _⟩, _ => fun _ ha => absurd ha List.not_mem_nil

private theorem Field.judges : (fields : List Field) → ∀ access, ∀ a ∈ Field.flatFields scope.keys access fields, ∀ c,
    a.compile scope = .ok c → JudgesField scope a c
  | [], _, _, ha, _, _ => absurd ha List.not_mem_nil
  | ⟨name, schema, tag, embedded⟩ :: rest, access, a, ha, c, hc => by
    rw [Field.flatFields, List.mem_append] at ha
    rcases ha with ha | ha
    · split at ha
      · cases ha
      split at ha
      · exact Schema.judges_fields schema _ a ha c hc
      · obtain rfl := List.mem_singleton.1 ha
        exact .of_compile (Schema.judges schema) hc
    · exact Field.judges rest access a ha c hc

end

namespace Factory

/-- A type with a codec is opaque wherever it occurs but behind a pointer and where its fields are flattened: at the
top, as a field, as a part of a list or of a map. Its rule is compiled against texts and judges texts, also that of a
default, and it compiles if it does so for texts and the default passes. This holds for all creators, without a cache
and also with one, as long as keys tell requests apart. -/
theorem compile_judges (f : Factory) (rule : String) (s : Schema) (mods : List Modifier)
    (hf : f.AnswersAnew ⟨rule, s, mods⟩) :
    (∀ v, (f.compile rule s mods).1 = .ok v →
      ∃ rule?, (readRule rule : Compiled (Option Rule)) = .ok rule? ∧ Judges f.scope s rule? mods v) ∧
    ∀ codec, s.codec? = some codec → ∀ v, (f.compile rule s mods).1 = .ok v ↔
      ∃ rule? l, (readRule rule : Compiled (Option Rule)) = .ok rule? ∧ v = .loader l ∧ l.schema = s ∧
        l.message? = Modifier.message? mods ∧ l.codec? = some codec ∧
        l.SeesText f.scope rule?.isNone (s.ruleFor rule? mods) codec := by
  constructor
  · intro v hv
    obtain ⟨rule?, hread, hv⟩ := hf.compile_eq_ok_iff.1 hv
    exact ⟨rule?, hread, s.judges rule? mods v hv⟩
  · intro codec hcodec v
    rw [hf.compile_eq_ok_iff]
    simp only [Schema.compile_eq_ok_iff_of_codec hcodec, exists_and_left]

/-- A type with a codec as keys and items of a map, one on an embedded struct that has a rule of its own, and a
default. The texts of a key and of an item have the wrong lengths. -/
theorem compile_judges_nested :
    let id := ((Schema.int 64).named "Id").withCodec .integer
    let codes := (Field.plain "codes" (.map id (.array id 2))).withRule "@map<@string[2,],@slice<@string[,3]>[,2]>"
    let base := (Schema.struct "Base" [(Field.plain "n" .string).withRule "@string\x7ba\x7d"]).withCodec .upper
    let owner := (Field.plain "owner" id).withTag
      ((Tag.empty.withEntry "validate" "@string[3,]").withEntry "default" "100")
    let s := Schema.struct "Order" [codes, (Field.embedding base).withRule "@string[,12]", owner]
    let entries := Value.map [(.int 7, .list [.int 1234, .int 5])]
    let x := Value.struct [("codes", entries), ("Base", .struct [("n", .string "b")])]
    ∃ v, ((builtin {}).compile "" s []).1 = .ok v ∧ Judges (builtin {}).scope s none [] v ∧
      (v.validate x).map (fun u => (Path.toString u.path, u.message)) =
        [("codes.7", "string length should be larger than 2 (inclusive), but got 1"),
          ("codes.7[0]", "string length should be less than 3 (inclusive), but got 4")] ∧
      (v.fill x).2.toString =
        "\x7b\"Base\":\x7b\"n\":\"b\"\x7d,\"codes\":\x7b\"7\":[1234,5]\x7d,\"owner\":100\x7d" := by
  intro id codes base owner s entries x
  have hcompiles : (((builtin {}).compile "" s []).1.toOption.any fun v =>
      decide ((v.validate x).map (fun u => (Path.toString u.path, u.message)) =
        [("codes.7", "string length should be larger than 2 (inclusive), but got 1"),
          ("codes.7[0]", "string length should be less than 3 (inclusive), but got 4")] ∧
      (v.fill x).2.toString =
        "\x7b\"Base\":\x7b\"n\":\"b\"\x7d,\"codes\":\x7b\"7\":[1234,5]\x7d,\"owner\":100\x7d")) = true := by
    decide +kernel
  obtain ⟨v, hv, hruns⟩ := exists_of_toOption_any hcompiles
  obtain ⟨hreport, hfilled⟩ := of_decide_eq_true hruns
  have hanew : (builtin {}).AnswersAnew ⟨"", s, []⟩ := answersAnew_of_cache_eq_nil rfl (by decide +kernel)
  obtain ⟨rule?, hread, hjudges⟩ := (compile_judges (builtin {}) "" s [] hanew).1 v hv
  obtain rfl : none = rule? := Except.ok.inj hread
  exact ⟨v, hv, hjudges, hreport, hfilled⟩

/-- The codec of what a pointer points at is not looked for, nor is that of an embedded struct whose fields are
flattened: a rule for texts does not compile behind a pointer, and two values of the embedded struct with the same
text are told apart by their fields. -/
theorem codec_missed_behind_pointer :
    let id := ((Schema.int 64).named "Id").withCodec .integer
    let base := (Schema.struct "Base" [(Field.plain "n" .string).withRule "@string\x7ba\x7d"]).withCodec .upper
    let s := Schema.struct "S" [.embedding base]
    let f := builtin { cache := false }
    let lower := Value.struct [("n", .string "a")]
    let upper := Value.struct [("n", .string "A")]
    (∃ v, (f.compile "@string[3,]" id []).1 = .ok v) ∧
      (∀ v, (f.compile "@string[3,]" (.pointer id) []).1 ≠ .ok v) ∧
      base.deemsEmpty lower = false ∧ base.deemsEmpty upper = false ∧
      Codec.upper.marshal lower = Codec.upper.marshal upper ∧
      ∃ v, (f.compile "" s []).1 = .ok v ∧ v.validate (.struct [("Base", lower)]) = [] ∧
        v.validate (.struct [("Base", upper)]) = [⟨[.field "n"], .notListed "string value" ["a"] "A", none⟩] := by
  intro id base s f lower upper
  have hcompiles : ((f.compile "@string[3,]" id []).1.toOption.any fun _ => true) = true := by decide +kernel
  have hrefused : (f.compile "@string[3,]" (.pointer id) []).1.toOption.isNone = true := by decide +kernel
  have hembedded : ((f.compile "" s []).1.toOption.any fun v =>
      decide (v.validate (.struct [("Base", lower)]) = [] ∧
        v.validate (.struct [("Base", upper)]) =
          [⟨[.field "n"], .notListed "string value" ["a"] "A", none⟩])) = true := by
    decide +kernel
  obtain ⟨v, hv, -⟩ := exists_of_toOption_any hcompiles
  obtain ⟨w, hw, hruns⟩ := exists_of_toOption_any hembedded
  obtain ⟨hlower, hupper⟩ := of_decide_eq_true hruns
  have htexts : lower.toString.toList.map Char.toUpper = upper.toString.toList.map Char.toUpper := by
    decide +kernel
  have hmarshal : Codec.upper.marshal lower = Codec.upper.marshal upper :=
    congrArg (fun cs => Except.ok (String.ofList cs)) htexts
  refine ⟨⟨v, hv⟩, fun u hu => ?_, rfl, rfl, hmarshal, w, hw, hlower, hupper⟩
  rw [hu] at hrefused
  cases hrefused

end Factory

end FieldRules
