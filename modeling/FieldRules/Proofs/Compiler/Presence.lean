import FieldRules.Proofs.Compiler.Plain
import FieldRules.Proofs.Compiler.Settling
import FieldRules.Proofs.Validator.Reporting

/-!
# Required and defaulted fields

The loader of a field keeps what its rule says of empty values (`FieldAt.policy_of_compile`), and a field whose rule
is required or has a default is never left out of its struct. So in a struct that does not count as empty itself,
every required field that is empty is reported, and every empty one with a default gets it
(`Factory.required_reported_defaults_filled`).
-/

namespace FieldRules

/-- The fields that are checked by the rule that a schema implies: none if it looks at a text. -/
def Schema.checkedFields (keys : TagKeys) (s : Schema) : List FieldAt :=
  if s.codec?.isSome then [] else s.flatFields keys []

namespace FieldAt

/-- What a struct holds in a field. -/
def slot (a : FieldAt) (fields : Fields Value) : Slot :=
  Fields.get? (Walk.reach a.access fields) a.field.name

/-- Whether a struct holds an empty value in a field; a missing field reads as null. -/
def isEmptyIn (a : FieldAt) (fields : Fields Value) : Bool :=
  a.field.schema.deemsEmpty (a.slot fields).read

/-- Whether a field has to be given. -/
def isRequired (keys : TagKeys) (a : FieldAt) : Bool :=
  (a.rule keys).presence = .required

/-- The text of the default of a field. -/
def defaultText? (keys : TagKeys) (a : FieldAt) : Option String :=
  match (a.rule keys).presence with
  | .default text => some text
  | _ => none

/-- The message that replaces all others at a field. -/
def message? (keys : TagKeys) (a : FieldAt) : Option String :=
  Modifier.message? (Field.modifiers keys a.field.tag)

/-- Without a test for zero of its own, a field that is missing is empty. -/
private theorem isEmptyIn_of_vacant {a : FieldAt} {fields : Fields Value} (hslot : a.slot fields = none)
    (htest : a.field.schema.zeroTest? = none) : a.isEmptyIn fields = true := by
  unfold isEmptyIn Schema.deemsEmpty
  rw [hslot, Slot.read, Option.getD_none]
  split
  · rfl
  · contradiction
  · rw [Schema.isZero, htest]
    rfl

end FieldAt

variable {scope : Scope} {s : Schema} {keys : TagKeys}

/-! ### Policies -/

private theorem emptyPolicy_of_required {inner : Option Validator} {r : Rule} {policy : EmptyPolicy}
    (h : (emptyPolicy s inner r : Compiled EmptyPolicy) = .ok policy) (hr : r.presence = .required) :
    policy = .refuse := by
  obtain ⟨hpresence, -⟩ := emptyPolicy_of_presence h
  rw [hr] at hpresence
  cases policy <;> cases hpresence
  rfl

private theorem emptyPolicy_of_default {inner : Option Validator} {r : Rule} {policy : EmptyPolicy} {text : String}
    (h : (emptyPolicy s inner r : Compiled EmptyPolicy) = .ok policy) (hr : r.presence = .default text) :
    ∃ d seen, readDefault s text = .ok (d, seen) ∧ policy = .fill text d := by
  obtain ⟨hpresence, -⟩ := emptyPolicy_of_presence h
  rw [hr] at hpresence
  cases policy with
  | refuse | pass => cases hpresence
  | fill text' d =>
    obtain rfl : text' = text := Presence.default.inj hpresence
    obtain ⟨seen, hread, -⟩ := OutcomeLogic.plain.emptyPolicy s inner r _ h _ d rfl
    exact ⟨d, seen, hread, rfl⟩

/-! ### Fields -/

namespace FieldAt

variable {a : FieldAt} {c : FieldCheck}

/-- The check of a field is a loader that keeps what the rule says of empty values. -/
theorem policy_of_compile (h : a.compile scope = .ok c) :
    ∃ inner policy, c.validator =
        .loader ⟨a.field.schema, inner, policy, a.message? scope.keys, a.field.schema.codec?⟩ ∧
      (emptyPolicy a.field.schema inner (a.rule scope.keys) : Compiled EmptyPolicy) = .ok policy ∧
      ((a.rule scope.keys).presence = .required → inner.isSome = true) := by
  obtain ⟨hread, hcompile, -⟩ := compile_eq_ok_iff.1 h
  obtain ⟨inner, policy, hinner, hpolicy, hv⟩ := Schema.compile_eq_ok_iff.1 hcompile
  refine ⟨inner, policy, hv, hpolicy, fun hrequired => ?_⟩
  cases hrule : a.rule? scope.keys with
  | none =>
    -- An implied rule is optional, and no modifier changes that.
    have hbase := Modifier.required_of_foldl_apply _ hrequired
    rw [hrule] at hbase
    cases hbase
  | some r =>
    rw [hrule] at hread hinner
    have hname : r.name ≠ "" := by
      obtain ⟨hisName, -⟩ := Rule.wellFormed_iff.1 (Rule.wellFormed_of_parse (readRule_eq_ok hread r rfl))
      intro hempty
      rw [hempty] at hisName
      exact absurd hisName (by decide)
    have hnamed : (a.field.schema.ruleFor (some r) (Field.modifiers scope.keys a.field.tag)).name ≠ "" := by
      rwa [Schema.ruleFor, Modifier.name_foldl_apply]
    obtain ⟨v, rfl⟩ := Site.exists_of_inner hnamed hinner
    rfl

/-- The check of a required field is not left out, and reports the field when it is empty. -/
private theorem reports_of_required (h : a.compile scope = .ok c) (hrequired : a.isRequired scope.keys = true) :
    scope.retains c = true ∧ ∀ fields, a.isEmptyIn fields = true →
      (c.validator.walk false (c.slot fields)).1 = [⟨[], .missing, a.message? scope.keys⟩] := by
  obtain ⟨-, -, haccess, hname, -⟩ := compile_eq_ok_iff.1 h
  obtain ⟨inner, policy, hv, hpolicy, hinner⟩ := policy_of_compile h
  have hpresence : (a.rule scope.keys).presence = .required := of_decide_eq_true hrequired
  obtain rfl := emptyPolicy_of_required hpolicy hpresence
  constructor
  · have hnone : inner.isNone = false := by
      rw [Option.isNone_eq_false_iff]
      exact hinner hpresence
    simp [Scope.retains, hv, Validator.isNoop, Loader.isNoop, hnone]
  · intro fields hempty
    have hslot : c.slot fields = a.slot fields := by rw [FieldCheck.slot, slot, haccess, hname]
    have hisEmpty : (Loader.mk a.field.schema inner .refuse (a.message? scope.keys) a.field.schema.codec?).isEmpty
        (a.slot fields).read = true := hempty
    rw [hv, hslot, Validator.walk, Loader.walk_fst_of_empty hisEmpty]
    cases a.message? scope.keys <;> rfl

/-- The check of a field with a default is not left out, and leaves the default in the field when it is empty. -/
private theorem fills_of_default (h : a.compile scope = .ok c) {text : String}
    (htext : a.defaultText? scope.keys = some text) :
    scope.retains c = true ∧ ∃ d seen, readDefault a.field.schema text = .ok (d, seen) ∧
      ∀ fields, a.isEmptyIn fields = true → (c.validator.walk true (c.slot fields)).2 = some d := by
  obtain ⟨-, -, haccess, hname, -⟩ := compile_eq_ok_iff.1 h
  obtain ⟨inner, policy, hv, hpolicy, -⟩ := policy_of_compile h
  have hpresence : (a.rule scope.keys).presence = .default text := by
    unfold defaultText? at htext
    split at htext
    next text' htext' => rw [htext', Option.some.inj htext]
    · cases htext
  obtain ⟨d, seen, hread, rfl⟩ := emptyPolicy_of_default hpolicy hpresence
  constructor
  · simp [Scope.retains, hv, Validator.isNoop, Loader.isNoop, EmptyPolicy.default?]
  · refine ⟨d, seen, hread, fun fields hempty => ?_⟩
    have hslot : c.slot fields = a.slot fields := by rw [FieldCheck.slot, slot, haccess, hname]
    rw [hv, hslot, Validator.walk, Loader.walk_true_snd]
    exact if_pos hempty

end FieldAt

/-! ### Structs -/

private theorem FieldAt.CompileTo.of_mem {fields : List FieldAt} {checks : List FieldCheck} {a : FieldAt}
    (h : FieldAt.CompileTo scope fields checks) (ha : a ∈ fields) :
    ∃ c, a.compile scope = .ok c ∧ (scope.retains c = true → c ∈ checks) := by
  obtain ⟨all, hall, rfl⟩ := h
  obtain ⟨before, after, rfl⟩ := List.append_of_mem ha
  rw [List.mapM_append, bind_eq_ok] at hall
  obtain ⟨cs, -, hall⟩ := hall
  obtain ⟨ds, hds, hall⟩ := bind_eq_ok.1 hall
  rw [List.mapM_cons, bind_eq_ok] at hds
  obtain ⟨c, hc, hds⟩ := hds
  obtain ⟨ds', -, hds⟩ := bind_eq_ok.1 hds
  obtain rfl := Except.ok.inj hds
  obtain rfl := Except.ok.inj hall
  exact ⟨c, hc, fun hretained => List.mem_filter.2 ⟨by simp, hretained⟩⟩

/-- The checks of a struct look at its fields, and their validators can be built. -/
private theorem Schema.built_of_fields {checks : List FieldCheck}
    (h : (s.site (.plain scope)).fields [] = .ok checks) :
    (checks.map FieldCheck.spot).Sublist (s.spots scope.keys []) ∧
      ∀ c ∈ checks, Built scope.keys (fun _ => True) c.validator := by
  have hremembers : (Env.plain scope).Remembers OutcomeLogic.plain fun _ => True := fun _ _ h => h
  obtain ⟨hsound, hserves⟩ := OutcomeLogic.plain.schemaSite hereditary_true hremembers s trivial
  obtain ⟨hspots, hbuilt⟩ := hsound.fields [] checks h
  exact ⟨hspots.trans (hserves []), hbuilt⟩

mutual

/-- Only structs, also behind pointers, have fields that are checked. -/
private theorem Schema.kind_target_of_mem (access : List String) : (s : Schema) → ∀ a ∈ s.flatFields keys access,
    s.target.kind = .struct
  | ⟨shape, alias?, codec?, test⟩ => Shape.kind_target_of_mem access shape alias? codec? test

private theorem Shape.kind_target_of_mem (access : List String) : (shape : Shape) → ∀ alias? codec? test,
    ∀ a ∈ shape.flatFields keys access, (Schema.target ⟨shape, alias?, codec?, test⟩).kind = .struct
  | .struct _ => fun _ _ _ _ _ => rfl
  | .pointer target => fun _ _ _ => Schema.kind_target_of_mem access target
  | .bool | .int _ | .uint _ | .float _ | .string | .slice _ | .array .. | .map .. | .any =>
    fun _ _ _ => List.forall_mem_nil _

end

private theorem Schema.impliedRule_of_struct (hcodec : s.codec? = none) (hkind : s.target.kind = .struct) :
    s.impliedRule = .named "struct" := by
  unfold Schema.impliedRule
  rw [hcodec]
  unfold Schema.kind at hkind
  cases hshape : s.target.shape <;> rw [hshape] at hkind <;> first | rfl | cases hkind

/-- The rule that a struct implies checks its fields, unless nothing is left to check, and lets empty values pass. -/
private theorem Schema.compile_implied (hdirect : scope.registry.Direct) {v : Validator}
    (hv : s.compile (.plain scope) none [] = .ok v) {a : FieldAt} (ha : a ∈ s.checkedFields scope.keys) :
    ∃ checks, (s.site (.plain scope)).fields [] = .ok checks ∧
      FieldAt.CompileTo scope (s.checkedFields scope.keys) checks ∧
      (checks ≠ [] → v = .loader ⟨s, some (.struct checks), .pass, none, none⟩) := by
  have hcodec : s.codec? = none := by
    rw [← Option.not_isSome_iff_eq_none]
    intro hsome
    rw [Schema.checkedFields, if_pos hsome] at ha
    cases ha
  have hfields : s.checkedFields scope.keys = s.flatFields scope.keys [] := by simp [Schema.checkedFields, hcodec]
  rw [hfields] at ha ⊢
  have hkind := Schema.kind_target_of_mem [] s a ha
  obtain ⟨inner, policy, hinner, hpolicy, rfl⟩ := Schema.compile_eq_ok_iff.1 hv
  have hpass : policy = .pass := by
    obtain ⟨hpresence, -⟩ := emptyPolicy_of_presence hpolicy
    cases policy <;> cases hpresence
    rfl
  have hname : (s.ruleFor none []).name = "struct" := by
    rw [Schema.ruleFor_nil, Option.getD_none, Schema.impliedRule_of_struct hcodec hkind]
    rfl
  have hseen : s.seen = s := by simp [Schema.seen, hcodec]
  rw [hseen, Schema.checkOf_struct_eq_ok_iff hdirect hkind] at hinner
  rcases hinner with ⟨hblank, -⟩ | ⟨-, -, -, checks, hchecks, rfl⟩
  · exact absurd (hname ▸ hblank) (by decide)
  · refine ⟨checks, (s.site_fields_eq_ok_iff [] checks).2 hchecks, hchecks, fun hne => ?_⟩
    have hkept : (scope.simplifies && (none : Option Rule).isNone && checks.isEmpty) = false := by
      simp [hne]
    rw [hkept, hcodec, hpass]
    rfl

/-- A struct that does not count as empty is walked by the checks of its fields. -/
private theorem Validator.walk_implied {checks : List FieldCheck} {fields : Fields Value}
    (hfull : s.deemsEmpty (.struct fields) = false) (fills : Bool) :
    (Validator.loader ⟨s, some (.struct checks), .pass, none, none⟩).walk fills (some (.struct fields)) =
      ((FieldCheck.walkAll fills checks fields).1, some (.struct (FieldCheck.walkAll fills checks fields).2)) := by
  have hisEmpty : (Loader.mk s (some (.struct checks)) .pass none none).isEmpty (.struct fields) = false := hfull
  simp only [Validator.walk, Loader.walk, Slot.read, Option.getD_some, hisEmpty, Bool.false_eq_true, if_false]

namespace Factory

/-- Of the checked fields of a struct that does not count as empty as a whole, each one that is empty, or missing and
not of a type with a test for zero of its own, is reported when its rule is required, and filled in when its rule has
a default and the names are pairwise different. So when nothing is reported, no required field is empty. -/
theorem required_reported_defaults_filled (f : Factory) (hcache : f.config.cache = false)
    (hdirect : f.registry.Direct) (s : Schema) (v : Validator) (hv : (f.compile "" s []).1 = .ok v)
    (fields : Fields Value) (hfull : s.deemsEmpty (.struct fields) = false) :
    (∀ a ∈ s.checkedFields f.config.tagKeys,
      a.isEmptyIn fields = true ∨ (a.slot fields = none ∧ a.field.schema.zeroTest? = none) →
      (a.isRequired f.config.tagKeys = true →
        ⟨[.field (a.label f.config.tagKeys)], .missing, a.message? f.config.tagKeys⟩ ∈ v.validate (.struct fields)) ∧
      (s.NamesApart f.config.tagKeys → ∀ text, a.defaultText? f.config.tagKeys = some text →
        ∃ d seen report filled, readDefault a.field.schema text = .ok (d, seen) ∧
          (f.applyDefaults s (.struct fields)).1 = .ok (report, .struct filled) ∧ a.slot filled = some d)) ∧
    (v.validate (.struct fields) = [] → ∀ a ∈ s.checkedFields f.config.tagKeys,
      a.isRequired f.config.tagKeys = true → a.isEmptyIn fields = false) := by
  obtain ⟨rule?, hread, hcompile⟩ := (compile_eq_ok_iff hcache).1 hv
  obtain rfl : none = rule? := Except.ok.inj hread
  have hreports : ∀ a ∈ s.checkedFields f.config.tagKeys, a.isEmptyIn fields = true →
      a.isRequired f.config.tagKeys = true →
      ⟨[.field (a.label f.config.tagKeys)], .missing, a.message? f.config.tagKeys⟩ ∈ v.validate (.struct fields) := by
    intro a ha hempty hrequired
    obtain ⟨checks, -, hchecks, hloader⟩ := Schema.compile_implied hdirect hcompile ha
    obtain ⟨c, hc, hmem⟩ := hchecks.of_mem ha
    obtain ⟨hretained, hreport⟩ := a.reports_of_required hc hrequired
    obtain ⟨-, -, -, -, hlabel⟩ := FieldAt.compile_eq_ok_iff.1 hc
    rw [hloader (List.ne_nil_of_mem (hmem hretained)), Validator.validate, Validator.walk_implied hfull,
      FieldCheck.walkAll_false_fst, List.mem_flatMap]
    refine ⟨c, hmem hretained, ?_⟩
    rw [hreport fields hempty, hlabel]
    exact List.mem_singleton.2 rfl
  refine ⟨fun a ha hgiven => ?_, fun hpasses a ha hrequired => ?_⟩
  · have hempty : a.isEmptyIn fields = true := by
      rcases hgiven with hempty | ⟨hslot, htest⟩
      · exact hempty
      · exact a.isEmptyIn_of_vacant hslot htest
    refine ⟨hreports a ha hempty, fun hnames text htext => ?_⟩
    obtain ⟨checks, hsite, hchecks, hloader⟩ := Schema.compile_implied hdirect hcompile ha
    obtain ⟨c, hc, hmem⟩ := hchecks.of_mem ha
    obtain ⟨hretained, d, seen, hdefault, hfills⟩ := a.fills_of_default hc htext
    obtain ⟨-, -, haccess, hname, -⟩ := FieldAt.compile_eq_ok_iff.1 hc
    -- The names keep the checks apart, so what the check of the field leaves in it stays there.
    obtain ⟨hspots, hbuilt⟩ := Schema.built_of_fields hsite
    have hslot := FieldCheck.slot_walkAll (FieldCheck.pairwise_apart_of_spots hnames hspots)
      (fun c hc => (hbuilt c hc).fillsSlots.holds) (notMem_access_of_spots hnames hspots) fields c (hmem hretained)
    have hfill : (f.applyDefaults s (.struct fields)).1 =
        .ok ((FieldCheck.walkAll true checks fields).1, .struct (FieldCheck.walkAll true checks fields).2) := by
      simp only [applyDefaults, hv, hloader (List.ne_nil_of_mem (hmem hretained)), Except.map, Validator.fill,
        Validator.walk_implied hfull, Option.getD_some]
    refine ⟨d, seen, _, _, hdefault, hfill, ?_⟩
    have hsame : a.slot (FieldCheck.walkAll true checks fields).2 =
        c.slot (FieldCheck.walkAll true checks fields).2 := by
      rw [FieldAt.slot, FieldCheck.slot, haccess, hname]
    rw [hsame, hslot, hfills fields hempty]
  · rw [← Bool.not_eq_true]
    intro hempty
    have hmem := hreports a ha hempty hrequired
    rw [hpasses] at hmem
    cases hmem

/-- A struct that holds none of the fields, one of which is embedded, and one that passes. -/
theorem required_reported_defaults_filled_embedded :
    let id := (Field.plain "id" (.int 64)).withRule "@int64"
    let port := (Field.plain "port" (.int 32)).withTag (Tag.empty.withEntry "default" "8080")
    let s := Schema.struct "config" [.embedding (.struct "base" [id]), port]
    let f := builtin { cache := false }
    let missing : FieldAt := ⟨["base"], id⟩
    let absent : FieldAt := ⟨[], port⟩
    let x : Fields Value := [("debug", .bool true)]
    let y : Fields Value := [("base", .struct [("id", .int 7)])]
    ∃ v, (f.compile "" s []).1 = .ok v ∧ s.deemsEmpty (.struct x) = false ∧
      ⟨[.field "id"], .missing, none⟩ ∈ v.validate (.struct x) ∧
      (∃ d seen report filled, readDefault (.int 32) "8080" = .ok (d, seen) ∧
        (f.applyDefaults s (.struct x)).1 = .ok (report, .struct filled) ∧ absent.slot filled = some d) ∧
      v.validate (.struct y) = [] ∧ missing.isEmptyIn y = false := by
  intro id port s f missing absent x y
  have hcompiles : ((f.compile "" s []).1.toOption.any fun v => decide (v.validate (.struct y) = [])) = true := by
    decide +kernel
  obtain ⟨v, hv, hruns⟩ := exists_of_toOption_any hcompiles
  have hpasses : v.validate (.struct y) = [] := of_decide_eq_true hruns
  have hclaim := required_reported_defaults_filled f rfl Registry.direct_builtin s v hv
  have hid : Field.flatFields {} ["base"] [id] = [missing] := Field.flatFields_cons_checked (by decide +kernel)
  have hport : Field.flatFields {} [] [port] = [absent] := Field.flatFields_cons_checked (by decide +kernel)
  have hfields : s.checkedFields f.config.tagKeys = [missing, absent] := by
    have hname : Field.name (.embedding (.struct "base" [id])) = "base" := by decide +kernel
    show Field.flatFields {} [] (.embedding (.struct "base" [id]) :: [port]) = _
    rw [Field.flatFields_cons_flattened (by decide +kernel), hname, hport]
    exact congrArg (· ++ [absent]) hid
  have hfull : s.deemsEmpty (.struct x) = false := rfl
  have hclaims := (hclaim x hfull).1
  have hreport := (hclaims missing (by simp [hfields]) (.inr ⟨rfl, rfl⟩)).1 (by decide +kernel)
  have hfill := (hclaims absent (by simp [hfields]) (.inl rfl)).2 (by decide +kernel) "8080" (by decide +kernel)
  have hgiven := (hclaim y rfl).2 hpasses missing (by simp [hfields]) (by decide +kernel)
  exact ⟨v, hv, hfull, hreport, hfill, hpasses, hgiven⟩

/-- A field that is missing is neither reported nor filled in as such when its type has a test for zero of its own
that does not hold of null; and a struct without any fields counts as empty as a whole, so nothing in it is. -/
theorem required_skipped_of_zeroTest :
    let tag := Tag.empty.withEntry "default" "8080"
    let id := (Field.plain "id" ((Schema.int 64).withZeroTest .minusOne)).withRule "@int64"
    let port := (Field.plain "port" ((Schema.int 32).withZeroTest .minusOne)).withTag tag
    let s := Schema.struct "config" [id, port]
    let t := Schema.struct "config" [(Field.plain "name" .string).withRule "@string",
      (Field.plain "port" (.int 32)).withTag tag]
    let f := builtin { cache := false }
    let x : Fields Value := [("debug", .bool true)]
    (s.NamesApart {} ∧ t.NamesApart {}) ∧
    (FieldAt.isRequired {} ⟨[], id⟩ = true ∧ FieldAt.slot ⟨[], id⟩ x = none ∧
      FieldAt.defaultText? {} ⟨[], port⟩ = some "8080" ∧ FieldAt.slot ⟨[], port⟩ x = none ∧
      (f.applyDefaults s (.struct x)).1 = .ok ([⟨[.field "id"], .unsupported "@int<64>" "null", none⟩], .struct x)) ∧
    (f.applyDefaults t (.struct [])).1 = .ok ([], .struct []) := by
  intro tag id port s t f x
  refine ⟨by decide +kernel, ⟨by decide +kernel, rfl, by decide +kernel, rfl, ?_⟩, ?_⟩
  · exact eq_ok_of_toOption_any (by decide +kernel)
  · exact eq_ok_of_toOption_any (by decide +kernel)

end Factory

end FieldRules
