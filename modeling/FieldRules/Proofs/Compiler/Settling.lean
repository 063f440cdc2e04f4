import FieldRules.Proofs.Compiler.Direct
import FieldRules.Proofs.Compiler.Filling
import FieldRules.Proofs.Validator.Settling

/-!
# Compiled validators settle

A loader settles when its check does: its default was checked when it was compiled (`Loader.passes_default`), and
below a check other than a loader nothing becomes empty that was not (`BuiltCheck.isEmpty_walk`). So what is left of
a value that passes with defaults filled in passes as it is (`Factory.validate_fill`).
-/

namespace FieldRules

/-! ### Loaders -/

namespace Loader

variable {fills : Bool} {l : Loader} {slot : Slot}

private theorem passes_of_empty (h : l.isEmpty slot.read = true) :
    (l.walk fills slot).1 = [] ↔ l.onEmpty.isOptional = true := by
  obtain ⟨schema, inner, onEmpty, message?, codec?⟩ := l
  cases inner <;> simp only [Loader.walk, if_pos h] <;>
    cases onEmpty <;> cases message? <;> simp [EmptyPolicy.isOptional, Report.single, Report.withMessage]

private theorem passes_of_plain (h : l.isEmpty slot.read = false) (hplain : l.codec? = none) :
    (l.walk fills slot).1 = [] ↔ ∀ v, l.inner = some v → (v.walk fills slot).1 = [] := by
  obtain ⟨schema, inner, onEmpty, message?, codec?⟩ := l
  obtain rfl : codec? = none := hplain
  cases inner with
  | none => simp [Loader.walk, h]
  | some v => cases message? <;> simp [Loader.walk, h, Report.withMessage_eq_nil]

private theorem passes_of_codec {codec : Codec} (h : l.isEmpty slot.read = false) (hcodec : l.codec? = some codec) :
    (l.walk fills slot).1 = [] ↔
      ∀ v, l.inner = some v → ∃ text, codec.marshal slot.read = .ok text ∧ v.validate (.string text) = [] := by
  obtain ⟨schema, inner, onEmpty, message?, codec?⟩ := l
  obtain rfl : codec? = some codec := hcodec
  cases inner with
  | none => simp [Loader.walk, h]
  | some v =>
    simp only [Loader.walk, h, Bool.false_eq_true, if_false, Option.some.injEq, forall_eq']
    cases codec.marshal slot.read <;> cases message? <;>
      simp [Report.withMessage_eq_nil, Report.single, Validator.validate]

end Loader

/-- What the check of a rule looks at in place of a default: its text if there is a codec, or else itself. -/
theorem seen_of_readDefault {s : Schema} {text : String} {d seen : Value} (h : readDefault s text = .ok (d, seen)) :
    (s.codec? = none → seen = d) ∧
      ∀ codec, s.codec? = some codec → ∃ written, codec.marshal d = .ok written ∧ seen = .string written := by
  unfold readDefault at h
  split at h
  next codec hcodec =>
    refine ⟨by simp [hcodec], ?_⟩
    rintro _ hsome
    obtain rfl := Option.some.inj (hcodec.symm.trans hsome)
    cases hvalue : codec.unmarshal text with
    | error reason =>
      rw [hvalue] at h
      cases h
    | ok value =>
      cases hwritten : codec.marshal value with
      | error reason =>
        simp only [hvalue, hwritten, bind, Except.bind] at h
        cases h
      | ok written =>
        simp only [hvalue, hwritten, bind, Except.bind] at h
        cases h
        exact ⟨written, hwritten, rfl⟩
  next hnone =>
    refine ⟨fun _ => ?_, by simp [hnone]⟩
    cases hvalue : (s.target.read text).mapError ReadError.message with
    | error reason =>
      rw [hvalue] at h
      cases h
    | ok value =>
      rw [hvalue] at h
      cases h
      rfl

/-- The default of a rule passes the rule. -/
theorem Loader.passes_default {l : Loader} (hcodec : l.codec? = l.schema.codec?)
    (hdefault : l.onEmpty.Materialized l.schema l.inner) {text : String} {d : Value}
    (h : l.onEmpty = .fill text d) : (l.walk false (some d)).1 = [] := by
  obtain ⟨seen, hread, hseen⟩ := hdefault text d h
  obtain ⟨hplain, hwritten⟩ := seen_of_readDefault hread
  by_cases hempty : l.isEmpty d = true
  · exact (passes_of_empty hempty).2 (by rw [h]; rfl)
  · have hfull : l.isEmpty (Slot.read (some d)) = false := Bool.eq_false_iff.2 hempty
    cases hc : l.codec? with
    | none =>
      obtain rfl := hplain (hcodec ▸ hc)
      exact (passes_of_plain hfull hc).2 hseen
    | some codec =>
      obtain ⟨written, hmarshal, rfl⟩ := hwritten codec (hcodec ▸ hc)
      exact (passes_of_codec hfull hc).2 fun v hv => ⟨written, hmarshal, hseen v hv⟩

/-- A loader settles slots when its default passes, and its check settles them and leaves nothing empty. -/
theorem Loader.settles {l : Loader} (hcodec : l.codec? = l.schema.codec?)
    (hdefault : l.onEmpty.Materialized l.schema l.inner) (hcheck : ∀ v, l.inner = some v → v.Settles)
    (hfull : ∀ v slot, l.inner = some v → l.isEmpty slot.read = false →
      l.isEmpty (v.walk true slot).2.read = false) :
    (Validator.loader l).Settles := by
  intro slot hpasses
  simp only [Validator.walk] at hpasses ⊢
  rw [walk_true_snd]
  split
  next hempty =>
    -- The slot passed for being empty: it stays as it is, or the default takes its place.
    cases honEmpty : l.onEmpty with
    | refuse | pass =>
      simp only [EmptyPolicy.default?, Option.none_or]
      exact (passes_of_empty hempty).2 ((passes_of_empty hempty).1 hpasses)
    | fill text d => exact passes_default hcodec hdefault honEmpty
  next hnot =>
    have hslot : l.isEmpty slot.read = false := Bool.eq_false_iff.2 hnot
    split
    next v hinner hc =>
      have hv := (passes_of_plain hslot hc).1 hpasses v hinner
      refine (passes_of_plain (hfull v slot hinner hslot) hc).2 fun w hw => ?_
      obtain rfl := Option.some.inj (hinner.symm.trans hw)
      exact hcheck v hinner slot hv
    next hother =>
      cases hc : l.codec? with
      | none => exact (passes_of_plain hslot hc).2 fun v hv => absurd hc (hother v hv)
      | some codec => exact (passes_of_codec hslot hc).2 ((passes_of_codec hslot hc).1 hpasses)

/-! ### Emptiness -/

/-- Without a test for zero of its own, a schema has null as its empty value if it is a pointer, and else what is
zero. -/
private theorem Loader.isEmpty_iff {l : Loader} (htest : l.schema.zeroTest? = none) (x : Value) :
    l.isEmpty x = true ↔
      (l.schema.kind = .pointer ∧ x = .null) ∨ (l.schema.kind ≠ .pointer ∧ x.isZero = true) := by
  have hisZero : l.schema.isZero x = x.isZero := by rw [Schema.isZero, htest]
  cases hkind : l.schema.kind with
  | pointer => cases x <;> simp [Loader.isEmpty, hkind]
  | _ => simp [Loader.isEmpty, hkind, hisZero]

private theorem FieldFilled.ne_nil {keys : TagKeys} {v : Validator} {name : String} {access : List String}
    {fs gs : Fields Value} : FieldFilled keys v name access fs gs → fs ≠ [] → gs ≠ []
  | .same .., hne => hne
  | .held .., _ | .missing .., _ | .embedded .., _ => by simp
  | .flat _ h, hne => h.ne_nil hne

private theorem FieldsFilled.ne_nil {keys : TagKeys} {checks : List FieldCheck} {fs gs : Fields Value} :
    FieldsFilled keys checks fs gs → fs ≠ [] → gs ≠ []
  | .nil _, hne => hne
  | .cons first others, hne => others.ne_nil (first.ne_nil hne)

/-- Filling below a check, other than a loader, leaves null and what is zero alone and makes nothing zero. -/
private theorem FilledCheck.not_empty {keys : TagKeys} {s : Schema} {v : Validator} {x y : Value}
    (h : FilledCheck keys s v x y) (hv : v.isLoader = false) :
    x = y ∨ (y ≠ .null ∧ (x.isZero = false → y.isZero = false)) := by
  cases h with
  | same => exact .inl rfl
  | items _ length _ =>
    refine .inr ⟨by simp, fun hx => ?_⟩
    simp only [Value.isZero, List.isEmpty_eq_false_iff, ne_eq, ← List.length_eq_zero_iff] at hx ⊢
    omega
  | entries _ same_keys _ | named _ same_keys _ =>
    refine .inr ⟨by simp, fun hx => ?_⟩
    have hlength := congrArg List.length same_keys
    simp only [List.length_map] at hlength
    simp only [Value.isZero, List.isEmpty_eq_false_iff, ne_eq, ← List.length_eq_zero_iff] at hx ⊢
    omega
  | fields _ h =>
    refine .inr ⟨by simp, fun hx => ?_⟩
    simp only [Value.isZero, List.isEmpty_eq_false_iff] at hx ⊢
    exact h.ne_nil hx
  | loader _ h =>
    cases h with
    | same => exact .inl rfl
    | default h => cases h <;> cases hv
    | inner => cases hv

/-- A check other than a loader leaves nothing empty that was not. -/
theorem BuiltCheck.isEmpty_walk {keys : TagKeys} {P : Schema → Prop} {s : Schema} {v : Validator}
    (h : BuiltCheck keys P s v) (hv : v.isLoader = false) {l : Loader} (htest : l.schema.zeroTest? = none)
    {slot : Slot} (hfull : l.isEmpty slot.read = false) : l.isEmpty (v.walk true slot).2.read = false := by
  have hleaves := h.walk_leaves slot
  generalize (v.walk true slot).2 = slot' at hleaves
  cases hleaves with
  | vacant => exact hfull
  | added h => cases h <;> cases hv
  | held h =>
    rcases h.not_empty hv with rfl | ⟨hnull, hzero⟩
    · exact hfull
    · rw [← Bool.not_eq_true, Loader.isEmpty_iff htest] at hfull ⊢
      rintro (⟨-, rfl⟩ | ⟨hkind, hy⟩)
      · exact hnull rfl
      · refine hfull (.inr ⟨hkind, ?_⟩)
        rw [← Bool.not_eq_false]
        exact fun hx => Bool.eq_false_iff.1 (hzero hx) hy

/-! ### Whole validators -/

variable {keys : TagKeys} {P : Schema → Prop}

/-- Whether a schema has no test for zero of its own, and names that are pairwise different. -/
def Schema.IsPlain (keys : TagKeys) (s : Schema) : Prop :=
  s.zeroTest?.isNone = true ∧ s.NamesApart keys

instance (keys : TagKeys) (s : Schema) : Decidable (s.IsPlain keys) :=
  inferInstanceAs (Decidable (_ ∧ _))

/-- Whether all schemas that a schema consists of are plain. -/
def Schema.TypesPlain (keys : TagKeys) (s : Schema) : Prop :=
  ∀ t ∈ s.types, t.IsPlain keys

instance (keys : TagKeys) (s : Schema) : Decidable (s.TypesPlain keys) :=
  inferInstanceAs (Decidable (∀ _ ∈ _, _))

theorem hereditary_typesPlain (keys : TagKeys) : Hereditary (Schema.TypesPlain keys) where
  any := List.forall_mem_singleton.2 ⟨rfl, List.nodup_nil⟩
  string := List.forall_mem_singleton.2 ⟨rfl, List.nodup_nil⟩
  types := fun s hs t ht u hu => hs u (s.mem_types_trans t ht u hu)

/-- Whether the loaders in a list of nodes, whose schemas all have a property, have plain schemas, and none has a
loader as its check. -/
structure LoadersPlain (keys : TagKeys) (P : Schema → Prop) (nodes : List Validator) : Prop where
  schemas : ∀ l, .loader l ∈ nodes → P l.schema → l.schema.IsPlain keys
  checks : NoNesting nodes

theorem LoadersPlain.mono {ns ms : List Validator} (h : LoadersPlain keys P ms) (hsub : ∀ v ∈ ns, v ∈ ms) :
    LoadersPlain keys P ns :=
  ⟨fun l hl => h.schemas l (hsub _ hl), h.checks.mono hsub⟩

theorem Validator.FillsSlots.holds {v : Validator} (h : v.FillsSlots keys) : v.Holds := by
  intro x hnone
  have hleaves := h (some x)
  rw [hnone] at hleaves
  cases hleaves

theorem notMem_access_of_spots {s : Schema} (hs : s.NamesApart keys) {checks : List FieldCheck}
    (h : (checks.map FieldCheck.spot).Sublist (s.spots keys [])) : ∀ c ∈ checks, c.name ∉ c.access :=
  fun _ hc => hs.notMem_access _ (h.subset (List.mem_map_of_mem hc))

mutual

/-- A validator that compiling makes settles slots, when the schemas of its loaders are plain and no loader has
another one as its check. -/
theorem Built.settles {v : Validator} : Built keys P v → LoadersPlain keys P v.nodes → v.Settles
  | .loader schema check default, h => by
    obtain ⟨htest, hnames⟩ := h.schemas _ (List.mem_cons_self ..) schema
    refine Loader.settles rfl default (fun v hv => ?_) fun v slot hv => ?_
    · exact (check v hv).settles hnames (h.mono (Loader.mem_nodes_of_inner hv))
    · exact (check v hv).isEmpty_walk (h.checks _ (List.mem_cons_self ..) v hv) (Option.isNone_iff_eq_none.1 htest)

private theorem BuiltCheck.settles {s : Schema} {v : Validator} : BuiltCheck keys P s v → s.NamesApart keys →
    LoadersPlain keys P v.nodes → v.Settles
  | .integer .., _, _ | .float .., _, _ | .text .., _, _ | .format .., _, _ => by
    simp [Validator.Settles, Validator.walk, Walk.keep]
  | .slice _ bounds length? item_built, _, h => by
    refine settles_slice (fun v hv => ⟨(item_built v hv).settles (h.mono fun w hw => ?_),
      (item_built v hv).fillsSlots.holds⟩) bounds length?
    exact List.mem_cons_of_mem _ (by rwa [hv])
  | .map _ bounds _ item_built, _, h => by
    refine settles_map _ (fun v hv => ⟨(item_built v hv).settles (h.mono fun w hw => ?_),
      (item_built v hv).fillsSlots.holds⟩) bounds
    exact List.mem_cons_of_mem _ (List.mem_append_right _ (by rwa [hv]))
  | .struct spots checks_built, hs, h => by
    refine settles_struct (FieldCheck.pairwise_apart_of_spots hs spots) (notMem_access_of_spots hs spots)
      fun c hc => ⟨(checks_built c hc).settles (h.mono fun w hw => ?_), (checks_built c hc).fillsSlots.holds⟩
    exact List.mem_cons_of_mem _ (FieldCheck.mem_nodes.2 ⟨c, hc, hw⟩)
  | .loader _ built, _, h => built.settles h

end

namespace Factory

/-- A value that passes with defaults filled in passes as it is then, as long as no rule stands for another one, and
types have no tests for zero of their own and pairwise different names of fields and embedded fields in each
struct: the type and all that it consists of, and the ones that the factory was asked for before; or just those that
the validator was compiled for, whatever came before. -/
theorem validate_fill (config : Config) (f : Factory) (hdirect : f.registry.Direct) (rule : String) (s : Schema)
    (mods : List Modifier) (v : Validator) (hv : (f.compile rule s mods).1 = .ok v) :
    (f.Reachable config (Schema.TypesPlain config.tagKeys) → s.TypesPlain config.tagKeys →
      ∀ x, (v.fill x).1 = [] → v.validate (v.fill x).2 = []) ∧
    (f.Reachable config (fun _ => True) → (∀ t ∈ v.types, t.IsPlain config.tagKeys) →
      ∀ x, (v.fill x).1 = [] → v.validate (v.fill x).2 = []) := by
  constructor
  · intro hf hs x
    have hbuilt := hf.built_of_compile (hereditary_typesPlain config.tagKeys) hs hv
    have hplain : LoadersPlain config.tagKeys (Schema.TypesPlain config.tagKeys) v.nodes :=
      ⟨fun l _ hl => hl _ l.schema.mem_types_self, hf.noNesting_of_compile hdirect hv⟩
    exact (hbuilt.settles hplain).fill hbuilt.fillsSlots.holds
  · intro hf htypes x
    have hbuilt := hf.built_of_compile hereditary_true trivial hv
    have hplain : LoadersPlain config.tagKeys (fun _ => True) v.nodes :=
      ⟨fun l hl _ => htypes _ (Validator.mem_types_of_loader hl), hf.noNesting_of_compile hdirect hv⟩
    exact (hbuilt.settles hplain).fill hbuilt.fillsSlots.holds

/-- Items that are empty, and a field that is missing in an embedded struct. -/
theorem validate_fill_nested :
    let age := (Field.plain "age" (.int 8)).withTag
      ((Tag.empty.withEntry "default" "7").withEntry "validate" "@int[1,]")
    let sizes := (Field.plain "sizes" (.slice (.int 8))).withRule "@slice<@int[1,9]=3>[,2]"
    let s := Schema.struct "box" [.embedding (.struct "base" [age]), sizes]
    let x := Value.struct [("sizes", .list [.int 0, .int 5]), ("base", .struct [])]
    let y := Value.struct [("sizes", .list [.int 3, .int 5]), ("base", .struct [("age", .int 7)])]
    ∃ v, ((builtin {}).compile "" s []).1 = .ok v ∧ (v.fill x).1 = [] ∧ (v.fill x).2 = y ∧
      (s.TypesPlain {} ∧ v.validate y = []) ∧ (∀ t ∈ v.types, t.IsPlain {}) ∧ v.validate y = [] := by
  intro age sizes s x y
  have hs : s.TypesPlain {} := by decide +kernel
  have hcompiles : (((builtin {}).compile "" s []).1.toOption.any fun v =>
      decide ((v.fill x).1 = [] ∧ ∀ t ∈ v.types, t.IsPlain {}) && (v.fill x).2.same y) = true := by
    decide +kernel
  obtain ⟨v, hv, hruns⟩ := exists_of_toOption_any hcompiles
  obtain ⟨hreports, hfilled⟩ := (Bool.and_eq_true ..).mp hruns
  obtain ⟨hpasses, htypes⟩ := of_decide_eq_true hreports
  have hy : (v.fill x).2 = y := Value.eq_of_same _ _ hfilled
  have hclaim := validate_fill {} (builtin {}) Registry.direct_builtin "" s [] v hv
  have hfirst := hclaim.1 .builtin hs x hpasses
  have hsecond := hclaim.2 .builtin htypes x hpasses
  rw [hy] at hfirst hsecond
  exact ⟨v, hv, hpasses, hy, ⟨hs, hfirst⟩, htypes, hsecond⟩

end Factory

end FieldRules
