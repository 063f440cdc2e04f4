import FieldRules.Proofs.Compiler.Presence
import FieldRules.Proofs.Schema.Matching

/-!
# Values in the shape of a schema

A value is in the shape of a schema when it is a list for lists, no longer than an array, a map or a struct for maps,
a struct for structs, and the same holds of its parts. Null is in every shape, and every value is in the shape of a
scalar, of `any` and of a schema with a codec (`Schema.Admits`). A codec behind a pointer makes no difference, and a
field of an embedded struct that is flattened is looked up where its check does it.
-/

namespace FieldRules

mutual

/-- Whether a value is in the shape of a schema. -/
inductive Schema.Admits (keys : TagKeys) : Schema → Value → Prop
  | null (s : Schema) : Schema.Admits keys s .null
  | encoded {s : Schema} (x : Value) (codec : s.codec?.isSome = true) : Schema.Admits keys s x
  | held {s : Schema} {x : Value} (held : Schema.Holds keys s.target x) : Schema.Admits keys s x

/-- Whether a value is in the shape of a schema that is no pointer, whatever its codec. -/
inductive Schema.Holds (keys : TagKeys) : Schema → Value → Prop
  | scalar {t : Schema} (x : Value) (scalar : t.shape.isScalar = true) : Schema.Holds keys t x
  | list {t : Schema} {vs : List Value} (kind : t.kind ∈ [.slice, .array])
      (length : ∀ n, t.length? = some n → vs.length ≤ n)
      (items : ∀ u, t.item? = some u → ∀ y ∈ vs, Schema.Admits keys u y) : Schema.Holds keys t (.list vs)
  | map {t : Schema} {x : Value} {es : List (Value × Value)} (kind : t.kind = .map) (entries : x.entries? = some es)
      (keys_admitted : ∀ u, t.key? = some u → ∀ e ∈ es, Schema.Admits keys u e.1)
      (items_admitted : ∀ u, t.item? = some u → ∀ e ∈ es, Schema.Admits keys u e.2) : Schema.Holds keys t x
  | struct {t : Schema} {fs : Fields Value} (kind : t.kind = .struct)
      (fields : ∀ a ∈ t.flatFields keys [], Schema.Admits keys a.field.schema (a.slot fs).read) :
      Schema.Holds keys t (.struct fs)

end

variable {keys : TagKeys} {s t u : Schema}

theorem Schema.admits_any (x : Value) : Schema.Admits keys .any x :=
  .held (.scalar x rfl)

/-! ### The schemas of parts -/

theorem Schema.mem_types_item (h : t.item? = some u) : u ∈ t.types := by
  obtain ⟨shape, alias?, codec?, test⟩ := t
  cases shape <;> cases h <;> refine List.mem_cons_of_mem _ ?_
  case map key => exact List.mem_append_right _ u.mem_types_self
  all_goals exact u.mem_types_self

theorem Schema.mem_types_key (h : t.key? = some u) : u ∈ t.types := by
  obtain ⟨shape, alias?, codec?, test⟩ := t
  cases shape <;> cases h
  exact List.mem_cons_of_mem _ (List.mem_append_left _ u.mem_types_self)

/-- Lists have items. -/
theorem Schema.kind_of_item_eq_none (hkind : t.kind ∈ [.any, .slice, .array]) (h : t.item? = none) :
    t.kind = .any := by
  obtain ⟨shape, alias?, codec?, test⟩ := t
  cases shape <;> first | rfl | (simp [Schema.kind, Shape.kind] at hkind; done) | cases h

/-- Maps have keys and items. -/
theorem Schema.kind_of_key_eq_none (hkind : t.kind ∈ [.any, .map]) (h : t.key? = none ∨ t.item? = none) :
    t.kind = .any := by
  rcases List.mem_cons.1 hkind with hany | hmap
  · exact hany
  · obtain ⟨shape, alias?, codec?, test⟩ := t
    cases shape <;> first | cases List.mem_singleton.1 hmap
    rcases h with h | h <;> cases h

mutual

theorem Schema.mem_types_target : (s : Schema) → s.target ∈ s.types
  | ⟨shape, alias?, codec?, test⟩ => Shape.mem_types_target shape alias? codec? test

private theorem Shape.mem_types_target : (shape : Shape) → ∀ alias? codec? test,
    Schema.target ⟨shape, alias?, codec?, test⟩ ∈ Schema.types ⟨shape, alias?, codec?, test⟩
  | .pointer target => fun _ _ _ => List.mem_cons_of_mem _ (Schema.mem_types_target target)
  | .bool | .int _ | .uint _ | .float _ | .string | .slice _ | .array .. | .map .. | .struct _ | .any =>
    fun _ _ _ => List.mem_cons_self ..

end

mutual

/-- The schemas of the fields that are checked for themselves are among those of the parts. -/
theorem Schema.mem_types_of_flatFields (access : List String) : (s : Schema) → ∀ a ∈ s.flatFields keys access,
    a.field.schema ∈ s.types
  | ⟨shape, _, _, _⟩ => fun a ha => List.mem_cons_of_mem _ (Shape.mem_types_of_flatFields access shape a ha)

private theorem Shape.mem_types_of_flatFields (access : List String) :
    (shape : Shape) → ∀ a ∈ shape.flatFields keys access, a.field.schema ∈ shape.types
  | .struct fields => Field.mem_types_of_flatFields access fields
  | .pointer target => Schema.mem_types_of_flatFields access target
  | .bool | .int _ | .uint _ | .float _ | .string | .slice _ | .array .. | .map .. | .any => List.forall_mem_nil _

private theorem Field.mem_types_of_flatFields (access : List String) : (fields : List Field) →
    ∀ a ∈ Field.flatFields keys access fields, a.field.schema ∈ Field.types fields
  | [] => List.forall_mem_nil _
  | ⟨name, schema, tag, embedded⟩ :: rest => by
    intro a ha
    rw [Field.flatFields, List.mem_append] at ha
    rw [Field.types, List.mem_append]
    rcases ha with ha | ha
    · left
      split at ha
      · cases ha
      split at ha
      · exact Schema.mem_types_of_flatFields (access ++ [name]) schema a ha
      · obtain rfl := List.mem_singleton.1 ha
        exact schema.mem_types_self
    · exact .inr (Field.mem_types_of_flatFields access rest a ha)

end

/-! ### Empty values -/

/-- Without a test for zero of its own, a schema takes null for empty. -/
theorem Schema.deemsEmpty_null (h : s.zeroTest? = none) : s.deemsEmpty .null = true := by
  unfold Schema.deemsEmpty
  split
  · rfl
  · contradiction
  · rw [Schema.isZero, h]
    rfl

/-- A value in the shape of a schema without a codec, unless it is null, is in that of what the schema points at. -/
theorem Schema.Admits.holds {x : Value} (h : s.Admits keys x) (hx : x ≠ .null) (hcodec : s.codec? = none) :
    s.target.Holds keys x := by
  cases h with
  | null => exact absurd rfl hx
  | encoded _ codec => simp [hcodec] at codec
  | held held => exact held

/-! ### Kinds -/

private theorem Schema.kind_of_isScalar (h : t.shape.isScalar = true) : t.kind ∉ [.slice, .array, .map, .struct] := by
  obtain ⟨shape, alias?, codec?, test⟩ := t
  cases shape <;> first | (simp [Schema.kind, Shape.kind]; done) | cases h

theorem Schema.Holds.list_of_kind {x : Value} (h : t.Holds keys x) (hkind : t.kind ∈ [.slice, .array]) :
    ∃ vs, x = .list vs ∧ ∀ n, t.length? = some n → vs.length ≤ n := by
  cases h with
  | scalar _ scalar =>
    refine absurd ?_ (t.kind_of_isScalar scalar)
    exact List.Sublist.mem hkind (List.sublist_append_left [Kind.slice, .array] [.map, .struct])
  | list _ length _ => exact ⟨_, rfl, length⟩
  | map kind => simp [kind] at hkind
  | struct kind => simp [kind] at hkind

theorem Schema.Holds.entries_of_kind {x : Value} (h : t.Holds keys x) (hkind : t.kind = .map) :
    ∃ es, x.entries? = some es := by
  cases h with
  | scalar _ scalar => exact absurd (by simp [hkind]) (t.kind_of_isScalar scalar)
  | list kind => simp [hkind] at kind
  | map _ entries => exact ⟨_, entries⟩
  | struct => exact ⟨_, rfl⟩

theorem Schema.Holds.struct_of_kind {x : Value} (h : t.Holds keys x) (hkind : t.kind = .struct) :
    ∃ fs, x = .struct fs := by
  cases h with
  | scalar _ scalar => exact absurd (by simp [hkind]) (t.kind_of_isScalar scalar)
  | list kind => simp [hkind] at kind
  | map kind => cases hkind.symm.trans kind
  | struct => exact ⟨_, rfl⟩

/-! ### Parts -/

/-- The items of a list are in the shape of items. -/
theorem Schema.Holds.items {vs : List Value} (h : t.Holds keys (.list vs)) (hu : t.item? = some u) :
    ∀ y ∈ vs, u.Admits keys y := by
  cases h with
  | scalar _ scalar => cases (@Schema.parts_of_isScalar keys t scalar).1.symm.trans hu
  | list _ _ items => exact items u hu
  | map _ entries _ _ => cases entries

/-- The entries of a map are in the shape of keys and of items. -/
theorem Schema.Holds.entries {x : Value} {es : List (Value × Value)} (h : t.Holds keys x)
    (hkind : t.kind ∈ [.any, .map]) (hx : x.entries? = some es) :
    (∀ u, t.key? = some u → ∀ e ∈ es, u.Admits keys e.1) ∧ ∀ u, t.item? = some u → ∀ e ∈ es, u.Admits keys e.2 := by
  cases h with
  | scalar _ scalar =>
    obtain ⟨hitem, hkey, -⟩ := @Schema.parts_of_isScalar keys t scalar
    constructor
    · intro u hu
      cases hkey.symm.trans hu
    · intro u hu
      cases hitem.symm.trans hu
  | list => cases hx
  | map _ entries keys_admitted items_admitted =>
    obtain rfl := Option.some.inj (hx.symm.trans entries)
    exact ⟨keys_admitted, items_admitted⟩
  | struct kind _ => simp [kind] at hkind

/-- The fields of a struct are in the shapes of fields. -/
theorem Schema.Holds.fields {fs : Fields Value} (h : t.Holds keys (.struct fs)) :
    ∀ a ∈ t.flatFields keys [], a.field.schema.Admits keys (a.slot fs).read := by
  intro a ha
  cases h with
  | scalar _ scalar => cases ((@Schema.parts_of_isScalar keys t scalar).2.2 []).symm ▸ ha
  | map kind =>
    obtain ⟨shape, alias?, codec?, test⟩ := t
    cases shape <;> first | cases ha | cases kind
  | struct _ fields => exact fields a ha

end FieldRules
