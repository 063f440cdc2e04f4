import FieldRules.Proofs.Schema.Names

/-!
# The fields of a struct

`flatFields` lists the fields of a struct that are checked for themselves: hidden ones are left out, and an
embedded one that is flattened has its own fields in its place. Each comes with the embedded fields on the way to
it, so a field that is found in an embedded struct is the same one as before, further away
(`Schema.flatFields_append`).
-/

namespace FieldRules

/-- A field of a struct, or of one that is flattened into it, and the embedded fields on the way to it. -/
structure FieldAt where
  access : List String
  field : Field

namespace FieldAt

/-- The same field, seen through more embedded ones. -/
def behind (steps : List String) (a : FieldAt) : FieldAt :=
  { a with access := steps ++ a.access }

/-- Where the field is looked up. -/
def spot (a : FieldAt) : List String × String :=
  (a.access, a.field.name)

/-- The name under which the field is reported. -/
def label (keys : TagKeys) (a : FieldAt) : String :=
  (a.field.tag.get? keys.name).getD a.field.name

end FieldAt

mutual

/-- The fields of a struct, also behind pointers, that are checked for themselves. -/
def Schema.flatFields (keys : TagKeys) (access : List String) : Schema → List FieldAt
  | ⟨shape, _, _, _⟩ => shape.flatFields keys access

/-- The fields of a shape that are checked for themselves. -/
def Shape.flatFields (keys : TagKeys) (access : List String) : Shape → List FieldAt
  | .struct fields => Field.flatFields keys access fields
  | .pointer target => target.flatFields keys access
  | _ => []

/-- The fields in a list that are checked for themselves. -/
def Field.flatFields (keys : TagKeys) (access : List String) : List Field → List FieldAt
  | [] => []
  | ⟨name, schema, tag, embedded⟩ :: rest =>
    (if Field.isHidden keys tag then []
      else if Field.isFlattened keys ⟨name, schema, tag, embedded⟩ then schema.flatFields keys (access ++ [name])
      else [⟨access, ⟨name, schema, tag, embedded⟩⟩]) ++ Field.flatFields keys access rest

end

variable {keys : TagKeys}

theorem Field.flatFields_cons_flattened {access : List String} {f : Field} {rest : List Field}
    (h : Field.isHidden keys f.tag = false ∧ Field.isFlattened keys f = true) :
    Field.flatFields keys access (f :: rest) =
      f.schema.flatFields keys (access ++ [f.name]) ++ Field.flatFields keys access rest := by
  cases f
  simp only [Field.flatFields, h, Bool.false_eq_true, ↓reduceIte]

theorem Field.flatFields_cons_checked {access : List String} {f : Field} {rest : List Field}
    (h : Field.isHidden keys f.tag = false ∧ Field.isFlattened keys f = false) :
    Field.flatFields keys access (f :: rest) = ⟨access, f⟩ :: Field.flatFields keys access rest := by
  cases f
  simp only [Field.flatFields, h, Bool.false_eq_true, ↓reduceIte, List.singleton_append]

theorem Field.flatFields_append (access : List String) (fs gs : List Field) :
    Field.flatFields keys access (fs ++ gs) = Field.flatFields keys access fs ++ Field.flatFields keys access gs := by
  induction fs with
  | nil => rfl
  | cons f fs ih =>
    cases f
    simp only [List.cons_append, Field.flatFields, ih, List.append_assoc]

mutual

/-- From further away, the same fields are seen. -/
private theorem Schema.flatFields_behind (steps access : List String) : (s : Schema) →
    s.flatFields keys (steps ++ access) = (s.flatFields keys access).map (FieldAt.behind steps)
  | ⟨shape, _, _, _⟩ => Shape.flatFields_behind steps access shape

private theorem Shape.flatFields_behind (steps access : List String) : (shape : Shape) →
    shape.flatFields keys (steps ++ access) = (shape.flatFields keys access).map (FieldAt.behind steps)
  | .struct fields => Field.flatFields_behind steps access fields
  | .pointer target => Schema.flatFields_behind steps access target
  | .bool | .int _ | .uint _ | .float _ | .string | .slice _ | .array .. | .map .. | .any => rfl

theorem Field.flatFields_behind (steps access : List String) : (fields : List Field) →
    Field.flatFields keys (steps ++ access) fields = (Field.flatFields keys access fields).map (FieldAt.behind steps)
  | [] => rfl
  | ⟨name, schema, tag, embedded⟩ :: rest => by
    have hschema := Schema.flatFields_behind steps (access ++ [name]) schema
    rw [Field.flatFields, Field.flatFields, List.map_append, Field.flatFields_behind steps access rest,
      List.append_assoc, hschema]
    congr 1
    split
    · rfl
    · split <;> rfl

end

mutual

/-- The fields that are checked for themselves are found at the spots of the struct. -/
theorem Schema.flatFields_spots (access : List String) : (s : Schema) →
    ((s.flatFields keys access).map FieldAt.spot).Sublist (s.spots keys access)
  | ⟨shape, _, _, _⟩ => Shape.flatFields_spots access shape

private theorem Shape.flatFields_spots (access : List String) : (shape : Shape) →
    ((shape.flatFields keys access).map FieldAt.spot).Sublist (shape.spots keys access)
  | .struct fields => Field.flatFields_spots access fields
  | .pointer target => Schema.flatFields_spots access target
  | .bool | .int _ | .uint _ | .float _ | .string | .slice _ | .array .. | .map .. | .any => List.Sublist.refl _

private theorem Field.flatFields_spots (access : List String) : (fields : List Field) →
    ((Field.flatFields keys access fields).map FieldAt.spot).Sublist (Field.spots keys access fields)
  | [] => List.Sublist.refl _
  | ⟨name, schema, tag, embedded⟩ :: rest => by
    rw [Field.flatFields, Field.spots, List.map_append]
    refine List.Sublist.append ?_ (Field.flatFields_spots access rest)
    by_cases hhidden : Field.isHidden keys tag = true
    · rw [if_pos hhidden]
      exact List.nil_sublist _
    · rw [if_neg hhidden]
      by_cases hflat : Field.isFlattened keys ⟨name, schema, tag, embedded⟩ = true
      · rw [if_pos hflat, if_pos hflat]
        exact Schema.flatFields_spots (access ++ [name]) schema
      · rw [if_neg hflat, if_neg hflat]
        exact List.Sublist.refl _

end

/-! ### Emptiness -/

/-- Whether a value counts as empty for a schema: for pointers only null, else what is zero. -/
def Schema.deemsEmpty (s : Schema) (x : Value) : Bool :=
  match s.kind, x with
  | .pointer, .null => true
  | .pointer, _ => false
  | _, x => s.isZero x

end FieldRules
