import FieldRules.Compiler.Compile

/-!
# The names of a struct

The fields of an embedded struct that no tag sets apart are checked as fields of the struct around it.
`flatNames` lists the names of a struct with those of the structs that are flattened into it, and `spots` says
where the checks of its fields look: through which embedded fields, and at which name. When the names are
pairwise different, no check looks at a field that lies on the way of another one (`Schema.pairwise_spots`).
-/

namespace FieldRules

mutual

/-- A schema and the schemas of its parts. -/
def Schema.types : Schema → List Schema
  | ⟨shape, alias?, codec?, test⟩ => ⟨shape, alias?, codec?, test⟩ :: shape.types

/-- The schemas of the parts of a shape. -/
def Shape.types : Shape → List Schema
  | .slice item | .array item _ => item.types
  | .map key item => key.types ++ item.types
  | .struct fields => Field.types fields
  | .pointer target => target.types
  | _ => []

/-- The schemas of fields and of their parts. -/
def Field.types : List Field → List Schema
  | [] => []
  | ⟨_, schema, _, _⟩ :: rest => schema.types ++ Field.types rest

end

mutual

/-- The names of the fields of a struct, also behind pointers, and of the structs that are flattened into it. -/
def Schema.flatNames (keys : TagKeys) : Schema → List String
  | ⟨shape, _, _, _⟩ => shape.flatNames keys

/-- The names of the fields of a shape. -/
def Shape.flatNames (keys : TagKeys) : Shape → List String
  | .struct fields => Field.flatNames keys fields
  | .pointer target => target.flatNames keys
  | _ => []

/-- The names of fields, an embedded one that is flattened with the names that it embeds. -/
def Field.flatNames (keys : TagKeys) : List Field → List String
  | [] => []
  | ⟨name, schema, tag, embedded⟩ :: rest =>
    name :: ((if Field.isFlattened keys ⟨name, schema, tag, embedded⟩ then schema.flatNames keys else []) ++
      Field.flatNames keys rest)

end

mutual

/-- Where the checks of the fields of a struct look, reached through the given embedded fields. -/
def Schema.spots (keys : TagKeys) (access : List String) : Schema → List (List String × String)
  | ⟨shape, _, _, _⟩ => shape.spots keys access

/-- Where the checks of the fields of a shape look. -/
def Shape.spots (keys : TagKeys) (access : List String) : Shape → List (List String × String)
  | .struct fields => Field.spots keys access fields
  | .pointer target => target.spots keys access
  | _ => []

/-- Where the checks of fields look. -/
def Field.spots (keys : TagKeys) (access : List String) : List Field → List (List String × String)
  | [] => []
  | ⟨name, schema, tag, embedded⟩ :: rest =>
    (if Field.isFlattened keys ⟨name, schema, tag, embedded⟩ then schema.spots keys (access ++ [name])
      else [(access, name)]) ++ Field.spots keys access rest

end

/-- Whether the names of a struct and of the structs that are flattened into it are pairwise different. -/
def Schema.NamesApart (keys : TagKeys) (s : Schema) : Prop :=
  (s.flatNames keys).Nodup

instance (keys : TagKeys) (s : Schema) : Decidable (s.NamesApart keys) :=
  inferInstanceAs (Decidable (List.Nodup _))

/-- Whether the names are pairwise different in each struct that a schema consists of. -/
def Schema.TypesApart (keys : TagKeys) (s : Schema) : Prop :=
  ∀ t ∈ s.types, t.NamesApart keys

instance (keys : TagKeys) (s : Schema) : Decidable (s.TypesApart keys) :=
  inferInstanceAs (Decidable (∀ _ ∈ _, _))

/-- Whether two spots are of different fields, neither of which lies on the way to the other. -/
def SpotsApart (p q : List String × String) : Prop :=
  p.2 ≠ q.2 ∧ p.2 ∉ q.1 ∧ q.2 ∉ p.1

mutual

/-- A spot has its name, and the fields on the way to it, among the names of the struct. -/
theorem Schema.mem_spots (keys : TagKeys) (access : List String) : (s : Schema) → ∀ p ∈ s.spots keys access,
    p.2 ∈ s.flatNames keys ∧ ∀ n ∈ p.1, n ∈ access ∨ n ∈ s.flatNames keys
  | ⟨shape, _, _, _⟩ => Shape.mem_spots keys access shape

private theorem Shape.mem_spots (keys : TagKeys) (access : List String) : (shape : Shape) →
    ∀ p ∈ shape.spots keys access, p.2 ∈ shape.flatNames keys ∧ ∀ n ∈ p.1, n ∈ access ∨ n ∈ shape.flatNames keys
  | .struct fields => Field.mem_spots keys access fields
  | .pointer target => Schema.mem_spots keys access target
  | .bool | .int _ | .uint _ | .float _ | .string | .slice _ | .array .. | .map .. | .any =>
    List.forall_mem_nil _

private theorem Field.mem_spots (keys : TagKeys) (access : List String) : (fields : List Field) →
    ∀ p ∈ Field.spots keys access fields,
      p.2 ∈ Field.flatNames keys fields ∧ ∀ n ∈ p.1, n ∈ access ∨ n ∈ Field.flatNames keys fields
  | [] => List.forall_mem_nil _
  | ⟨name, schema, tag, embedded⟩ :: rest => by
    intro p hp
    rw [Field.spots, List.mem_append] at hp
    rw [Field.flatNames]
    rcases hp with hp | hp
    · by_cases hflat : Field.isFlattened keys ⟨name, schema, tag, embedded⟩ = true
      · rw [if_pos hflat] at hp ⊢
        obtain ⟨hname, hway⟩ := Schema.mem_spots keys (access ++ [name]) schema p hp
        refine ⟨by simp [hname], fun n hn => ?_⟩
        rcases hway n hn with h | h
        · rcases List.mem_append.1 h with h | h
          · exact .inl h
          · exact .inr (by simp [List.mem_singleton.1 h])
        · exact .inr (by simp [h])
      · rw [if_neg hflat] at hp ⊢
        obtain rfl := List.mem_singleton.1 hp
        exact ⟨List.mem_cons_self .., fun n hn => .inl hn⟩
    · obtain ⟨hname, hway⟩ := Field.mem_spots keys access rest p hp
      refine ⟨by simp [hname], fun n hn => ?_⟩
      rcases hway n hn with h | h
      · exact .inl h
      · exact .inr (by simp [h])

end

mutual

/-- When the names of a struct are pairwise different, so that no name comes again on a way, its spots are
apart. -/
theorem Schema.pairwise_spots (keys : TagKeys) (access : List String) : (s : Schema) →
    (s.flatNames keys).Nodup → (∀ n ∈ access, n ∉ s.flatNames keys) →
      (s.spots keys access).Pairwise SpotsApart
  | ⟨shape, _, _, _⟩ => Shape.pairwise_spots keys access shape

private theorem Shape.pairwise_spots (keys : TagKeys) (access : List String) : (shape : Shape) →
    (shape.flatNames keys).Nodup → (∀ n ∈ access, n ∉ shape.flatNames keys) →
      (shape.spots keys access).Pairwise SpotsApart
  | .struct fields => Field.pairwise_spots keys access fields
  | .pointer target => Schema.pairwise_spots keys access target
  | .bool | .int _ | .uint _ | .float _ | .string | .slice _ | .array .. | .map .. | .any =>
    fun _ _ => List.Pairwise.nil

private theorem Field.pairwise_spots (keys : TagKeys) (access : List String) : (fields : List Field) →
    (Field.flatNames keys fields).Nodup → (∀ n ∈ access, n ∉ Field.flatNames keys fields) →
      (Field.spots keys access fields).Pairwise SpotsApart
  | [] => fun _ _ => List.Pairwise.nil
  | ⟨name, schema, tag, embedded⟩ :: rest => by
    intro hnodup haccess
    rw [Field.flatNames] at hnodup haccess
    rw [Field.spots]
    simp only [List.nodup_cons, List.nodup_append, List.mem_cons, List.mem_append, not_or] at hnodup haccess
    obtain ⟨⟨hnameInner, hnameRest⟩, hinner, hrest, hdisjoint⟩ := hnodup
    have hrestSpots := Field.pairwise_spots keys access rest hrest fun n hn => (haccess n hn).2.2
    by_cases hflat : Field.isFlattened keys ⟨name, schema, tag, embedded⟩ = true
    · rw [if_pos hflat] at hnameInner hinner hdisjoint ⊢
      simp only [hflat, if_true] at haccess
      refine List.pairwise_append.2 ⟨?_, hrestSpots, ?_⟩
      · refine Schema.pairwise_spots keys (access ++ [name]) schema hinner fun n hn => ?_
        rcases List.mem_append.1 hn with hn | hn
        · exact (haccess n hn).2.1
        · exact List.mem_singleton.1 hn ▸ hnameInner
      · -- A spot in the embedded struct and one behind it: neither name occurs on the side of the other.
        intro p hp q hq
        obtain ⟨hpName, hpWay⟩ := Schema.mem_spots keys (access ++ [name]) schema p hp
        obtain ⟨hqName, hqWay⟩ := Field.mem_spots keys access rest q hq
        refine ⟨hdisjoint p.2 hpName q.2 hqName, fun h => ?_, fun h => ?_⟩
        · rcases hqWay p.2 h with h | h
          · exact (haccess p.2 h).2.1 hpName
          · exact hdisjoint p.2 hpName p.2 h rfl
        · rcases hpWay q.2 h with h | h
          · rcases List.mem_append.1 h with h | h
            · exact (haccess q.2 h).2.2 hqName
            · exact hnameRest (List.mem_singleton.1 h ▸ hqName)
          · exact hdisjoint q.2 h q.2 hqName rfl
    · rw [if_neg hflat]
      refine List.pairwise_append.2 ⟨List.pairwise_singleton .., hrestSpots, ?_⟩
      intro p hp q hq
      obtain rfl := List.mem_singleton.1 hp
      obtain ⟨hqName, hqWay⟩ := Field.mem_spots keys access rest q hq
      refine ⟨fun (h : name = q.2) => hnameRest (h ▸ hqName), fun h => ?_, fun h => (haccess q.2 h).2.2 hqName⟩
      rcases hqWay name h with h | h
      · exact (haccess name h).1 rfl
      · exact hnameRest h

end

theorem Schema.NamesApart.pairwise_spots {keys : TagKeys} {s : Schema} (h : s.NamesApart keys) :
    (s.spots keys []).Pairwise SpotsApart :=
  s.pairwise_spots keys [] h (List.forall_mem_nil _)

mutual

/-- When the names of a struct are pairwise different, so that no name comes again on a way, no spot lies on the way
to itself. -/
private theorem Schema.notMem_access (keys : TagKeys) (access : List String) : (s : Schema) →
    (s.flatNames keys).Nodup → (∀ n ∈ access, n ∉ s.flatNames keys) → ∀ p ∈ s.spots keys access, p.2 ∉ p.1
  | ⟨shape, _, _, _⟩ => Shape.notMem_access keys access shape

private theorem Shape.notMem_access (keys : TagKeys) (access : List String) : (shape : Shape) →
    (shape.flatNames keys).Nodup → (∀ n ∈ access, n ∉ shape.flatNames keys) →
      ∀ p ∈ shape.spots keys access, p.2 ∉ p.1
  | .struct fields => Field.notMem_access keys access fields
  | .pointer target => Schema.notMem_access keys access target
  | .bool | .int _ | .uint _ | .float _ | .string | .slice _ | .array .. | .map .. | .any =>
    fun _ _ => List.forall_mem_nil _

private theorem Field.notMem_access (keys : TagKeys) (access : List String) : (fields : List Field) →
    (Field.flatNames keys fields).Nodup → (∀ n ∈ access, n ∉ Field.flatNames keys fields) →
      ∀ p ∈ Field.spots keys access fields, p.2 ∉ p.1
  | [] => fun _ _ => List.forall_mem_nil _
  | ⟨name, schema, tag, embedded⟩ :: rest => by
    intro hnodup haccess
    rw [Field.flatNames] at hnodup haccess
    rw [Field.spots]
    simp only [List.nodup_cons, List.nodup_append, List.mem_cons, List.mem_append, not_or] at hnodup haccess
    obtain ⟨⟨hnameInner, -⟩, hinner, hrest, -⟩ := hnodup
    refine List.forall_mem_append.2 ⟨?_, Field.notMem_access keys access rest hrest fun n hn => (haccess n hn).2.2⟩
    by_cases hflat : Field.isFlattened keys ⟨name, schema, tag, embedded⟩ = true
    · rw [if_pos hflat] at hnameInner hinner ⊢
      simp only [hflat, if_true] at haccess
      refine Schema.notMem_access keys (access ++ [name]) schema hinner fun n hn => ?_
      rcases List.mem_append.1 hn with hn | hn
      · exact (haccess n hn).2.1
      · exact List.mem_singleton.1 hn ▸ hnameInner
    · rw [if_neg hflat]
      exact List.forall_mem_singleton.2 fun h => (haccess name h).1 rfl

end

theorem Schema.NamesApart.notMem_access {keys : TagKeys} {s : Schema} (h : s.NamesApart keys) :
    ∀ p ∈ s.spots keys [], p.2 ∉ p.1 :=
  s.notMem_access keys [] h (List.forall_mem_nil _)

/-! ### The parts of parts -/

theorem Schema.mem_types_self (s : Schema) : s ∈ s.types := by
  cases s
  exact List.mem_cons_self ..

theorem Schema.mem_types_of_shape {s t : Schema} (h : t ∈ s.shape.types) : t ∈ s.types := by
  cases s
  exact List.mem_cons_of_mem _ h

mutual

theorem Schema.mem_types_trans : (s : Schema) → ∀ t ∈ s.types, ∀ u ∈ t.types, u ∈ s.types
  | ⟨shape, alias?, codec?, test⟩ => by
    intro t ht u hu
    rcases List.mem_cons.1 ht with rfl | ht
    · exact hu
    · exact List.mem_cons_of_mem _ (Shape.mem_types_trans shape t ht u hu)

private theorem Shape.mem_types_trans : (shape : Shape) → ∀ t ∈ shape.types, ∀ u ∈ t.types, u ∈ shape.types
  | .slice item | .array item _ => Schema.mem_types_trans item
  | .map key item => by
    intro t ht u hu
    rcases List.mem_append.1 ht with ht | ht
    · exact List.mem_append_left _ (Schema.mem_types_trans key t ht u hu)
    · exact List.mem_append_right _ (Schema.mem_types_trans item t ht u hu)
  | .struct fields => Field.mem_types_trans fields
  | .pointer target => Schema.mem_types_trans target
  | .bool | .int _ | .uint _ | .float _ | .string | .any => List.forall_mem_nil _

private theorem Field.mem_types_trans : (fields : List Field) → ∀ t ∈ Field.types fields, ∀ u ∈ t.types,
    u ∈ Field.types fields
  | [] => List.forall_mem_nil _
  | ⟨name, schema, tag, embedded⟩ :: rest => by
    intro t ht u hu
    rw [Field.types] at ht ⊢
    rcases List.mem_append.1 ht with ht | ht
    · exact List.mem_append_left _ (Schema.mem_types_trans schema t ht u hu)
    · exact List.mem_append_right _ (Field.mem_types_trans rest t ht u hu)

end

end FieldRules
