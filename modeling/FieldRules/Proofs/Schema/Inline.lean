import FieldRules.Proofs.Schema.Fields
import Mathlib.Data.List.Forall2

/-!
# Declaring embedded fields in place

`Schema.inlined` declares the fields of chosen embedded structs of a struct in their place, as long as no codec hides
them. The fields that are checked for themselves stay the same and in order, only nearer: on the way to each one some
embedded fields are left out (`Schema.flatFields_inlined`).
-/

namespace FieldRules

mutual

/-- Whether there is no codec on a schema nor on the way to what its pointers lead to. -/
def Schema.isBare : Schema → Bool
  | ⟨shape, _, codec?, _⟩ => codec?.isNone && shape.isBare

/-- Whether there is no codec on the way to what pointers lead to. -/
def Shape.isBare : Shape → Bool
  | .pointer target => target.isBare
  | _ => true

end

/-- Whether the fields of an embedded struct are declared in its place: it is chosen, flattened, and has no codec. -/
def Field.isInlined (keys : TagKeys) (chosen : Field → Bool) (f : Field) : Bool :=
  chosen f && Field.isFlattened keys f && f.schema.isBare

mutual

/-- The fields of a struct, also behind pointers, with those of embedded structs in the place of these. -/
def Schema.inlinedFields (keys : TagKeys) (chosen : Field → Bool) : Schema → List Field
  | ⟨shape, _, _, _⟩ => shape.inlinedFields keys chosen

/-- The fields of a shape with those of embedded structs in the place of these. -/
def Shape.inlinedFields (keys : TagKeys) (chosen : Field → Bool) : Shape → List Field
  | .struct fields => Field.inlined keys chosen fields
  | .pointer target => target.inlinedFields keys chosen
  | _ => []

/-- Fields with those of embedded structs in the place of these. -/
def Field.inlined (keys : TagKeys) (chosen : Field → Bool) : List Field → List Field
  | [] => []
  | ⟨name, schema, tag, embedded⟩ :: rest =>
    (if Field.isInlined keys chosen ⟨name, schema, tag, embedded⟩ then schema.inlinedFields keys chosen
      else [⟨name, schema, tag, embedded⟩]) ++ Field.inlined keys chosen rest

end

/-- The struct with the fields of embedded structs declared in the place of these. -/
def Schema.inlined (keys : TagKeys) (chosen : Field → Bool) : Schema → Schema
  | ⟨.struct fields, alias?, codec?, test⟩ => ⟨.struct (Field.inlined keys chosen fields), alias?, codec?, test⟩
  | s => s

mutual

/-- The names of the embedded fields of a struct, also behind pointers, whose fields are declared in their place. -/
def Schema.inlinedNames (keys : TagKeys) (chosen : Field → Bool) : Schema → List String
  | ⟨shape, _, _, _⟩ => shape.inlinedNames keys chosen

/-- The names of the embedded fields of a shape whose fields are declared in their place. -/
def Shape.inlinedNames (keys : TagKeys) (chosen : Field → Bool) : Shape → List String
  | .struct fields => Field.inlinedNames keys chosen fields
  | .pointer target => target.inlinedNames keys chosen
  | _ => []

/-- The names of the embedded fields in a list whose fields are declared in their place. -/
def Field.inlinedNames (keys : TagKeys) (chosen : Field → Bool) : List Field → List String
  | [] => []
  | ⟨name, schema, tag, embedded⟩ :: rest =>
    (if Field.isInlined keys chosen ⟨name, schema, tag, embedded⟩ then name :: schema.inlinedNames keys chosen
      else []) ++ Field.inlinedNames keys chosen rest

end

/-- Whether two fields are the same one, the first one seen through more embedded fields, all with names from a
list. -/
def FieldAt.Through (names : List String) (a b : FieldAt) : Prop :=
  ∃ steps, (∀ n ∈ steps, n ∈ names) ∧ a = b.behind steps

variable {keys : TagKeys} {chosen : Field → Bool} {names access : List String}

private theorem FieldAt.through_map (hsteps : ∀ n ∈ access, n ∈ names) (fields : List FieldAt) :
    List.Forall₂ (FieldAt.Through names) (fields.map (FieldAt.behind access)) fields := by
  rw [List.forall₂_map_left_iff, List.forall₂_same]
  exact fun a _ => ⟨access, hsteps, rfl⟩

private theorem Field.not_isHidden_of_isFlattened {f : Field} (h : Field.isFlattened keys f = true) :
    Field.isHidden keys f.tag = false := by
  unfold Field.isFlattened at h
  simp only [Bool.and_eq_true] at h
  have hnone := Option.isNone_iff_eq_none.1 h.1.2
  rw [Field.isHidden, hnone]
  rfl

mutual

/-- The fields that are checked for themselves are those with embedded fields declared in place, in order. -/
private theorem Schema.flatFields_inlinedFields : (s : Schema) → (∀ n ∈ s.inlinedNames keys chosen, n ∈ names) →
    ∀ access, (∀ n ∈ access, n ∈ names) →
      List.Forall₂ (FieldAt.Through names) (s.flatFields keys access)
        (Field.flatFields keys [] (s.inlinedFields keys chosen))
  | ⟨shape, _, _, _⟩ => Shape.flatFields_inlinedFields shape

private theorem Shape.flatFields_inlinedFields : (shape : Shape) → (∀ n ∈ shape.inlinedNames keys chosen, n ∈ names) →
    ∀ access, (∀ n ∈ access, n ∈ names) →
      List.Forall₂ (FieldAt.Through names) (shape.flatFields keys access)
        (Field.flatFields keys [] (shape.inlinedFields keys chosen))
  | .struct fields => Field.flatFields_inlined fields
  | .pointer target => Schema.flatFields_inlinedFields target
  | .bool | .int _ | .uint _ | .float _ | .string | .slice _ | .array .. | .map .. | .any =>
    fun _ _ _ => List.Forall₂.nil

private theorem Field.flatFields_inlined :
    (fields : List Field) → (∀ n ∈ Field.inlinedNames keys chosen fields, n ∈ names) →
    ∀ access, (∀ n ∈ access, n ∈ names) →
      List.Forall₂ (FieldAt.Through names) (Field.flatFields keys access fields)
        (Field.flatFields keys [] (Field.inlined keys chosen fields))
  | [] => fun _ _ _ => List.Forall₂.nil
  | ⟨name, schema, tag, embedded⟩ :: rest => by
    intro hnames access haccess
    rw [Field.inlinedNames, List.forall_mem_append] at hnames
    have hrest := Field.flatFields_inlined rest hnames.2 access haccess
    rw [Field.flatFields, Field.inlined, Field.flatFields_append]
    refine List.rel_append ?_ hrest
    by_cases hinlined : Field.isInlined keys chosen ⟨name, schema, tag, embedded⟩ = true
    · obtain ⟨hchosen, -⟩ := (Bool.and_eq_true ..).mp hinlined
      obtain ⟨-, hflat⟩ := (Bool.and_eq_true ..).mp hchosen
      have hshown := Field.not_isHidden_of_isFlattened hflat
      simp only [hshown, hflat, hinlined, Bool.false_eq_true, if_true, if_false]
      simp only [hinlined, if_true, List.mem_cons, forall_eq_or_imp] at hnames
      refine Schema.flatFields_inlinedFields schema hnames.1.2 (access ++ [name]) ?_
      rw [List.forall_mem_append, List.forall_mem_singleton]
      exact ⟨haccess, hnames.1.1⟩
    · -- The field stays as it is, so it is the same one from nearby.
      have hsame : Field.flatFields keys access [⟨name, schema, tag, embedded⟩] =
          (Field.flatFields keys [] [⟨name, schema, tag, embedded⟩]).map (FieldAt.behind access) := by
        rw [← Field.flatFields_behind, List.append_nil]
      rw [Field.flatFields, Field.flatFields, List.append_nil] at hsame
      rw [if_neg hinlined, hsame]
      exact FieldAt.through_map haccess _

end

theorem Schema.flatFields_inlined (keys : TagKeys) (chosen : Field → Bool) (s : Schema) :
    List.Forall₂ (FieldAt.Through (s.inlinedNames keys chosen)) (s.flatFields keys [])
      ((s.inlined keys chosen).flatFields keys []) := by
  obtain ⟨shape, alias?, codec?, test⟩ := s
  cases shape with
  | struct fields => exact Field.flatFields_inlined fields (fun _ h => h) [] (List.forall_mem_nil _)
  | _ => exact List.forall₂_same.2 fun a _ => ⟨[], List.forall_mem_nil _, rfl⟩

end FieldRules
