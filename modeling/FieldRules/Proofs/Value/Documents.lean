import FieldRules.Proofs.Value.Same
import FieldRules.Value.Json
import Mathlib.Data.List.Induction

/-!
# Values and documents

Values are written as documents that can be held: integers of 64 bits, finite numbers, fields in the order of their
names (`Json.WellFormed`). Such a document is what its value is written as. So writing a value and reading the
document takes from it what documents cannot say, and what is left are the values that read so again
(`Value.toJson_ofJson_inverse`).
-/

namespace FieldRules

namespace Json

/-- The documents that can be held: integers have 64 bits, with a sign or without one, numbers are finite, and the
names of fields rise. -/
inductive WellFormed : Json → Prop
  | null : WellFormed .null
  | bool (b : Bool) : WellFormed (.bool b)
  | integer {n : Int} (least : Width.minSigned 64 ≤ n) (greatest : n ≤ Width.maxUnsigned 64) : WellFormed (.integer n)
  | float {x : Float} (finite : Decimal.isFinite x = true) : WellFormed (.float x)
  | string (s : String) : WellFormed (.string s)
  | array {items : List Json} (formed : ∀ j ∈ items, j.WellFormed) : WellFormed (.array items)
  | object {fields : List (String × Json)} (sorted : Sorted fields) (formed : ∀ f ∈ fields, f.2.WellFormed) :
      WellFormed (.object fields)

private theorem insertField_of_lt {name : String} {v : Json} {fields : List (String × Json)}
    (h : ∀ f ∈ fields, f.1 < name) : insertField name v fields = fields ++ [(name, v)] := by
  induction fields with
  | nil => rfl
  | cons f rest ih =>
    obtain ⟨hf, hrest⟩ := List.forall_mem_cons.1 h
    have hne : f.1 ≠ name := fun he => String.lt_irrefl name (he ▸ hf)
    simp only [insertField, if_neg (String.lt_asymm hf), if_neg hne, ih hrest, List.cons_append]

/-- Sorted fields stay as they are. -/
private theorem ofFields_of_sorted {fields : List (String × Json)} (h : Sorted fields) :
    ofFields fields = fields := by
  induction fields using List.reverseRecOn with
  | nil => rfl
  | append_singleton fields f ih =>
    rw [Sorted, List.map_append, List.pairwise_append] at h
    obtain ⟨hfields, -, hlast⟩ := h
    have hlt : ∀ g ∈ fields, g.1 < f.1 := fun g hg => hlast _ (List.mem_map_of_mem hg) _ (List.mem_singleton_self _)
    have hstep : ofFields (fields ++ [f]) = insertField f.1 f.2 (ofFields fields) := by simp [ofFields]
    rw [hstep, ih hfields, insertField_of_lt hlt]

private theorem mem_ofFields {fields : List (String × Json)} {f : String × Json} (h : f ∈ ofFields fields) :
    f ∈ fields := by
  induction fields using List.reverseRecOn with
  | nil => exact h
  | append_singleton fields g ih =>
    have hstep : ofFields (fields ++ [g]) = insertField g.1 g.2 (ofFields fields) := by simp [ofFields]
    rw [hstep] at h
    rcases mem_insertField h with rfl | h
    · exact List.mem_append_right _ (List.mem_singleton_self _)
    · exact List.mem_append_left _ (ih h)

end Json

namespace Value

/-- The values that say no more than documents: there are no maps, numbers are finite, an integer is unsigned only if
it does not fit 64 bits with a sign, and the names of fields rise. -/
inductive IsDocument : Value → Prop
  | null : IsDocument .null
  | bool (b : Bool) : IsDocument (.bool b)
  | int (n : Int64) : IsDocument (.int n)
  | uint {n : UInt64} (large : Width.maxSigned 64 < n.toNat) : IsDocument (.uint n)
  | float {x : Float} (finite : Decimal.isFinite x = true) : IsDocument (.float x)
  | string (s : String) : IsDocument (.string s)
  | list {items : List Value} (plain : ∀ v ∈ items, v.IsDocument) : IsDocument (.list items)
  | struct {fields : List (String × Value)} (sorted : (fields.map (·.1)).Pairwise (· < ·))
      (plain : ∀ f ∈ fields, f.2.IsDocument) : IsDocument (.struct fields)

/-- What is left of a value when it is written as a document and read again. -/
def viaJson (v : Value) : Value :=
  ofJson v.toJson

/-! ### Parts -/

/-- A list whose members are all left as they are is left as it is. -/
private theorem map_of_fixed {α : Type} {f : α → α} {xs : List α} (h : ∀ x ∈ xs, f x = x) : xs.map f = xs := by
  rw [List.map_congr_left h, List.map_id']

private theorem itemsToJson_eq (items : List Value) : itemsToJson items = items.map toJson := by
  induction items with
  | nil => rfl
  | cons v vs ih => rw [itemsToJson, ih, List.map_cons]

private theorem entriesToJson_eq (entries : List (Value × Value)) :
    entriesToJson entries = entries.map fun e => (e.1.toString, e.2.toJson) := by
  induction entries with
  | nil => rfl
  | cons e es ih => rw [entriesToJson, ih, List.map_cons]; rfl

private theorem fieldsToJson_eq (fields : List (String × Value)) :
    fieldsToJson fields = fields.map fun f => (f.1, f.2.toJson) := by
  induction fields with
  | nil => rfl
  | cons f fs ih => rw [fieldsToJson, ih, List.map_cons]

private theorem itemsOfJson_eq (items : List Json) : itemsOfJson items = items.map ofJson := by
  induction items with
  | nil => rfl
  | cons v vs ih => rw [itemsOfJson, ih, List.map_cons]

private theorem fieldsOfJson_eq (fields : List (String × Json)) :
    fieldsOfJson fields = fields.map fun f => (f.1, ofJson f.2) := by
  induction fields with
  | nil => rfl
  | cons f fs ih => rw [fieldsOfJson, ih, List.map_cons]

/-! ### Integers -/

private theorem ofInteger_of_le {n : Int} (h : n ≤ Width.maxSigned 64) : ofInteger n = .int (Int64.ofInt n) :=
  if_pos h

private theorem ofInteger_of_lt {n : Int} (h : Width.maxSigned 64 < n) : ofInteger n = .uint (UInt64.ofNat n.toNat) :=
  if_neg (by omega)

/-- An integer of 64 bits is written as it is read. -/
private theorem toJson_ofInteger {n : Int} (hleast : Width.minSigned 64 ≤ n) (hgreatest : n ≤ Width.maxUnsigned 64) :
    (ofInteger n).toJson = .integer n := by
  have hleast : -2 ^ 63 ≤ n := hleast
  have hgreatest : n ≤ 2 ^ 64 - 1 := hgreatest
  by_cases hsigned : n ≤ 2 ^ 63 - 1
  · rw [ofInteger_of_le hsigned, toJson, Int64.toInt_ofInt_of_le hleast (by omega)]
  · rw [ofInteger_of_lt (show (2 : Int) ^ 63 - 1 < n by omega), toJson,
      UInt64.toNat_ofNat_of_lt' (show n.toNat < 2 ^ 64 by omega), Int.toNat_of_nonneg (by omega)]

private theorem isDocument_ofInteger {n : Int} (hgreatest : n ≤ Width.maxUnsigned 64) : (ofInteger n).IsDocument := by
  have hgreatest : n ≤ 2 ^ 64 - 1 := hgreatest
  by_cases hsigned : n ≤ 2 ^ 63 - 1
  · rw [ofInteger_of_le hsigned]
    exact .int _
  · rw [ofInteger_of_lt (show (2 : Int) ^ 63 - 1 < n by omega)]
    refine .uint ?_
    rw [UInt64.toNat_ofNat_of_lt' (show n.toNat < 2 ^ 64 by omega), Int.toNat_of_nonneg (by omega)]
    exact show (2 : Int) ^ 63 - 1 < n by omega

/-! ### Documents and values -/

private theorem sorted_map_iff {fields : List (String × Value)} :
    Json.Sorted (fields.map fun f => (f.1, f.2.toJson)) ↔ (fields.map (·.1)).Pairwise (· < ·) := by
  rw [Json.Sorted, List.map_map]
  rfl

/-- A document that can be held is what its value is written as. -/
theorem toJson_ofJson {j : Json} (h : j.WellFormed) : (ofJson j).toJson = j := by
  induction h with
  | null | bool | string => rfl
  | integer hleast hgreatest => exact toJson_ofInteger hleast hgreatest
  | float hfinite => rw [ofJson, toJson, if_pos hfinite]
  | array _ ih =>
    rw [ofJson, toJson, itemsOfJson_eq, itemsToJson_eq, List.map_map]
    exact congrArg Json.array (map_of_fixed ih)
  | @object fields hsorted _ ih =>
    have hfields : fieldsToJson (fieldsOfJson fields) = fields := by
      rw [fieldsOfJson_eq, fieldsToJson_eq, List.map_map]
      exact map_of_fixed fun f hf => Prod.ext rfl (ih f hf)
    rw [ofJson, toJson, hfields, Json.ofFields_of_sorted hsorted]

private theorem isDocument_ofJson {j : Json} (h : j.WellFormed) : (ofJson j).IsDocument := by
  induction h with
  | null => exact .null
  | bool b => exact .bool b
  | string s => exact .string s
  | integer _ hgreatest => exact isDocument_ofInteger hgreatest
  | float hfinite => exact .float hfinite
  | array _ ih =>
    rw [ofJson, itemsOfJson_eq]
    exact .list (List.forall_mem_map.2 ih)
  | object hsorted _ ih =>
    rw [ofJson, fieldsOfJson_eq]
    refine .struct ?_ (List.forall_mem_map.2 ih)
    rw [List.map_map]
    exact hsorted

/-- A value that says no more than a document is what its document is read as. -/
theorem ofJson_toJson {v : Value} (h : v.IsDocument) : ofJson v.toJson = v := by
  induction h with
  | null | bool | string => rfl
  | int n =>
    have hgreatest : n.toInt ≤ 2 ^ 63 - 1 := Int.le_sub_one_of_lt n.toInt_lt
    rw [toJson, ofJson, ofInteger_of_le hgreatest, Int64.ofInt_toInt]
  | uint hlarge => rw [toJson, ofJson, ofInteger_of_lt hlarge, Int.toNat_natCast, UInt64.ofNat_toNat]
  | float hfinite => rw [toJson, if_pos hfinite, ofJson]
  | list _ ih =>
    rw [toJson, ofJson, itemsToJson_eq, itemsOfJson_eq, List.map_map]
    exact congrArg Value.list (map_of_fixed ih)
  | struct hsorted _ ih =>
    rw [toJson, ofJson, fieldsToJson_eq, Json.ofFields_of_sorted (sorted_map_iff.2 hsorted), fieldsOfJson_eq,
      List.map_map]
    exact congrArg Value.struct (map_of_fixed fun f hf => Prod.ext rfl (ih f hf))

private theorem wellFormed_object {fields : List (String × Json)} (h : ∀ f ∈ fields, f.2.WellFormed) :
    (Json.object (Json.ofFields fields)).WellFormed :=
  .object (Json.sorted_ofFields fields) fun f hf => h f (Json.mem_ofFields hf)

mutual

/-- Whatever a value is, its document can be held. -/
theorem wellFormed_toJson : (v : Value) → v.toJson.WellFormed
  | .null => .null
  | .bool b => .bool b
  | .int n => .integer n.le_toInt (by have := n.toInt_lt; exact show n.toInt ≤ 2 ^ 64 - 1 by omega)
  | .uint n => .integer (by exact show -2 ^ 63 ≤ (n.toNat : Int) by omega)
      (by have := n.toNat_lt; exact show (n.toNat : Int) ≤ 2 ^ 64 - 1 by omega)
  | .float x => by
    rw [toJson]
    split
    next hfinite => exact .float hfinite
    next => exact .null
  | .string s => .string s
  | .list items => .array (itemsToJson_eq items ▸ List.forall_mem_map.2 (wellFormed_items items))
  | .map entries => wellFormed_object (entriesToJson_eq entries ▸ List.forall_mem_map.2 (wellFormed_entries entries))
  | .struct fields => wellFormed_object (fieldsToJson_eq fields ▸ List.forall_mem_map.2 (wellFormed_fields fields))

private theorem wellFormed_items : (items : List Value) → ∀ v ∈ items, v.toJson.WellFormed
  | [] => List.forall_mem_nil _
  | v :: vs => List.forall_mem_cons.2 ⟨wellFormed_toJson v, wellFormed_items vs⟩

private theorem wellFormed_entries : (entries : List (Value × Value)) → ∀ e ∈ entries, e.2.toJson.WellFormed
  | [] => List.forall_mem_nil _
  | (_, v) :: es => List.forall_mem_cons.2 ⟨wellFormed_toJson v, wellFormed_entries es⟩

private theorem wellFormed_fields : (fields : List (String × Value)) → ∀ f ∈ fields, f.2.toJson.WellFormed
  | [] => List.forall_mem_nil _
  | (_, v) :: fs => List.forall_mem_cons.2 ⟨wellFormed_toJson v, wellFormed_fields fs⟩

end

private theorem isDocument_viaJson (v : Value) : v.viaJson.IsDocument :=
  isDocument_ofJson (wellFormed_toJson v)

/-- Reading a document and writing its value changes nothing. Writing any value and reading the document leaves a
value that says no more than a document; doing it again changes nothing, and such values are all that it does not
change. -/
theorem toJson_ofJson_inverse :
    (∀ j : Json, j.WellFormed → (ofJson j).toJson = j) ∧
      ∀ v : Value, v.viaJson.viaJson = v.viaJson ∧ v.viaJson.IsDocument ∧ (v.viaJson = v ↔ v.IsDocument) := by
  refine ⟨fun j h => toJson_ofJson h, fun v => ⟨ofJson_toJson v.isDocument_viaJson, v.isDocument_viaJson, ?_⟩⟩
  exact ⟨fun h => h ▸ v.isDocument_viaJson, ofJson_toJson⟩

/-- The integers at both ends of what can be held; and a map in which two keys have one text, with a number that is
not finite and with fields that are not sorted. -/
theorem toJson_ofJson_inverse_nested :
    let j := Json.object
      [("a", .array [.integer 18446744073709551615, .integer (-9223372036854775808), .float (-0.0)]),
      ("é", .object [("", .null)])]
    let v := Value.map [(.int 1, .bool true), (.list [.uint 7], .struct [("z", .uint 8), ("a", .float (0 / 0))]),
      (.string "1", .map [])]
    j.WellFormed ∧ (ofJson j).toJson = j ∧ v.viaJson.viaJson = v.viaJson ∧
      v.viaJson = .struct [("1", .struct []), ("[7]", .struct [("a", .null), ("z", .int 8)])] := by
  intro j v
  have hnumbers : ∀ n ∈ [.integer 18446744073709551615, .integer (-9223372036854775808), .float (-0.0)],
      Json.WellFormed n := by
    simp only [List.forall_mem_cons, List.not_mem_nil, false_implies, implies_true, and_true]
    exact ⟨.integer (by decide) (by decide), .integer (by decide) (by decide), .float (by decide +kernel)⟩
  have hinner : (Json.object [("", .null)]).WellFormed :=
    .object (List.pairwise_singleton _ _) (List.forall_mem_singleton.2 .null)
  have hj : j.WellFormed := by
    refine .object (List.pairwise_pair.2 (by decide)) ?_
    exact List.forall_mem_cons.2 ⟨.array hnumbers, List.forall_mem_singleton.2 hinner⟩
  exact ⟨hj, toJson_ofJson_inverse.1 j hj, (toJson_ofJson_inverse.2 v).1, eq_of_same _ _ (by decide +kernel)⟩

end Value

end FieldRules
