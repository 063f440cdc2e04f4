/-!
# JSON documents

Numbers are integers or floating-point numbers. The fields of an object are kept in the order of their
names, each name once; `Json.ofFields` brings any list of fields into that form, the last of several
equal names winning (`sorted_ofFields`).
-/

namespace FieldRules

/-- A JSON document. -/
inductive Json
  | null
  | bool (b : Bool)
  | integer (n : Int)
  | float (x : Float)
  | string (s : String)
  | array (items : List Json)
  | object (fields : List (String × Json))

namespace Json

/-- Sets a field in a list that is sorted by name. -/
def insertField (name : String) (v : Json) : List (String × Json) → List (String × Json)
  | [] => [(name, v)]
  | (n, w) :: rest =>
    if name < n then (name, v) :: (n, w) :: rest
    else if n = name then (name, v) :: rest
    else (n, w) :: insertField name v rest

/-- The sorted fields that a list of assignments leaves behind. -/
def ofFields (fields : List (String × Json)) : List (String × Json) :=
  fields.foldl (fun acc f => insertField f.1 f.2 acc) []

/-- The names rise strictly. -/
def Sorted (fields : List (String × Json)) : Prop :=
  (fields.map (·.1)).Pairwise (· < ·)

theorem mem_insertField {name : String} {v : Json} {fields : List (String × Json)} {f : String × Json}
    (h : f ∈ insertField name v fields) : f = (name, v) ∨ f ∈ fields := by
  induction fields with
  | nil => exact Or.inl (by simpa [insertField] using h)
  | cons g rest ih =>
    obtain ⟨n, w⟩ := g
    unfold insertField at h
    split at h
    · simpa using h
    · split at h
      · rcases List.mem_cons.1 h with h | h
        · exact Or.inl h
        · exact Or.inr (List.mem_cons_of_mem _ h)
      · rcases List.mem_cons.1 h with h | h
        · exact Or.inr (h ▸ List.mem_cons_self)
        · exact (ih h).imp id (List.mem_cons_of_mem _)

theorem sorted_insertField {name : String} {v : Json} {fields : List (String × Json)} (h : Sorted fields) :
    Sorted (insertField name v fields) := by
  induction fields with
  | nil => simp [insertField, Sorted]
  | cons g rest ih =>
    obtain ⟨n, w⟩ := g
    simp only [Sorted, List.map_cons, List.pairwise_cons] at h
    unfold insertField
    split
    case isTrue hlt =>
      simp only [Sorted, List.map_cons, List.pairwise_cons]
      refine ⟨?_, h⟩
      intro m hm
      rcases List.mem_cons.1 hm with rfl | hm
      · exact hlt
      · exact String.lt_trans hlt (h.1 m hm)
    case isFalse hlt =>
      split
      case isTrue he =>
        subst he
        simpa only [Sorted, List.map_cons, List.pairwise_cons] using h
      case isFalse he =>
        simp only [Sorted, List.map_cons, List.pairwise_cons]
        refine ⟨?_, ih h.2⟩
        intro m hm
        obtain ⟨f, hf, rfl⟩ := List.mem_map.1 hm
        rcases mem_insertField hf with rfl | hf
        · by_cases h' : n < name
          · exact h'
          · exact absurd (String.le_antisymm (String.not_lt.1 hlt) (String.not_lt.1 h')) he
        · exact h.1 _ (List.mem_map_of_mem hf)

theorem sorted_ofFields (fields : List (String × Json)) : Sorted (ofFields fields) := by
  suffices h : ∀ acc, Sorted acc →
      Sorted (fields.foldl (fun acc f => insertField f.1 f.2 acc) acc) from h [] (by simp [Sorted])
  induction fields with
  | nil => exact fun _ h => h
  | cons f rest ih => exact fun acc h => ih _ (sorted_insertField h)

end Json

end FieldRules
