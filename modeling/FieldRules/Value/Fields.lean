/-!
# Fields in order

Fields are pairs of a name and a content, looked up by name and kept in the order in which the names
first came. `set` changes the first field of a name where there is one and appends a field otherwise.
-/

namespace FieldRules

/-- Named contents in order. -/
abbrev Fields (α : Type) := List (String × α)

namespace Fields

variable {α : Type}

/-- The content under a name. -/
def get? : Fields α → String → Option α
  | [], _ => none
  | (n, a) :: rest, name => if n = name then some a else get? rest name

/-- Sets the content under a name. -/
def set : Fields α → String → α → Fields α
  | [], name, a => [(name, a)]
  | (n, b) :: rest, name, a => if n = name then (n, a) :: rest else (n, b) :: set rest name a

/-- The fields that a list of assignments leaves behind. -/
def ofAssignments (pairs : List (String × α)) : Fields α :=
  pairs.foldl (fun fs p => fs.set p.1 p.2) []

theorem get?_set_self (fs : Fields α) (name : String) (a : α) : (fs.set name a).get? name = some a := by
  induction fs with
  | nil => simp [set, get?]
  | cons f rest ih =>
    obtain ⟨n, b⟩ := f
    by_cases h : n = name <;> simp [set, get?, h, ih]

theorem get?_set_ne (fs : Fields α) {name other : String} (a : α) (h : name ≠ other) :
    (fs.set name a).get? other = fs.get? other := by
  induction fs with
  | nil => simp [set, get?, h]
  | cons f rest ih =>
    obtain ⟨n, b⟩ := f
    by_cases hn : n = name
    · subst hn
      simp [set, get?, h]
    · simp only [set, hn, if_false, get?, ih]

theorem get?_eq_none_iff {fs : Fields α} {name : String} : fs.get? name = none ↔ name ∉ fs.map (·.1) := by
  induction fs with
  | nil => simp [get?]
  | cons f fs ih =>
    obtain ⟨n, a⟩ := f
    by_cases h : n = name
    · simp [get?, h]
    · simp [get?, h, ih, Ne.symm h]

theorem names_set_of_get? {fs : Fields α} {name : String} {a b : α} (h : fs.get? name = some b) :
    (fs.set name a).map (·.1) = fs.map (·.1) := by
  induction fs with
  | nil => simp [get?] at h
  | cons f rest ih =>
    obtain ⟨n, c⟩ := f
    by_cases hn : n = name
    · simp [set, hn]
    · simp only [get?, hn, if_false] at h
      simp [set, hn, ih h]

theorem set_of_get?_eq_none {fs : Fields α} {name : String} {a : α} (h : fs.get? name = none) :
    fs.set name a = fs ++ [(name, a)] := by
  induction fs with
  | nil => rfl
  | cons f rest ih =>
    obtain ⟨n, c⟩ := f
    by_cases hn : n = name
    · simp [get?, hn] at h
    · simp only [get?, hn, if_false] at h
      simp [set, hn, ih h]

end Fields

end FieldRules
