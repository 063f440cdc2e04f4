import FieldRules.Compiler.Registry
import FieldRules.Proofs.Rule.WellFormed

/-!
# Looking up creators

Registering a creator changes what is found under its names and nothing else (`Registry.get?_register`). No
name of a family or a format that needs no registration is taken twice, so what is found under a name is what
its only creator stands for (`Registry.get?_builtin_iff`).
-/

namespace FieldRules.Registry

private theorem get?_setAll (r : Registry) (names : List String) (creation : Creation) (name : String) :
    Fields.get? (names.foldl (fun r n => Fields.set r n creation) r) name =
      if name ∈ names then some creation else Fields.get? r name := by
  induction names generalizing r with
  | nil => simp
  | cons n names ih =>
    rw [List.foldl_cons, ih]
    by_cases hmem : name ∈ names
    · simp [hmem]
    · by_cases hn : n = name
      · subst hn
        simp [hmem, Fields.get?_set_self]
      · simp [hmem, Fields.get?_set_ne r creation hn, Ne.symm hn]

/-- What is found under a name in a registry with one creator more. -/
theorem get?_register (r : Registry) (c : Creator) (name : String) :
    Fields.get? (r.register c) name = if name ∈ c.names then some c.creation else Fields.get? r name :=
  get?_setAll r c.names c.creation name

/-- Whatever is found was registered. -/
private theorem of_get?_foldl {cs : List Creator} {r : Registry} {name : String} {creation : Creation}
    (h : Fields.get? (cs.foldl register r) name = some creation) :
    (∃ c ∈ cs, name ∈ c.names ∧ c.creation = creation) ∨ Fields.get? r name = some creation := by
  induction cs generalizing r with
  | nil => exact .inr h
  | cons c cs ih =>
    rcases ih h with ⟨d, hd, hfound⟩ | hold
    · exact .inl ⟨d, List.mem_cons_of_mem _ hd, hfound⟩
    · rw [get?_register] at hold
      split at hold
      next hname =>
        obtain rfl := Option.some.inj hold
        exact .inl ⟨c, List.mem_cons_self .., hname, rfl⟩
      · exact .inr hold

private theorem get?_foldl_of_notMem {cs : List Creator} {r : Registry} {name : String}
    (h : name ∉ cs.flatMap Creator.names) : Fields.get? (cs.foldl register r) name = Fields.get? r name := by
  induction cs generalizing r with
  | nil => rfl
  | cons c cs ih =>
    rw [List.flatMap_cons, List.mem_append, not_or] at h
    rw [List.foldl_cons, ih h.2, get?_register, if_neg h.1]

/-- As long as no name is taken twice, every creator is found under its names. -/
private theorem get?_foldl_of_mem {cs : List Creator} {r : Registry} {c : Creator} {name : String}
    (hnodup : (cs.flatMap Creator.names).Nodup) (hc : c ∈ cs) (hname : name ∈ c.names) :
    Fields.get? (cs.foldl register r) name = some c.creation := by
  induction cs generalizing r with
  | nil => cases hc
  | cons d cs ih =>
    rw [List.flatMap_cons, List.nodup_append] at hnodup
    rw [List.foldl_cons]
    rcases List.mem_cons.1 hc with rfl | hc
    · have hlater : name ∉ cs.flatMap Creator.names := fun h => hnodup.2.2 name hname name h rfl
      rw [get?_foldl_of_notMem hlater, get?_register, if_pos hname]
    · exact ih hnodup.2.1 hc

/-- The creators of the factory that needs no registration. -/
def builtinCreators : List Creator :=
  Creator.families ++ Format.builtin.map Creator.ofFormat

private theorem nodup_builtin_names : (builtinCreators.flatMap Creator.names).Nodup := by
  decide +kernel

/-- What is found under a name of a family or a format. -/
theorem get?_builtin_iff {name : String} {creation : Creation} :
    Fields.get? builtin name = some creation ↔
      ∃ c ∈ builtinCreators, name ∈ c.names ∧ c.creation = creation := by
  constructor
  · intro h
    rcases of_get?_foldl h with h | h
    · exact h
    · cases h
  · rintro ⟨c, hc, hname, rfl⟩
    exact get?_foldl_of_mem nodup_builtin_names hc hname

/-- The names of the floating-point family. -/
def floatNames : List String :=
  ["float", "float32", "double", "float64"]

/-- What the creators of the factory stand for: a family, of which only the one for floating-point numbers has
their names, or a format. -/
theorem of_get?_builtin {name : String} {creation : Creation} (h : Fields.get? builtin name = some creation) :
    (creation = .float ∧ name ∈ floatNames) ∨ (∃ signed, creation = .integer signed) ∨
      creation ∈ [.text, .slice, .map, .struct] ∨ ∃ f ∈ Format.builtin, creation = .format f := by
  obtain ⟨c, hc, hname, rfl⟩ := get?_builtin_iff.1 h
  rcases List.mem_append.1 hc with hc | hc
  · simp only [Creator.families, List.mem_cons, List.not_mem_nil, or_false] at hc
    rcases hc with rfl | rfl | rfl | rfl | rfl | rfl | rfl
    · exact .inr (.inl ⟨true, rfl⟩)
    · exact .inr (.inl ⟨false, rfl⟩)
    · exact .inl ⟨rfl, hname⟩
    all_goals exact .inr (.inr (.inl (by simp)))
  · obtain ⟨f, hf, rfl⟩ := List.mem_map.1 hc
    exact .inr (.inr (.inr ⟨f, hf, rfl⟩))

theorem isName_of_mem_builtin : ∀ f ∈ Format.builtin, f.name ∈ f.names ∧ IsName f.name := by
  decide +kernel

theorem get?_builtin_of_format {f : Format} (h : f ∈ Format.builtin) :
    Fields.get? builtin f.name = some (.format f) :=
  get?_builtin_iff.2 ⟨.ofFormat f, List.mem_append_right _ (List.mem_map_of_mem h),
    (isName_of_mem_builtin f h).1, rfl⟩

end FieldRules.Registry
