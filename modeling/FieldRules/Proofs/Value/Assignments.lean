import FieldRules.Value.Fields
import Mathlib.Data.List.Induction

/-!
# What assignments leave behind

The fields that assignments leave behind have each name once, in the order in which the names first came
(`Fields.names_ofAssignments`), and under each name the content that was assigned last (`Fields.get?_ofAssignments`).
-/

namespace FieldRules.Fields

variable {α : Type}

private theorem names_set (fs : Fields α) (name : String) (a : α) :
    (fs.set name a).map (·.1) = if name ∈ fs.map (·.1) then fs.map (·.1) else fs.map (·.1) ++ [name] := by
  cases h : fs.get? name with
  | none => rw [if_neg (get?_eq_none_iff.1 h), set_of_get?_eq_none h, List.map_append, List.map_singleton]
  | some b =>
    have hmem : name ∈ fs.map (·.1) := by
      by_contra hnot
      cases h.symm.trans (get?_eq_none_iff.2 hnot)
    rw [if_pos hmem, names_set_of_get? h]

theorem ofAssignments_snoc (pairs : List (String × α)) (p : String × α) :
    ofAssignments (pairs ++ [p]) = (ofAssignments pairs).set p.1 p.2 := by
  simp [ofAssignments]

/-- The names stay in the order in which they first came. -/
theorem names_ofAssignments (pairs : List (String × α)) :
    (ofAssignments pairs).map (·.1) = (pairs.map (·.1)).eraseDups := by
  induction pairs using List.reverseRecOn with
  | nil => rfl
  | append_singleton pairs p ih =>
    have hmem : p.1 ∈ (pairs.map (·.1)).eraseDups ↔ p.1 ∈ pairs.map (·.1) := List.mem_eraseDups
    rw [ofAssignments_snoc, names_set, ih, List.map_append, List.eraseDups_append, List.map_singleton]
    by_cases h : p.1 ∈ pairs.map (·.1)
    · rw [if_pos (hmem.2 h)]
      simp [List.removeAll, h]
    · rw [if_neg (mt hmem.1 h)]
      simp [List.removeAll, h, List.eraseDups_cons]

/-- No name comes twice. -/
theorem nodup_names_ofAssignments (pairs : List (String × α)) : ((ofAssignments pairs).map (·.1)).Nodup := by
  induction pairs using List.reverseRecOn with
  | nil => exact .nil
  | append_singleton pairs p ih =>
    rw [ofAssignments_snoc, names_set]
    split
    · exact ih
    next h =>
      refine List.nodup_append.2 ⟨ih, by simp, ?_⟩
      rintro n hn _ hname rfl
      exact h (List.mem_singleton.1 hname ▸ hn)

/-- What was assigned last counts. -/
theorem get?_ofAssignments (pairs : List (String × α)) (name : String) :
    (ofAssignments pairs).get? name = pairs.reverse.lookup name := by
  induction pairs using List.reverseRecOn with
  | nil => rfl
  | append_singleton pairs p ih =>
    obtain ⟨n, a⟩ := p
    rw [ofAssignments_snoc, List.reverse_append, List.reverse_singleton, List.singleton_append, List.lookup_cons]
    by_cases h : n = name
    · simp [h, get?_set_self]
    · simp [get?_set_ne _ a h, ih, beq_eq_false_iff_ne.2 (Ne.symm h)]

end FieldRules.Fields
