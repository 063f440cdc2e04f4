import FieldRules.Rule.Basic
import Mathlib.Data.List.Forall2

/-!
# The values that groups spell

The values of a rule are the texts that take one value from each group, in order (`Rule.mem_computedValues_iff`).
-/

namespace FieldRules

/-- Whether a text is put together of one value from each group, in order. -/
def SpelledBy (groups : List (List String)) (text : String) : Prop :=
  ∃ picks, List.Forall₂ (· ∈ ·) picks groups ∧ text = String.join picks

/-- Whether a rule has groups of values, and a text is one of their combinations. -/
def Rule.Spells (r : Rule) (text : String) : Prop :=
  r.values ≠ [] ∧ SpelledBy r.values text

private theorem spelledBy_nil {text : String} : SpelledBy [] text ↔ text = "" := by
  constructor
  · rintro ⟨_, ⟨⟩, rfl⟩
    rfl
  · rintro rfl
    exact ⟨[], .nil, rfl⟩

private theorem spelledBy_cons {group : List String} {groups : List (List String)} {text : String} :
    SpelledBy (group :: groups) text ↔ ∃ head ∈ group, ∃ tail, SpelledBy groups tail ∧ text = head ++ tail := by
  constructor
  · rintro ⟨_, hpicks, rfl⟩
    cases hpicks with
    | cons hhead hpicks => exact ⟨_, hhead, _, ⟨_, hpicks, rfl⟩, String.join_cons⟩
  · rintro ⟨head, hhead, _, ⟨picks, hpicks, rfl⟩, rfl⟩
    exact ⟨head :: picks, .cons hhead hpicks, String.join_cons.symm⟩

private theorem mem_combine {heads tails : List String} {text : String} :
    text ∈ combine heads tails ↔ ∃ head ∈ heads, ∃ tail ∈ tails, head ++ tail = text := by
  simp [combine]

private theorem mem_foldl_combine {groups : List (List String)} {heads : List String} {text : String} :
    text ∈ groups.foldl combine heads ↔ ∃ head ∈ heads, ∃ tail, SpelledBy groups tail ∧ text = head ++ tail := by
  induction groups generalizing heads with
  | nil => simp [spelledBy_nil]
  | cons group groups ih =>
    simp only [List.foldl_cons, ih, mem_combine, spelledBy_cons]
    constructor
    · rintro ⟨_, ⟨head, hhead, next, hnext, rfl⟩, tail, htail, rfl⟩
      exact ⟨head, hhead, next ++ tail, ⟨next, hnext, tail, htail, rfl⟩, String.append_assoc ..⟩
    · rintro ⟨head, hhead, _, ⟨next, hnext, tail, htail, rfl⟩, rfl⟩
      exact ⟨head ++ next, ⟨head, hhead, next, hnext, rfl⟩, tail, htail, (String.append_assoc ..).symm⟩

/-- The values of a rule are the combinations of its groups. -/
theorem Rule.mem_computedValues_iff {r : Rule} {text : String} : text ∈ r.computedValues ↔ r.Spells text := by
  unfold Rule.computedValues Rule.Spells
  cases r.values with
  | nil => simp
  | cons group groups => simp [mem_foldl_combine, spelledBy_cons]

private theorem foldl_combine_ne_nil {groups : List (List String)} (hgroups : ∀ group ∈ groups, group ≠ [])
    {heads : List String} (hheads : heads ≠ []) : groups.foldl combine heads ≠ [] := by
  induction groups generalizing heads with
  | nil => exact hheads
  | cons group groups ih =>
    obtain ⟨hgroup, hgroups⟩ := List.forall_mem_cons.1 hgroups
    refine ih hgroups ?_
    obtain ⟨head, hhead⟩ := List.exists_mem_of_ne_nil _ hheads
    obtain ⟨tail, htail⟩ := List.exists_mem_of_ne_nil _ hgroup
    exact List.ne_nil_of_mem (mem_combine.2 ⟨head, hhead, tail, htail, rfl⟩)

/-- Groups that are not empty combine to some value. -/
theorem Rule.computedValues_ne_nil {r : Rule} (hgroups : ∀ group ∈ r.values, group ≠ []) (h : r.values ≠ []) :
    r.computedValues ≠ [] := by
  unfold Rule.computedValues
  split
  next hnil => exact absurd hnil h
  next group groups hcons =>
    rw [hcons] at hgroups
    obtain ⟨hgroup, hgroups⟩ := List.forall_mem_cons.1 hgroups
    exact foldl_combine_ne_nil hgroups hgroup

end FieldRules
