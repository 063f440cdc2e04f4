import FieldRules.Proofs.Validator.Failures

/-!
# Lists of failures

A report lists failures when each of them is in it once, in the order of their places (`Lists`). Lists of
failures are put together from those of the parts of a value.
-/

namespace FieldRules

/-- Whether a report lists the failures that a predicate describes: each at its place, once, and in the order
of the places. -/
def Lists (fails : Place → Violation → Prop) (report : Report) : Prop :=
  ∃ found : List (Place × Violation), found.map (·.2) = report ∧ found.Pairwise (fun a b => a.1 < b.1) ∧
    ∀ place w, (place, w) ∈ found ↔ fails place w

namespace Lists

variable {F G : Place → Violation → Prop} {r t : Report}

theorem congr (h : Lists F r) (hFG : ∀ place w, F place w ↔ G place w) : Lists G r := by
  obtain ⟨found, hreport, horder, hfound⟩ := h
  exact ⟨found, hreport, horder, fun place w => (hfound place w).trans (hFG place w)⟩

/-- Nothing fails. -/
theorem nil : Lists (fun _ _ => False) [] :=
  ⟨[], rfl, List.Pairwise.nil, by simp⟩

/-- What a check of a whole value finds. -/
theorem ofCause (cause : Option Cause) :
    Lists (WholeFails cause) (Report.ofCause? cause []) := by
  cases cause with
  | none => exact nil.congr (by simp [WholeFails])
  | some c => exact ⟨[([], { cause := c })], rfl, List.pairwise_singleton .., by simp [WholeFails]⟩

/-- All failures changed in the same way. -/
theorem map (h : Lists F r) (f : Violation → Violation) :
    Lists (fun place w => ∃ u, F place u ∧ w = f u) (r.map f) := by
  obtain ⟨found, rfl, horder, hfound⟩ := h
  refine ⟨found.map fun e => (e.1, f e.2), by simp, List.pairwise_map.2 horder, fun place w => ?_⟩
  rw [List.mem_map]
  constructor
  · rintro ⟨⟨place, u⟩, hmem, h⟩
    obtain ⟨rfl, rfl⟩ := Prod.mk.inj h
    exact ⟨u, (hfound place u).1 hmem, rfl⟩
  · rintro ⟨u, hu, rfl⟩
    exact ⟨(place, u), (hfound place u).2 hu, rfl⟩

/-- The failures of a part. -/
theorem inPart (h : Lists F r) (i : Nat) : Lists (fun place w => ∃ rest, place = i :: rest ∧ F rest w) r := by
  obtain ⟨found, rfl, horder, hfound⟩ := h
  refine ⟨found.map fun e => (i :: e.1, e.2), by simp, ?_, fun place w => ?_⟩
  · exact List.pairwise_map.2 (horder.imp fun hlt => List.cons_lt_cons_iff.2 (.inr ⟨rfl, hlt⟩))
  · rw [List.mem_map]
    constructor
    · rintro ⟨⟨rest, u⟩, hmem, h⟩
      obtain ⟨rfl, rfl⟩ := Prod.mk.inj h
      exact ⟨rest, rfl, (hfound rest u).1 hmem⟩
    · rintro ⟨rest, rfl, hrest⟩
      exact ⟨(rest, w), (hfound rest w).2 hrest, rfl⟩

/-- Failures all of whose places come before those of others. -/
theorem append (hF : Lists F r) (hG : Lists G t)
    (hlt : ∀ place w place' w', F place w → G place' w' → place < place') :
    Lists (fun place w => F place w ∨ G place w) (r ++ t) := by
  obtain ⟨found, rfl, horder, hfound⟩ := hF
  obtain ⟨found', rfl, horder', hfound'⟩ := hG
  refine ⟨found ++ found', by simp, ?_, fun place w => by rw [List.mem_append, hfound, hfound']⟩
  rw [List.pairwise_append]
  refine ⟨horder, horder', ?_⟩
  intro a ha b hb
  exact hlt a.1 a.2 b.1 b.2 ((hfound a.1 a.2).1 ha) ((hfound' b.1 b.2).1 hb)

/-- The failures of the whole come before those of its parts. -/
theorem append_parts (cause : Option Cause) (hG : Lists G t) (hparts : ∀ place w, G place w → place ≠ []) :
    Lists (fun place w => WholeFails cause place w ∨ G place w) (Report.ofCause? cause [] ++ t) := by
  refine (ofCause cause).append hG fun place w place' w' h h' => ?_
  obtain ⟨rfl, -⟩ := h
  cases place' with
  | nil => exact absurd rfl (hparts [] w' h')
  | cons i rest => exact List.nil_lt_cons i rest

/-- The failures of the parts in a list, numbered from a number on. -/
theorem parts {α : Type} {F : α → Place → Violation → Prop} {r : α → Report} (as : List α)
    (h : ∀ a ∈ as, Lists (F a) (r a)) (n : Nat) :
    Lists (fun place w => ∃ i a rest, as[i]? = some a ∧ place = (n + i) :: rest ∧ F a rest w)
      (as.flatMap r) := by
  induction as generalizing n with
  | nil => exact nil.congr (by simp)
  | cons a as ih =>
    -- The first part has a smaller number than all the others.
    obtain ⟨ha, has⟩ := List.forall_mem_cons.1 h
    refine ((ha.inPart n).append (ih has (n + 1)) ?_).congr fun place w => ?_
    · rintro place w place' w' ⟨rest, rfl, -⟩ ⟨i, b, rest', -, rfl, -⟩
      exact List.cons_lt_cons_iff.2 (.inl (by omega))
    · constructor
      · rintro (⟨rest, rfl, hrest⟩ | ⟨i, b, rest, hb, rfl, hrest⟩)
        · exact ⟨0, a, rest, rfl, rfl, hrest⟩
        · exact ⟨i + 1, b, rest, hb, by rw [show n + 1 + i = n + (i + 1) by omega], hrest⟩
      · rintro ⟨i, b, rest, hb, rfl, hrest⟩
        cases i with
        | zero =>
          obtain rfl := Option.some.inj hb
          exact .inl ⟨rest, rfl, hrest⟩
        | succ i => exact .inr ⟨i, b, rest, hb, by rw [show n + 1 + i = n + (i + 1) by omega], hrest⟩

end Lists

end FieldRules
