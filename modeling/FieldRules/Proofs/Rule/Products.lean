import FieldRules.Proofs.Rule.Values
import Mathlib.Algebra.BigOperators.Ring.List
import Mathlib.Algebra.Ring.Nat

/-!
# The order of the values of groups

The values of a rule are a list with one place for each choice of a value from every group. The places of the chosen
values in their groups are the digits of this place, the first group counting most
(`Rule.getElem?_computedValues`).
-/

namespace FieldRules

/-! ### Two lists -/

private theorem combine_nil (tails : List String) : combine [] tails = [] :=
  rfl

private theorem combine_cons (head : String) (heads tails : List String) :
    combine (head :: heads) tails = tails.map (head ++ ·) ++ combine heads tails :=
  rfl

private theorem combine_append (front back tails : List String) :
    combine (front ++ back) tails = combine front tails ++ combine back tails := by
  simp [combine]

private theorem combine_assoc (heads middles tails : List String) :
    combine (combine heads middles) tails = combine heads (combine middles tails) := by
  induction heads with
  | nil => rfl
  | cons head heads ih =>
    rw [combine_cons, combine_append, ih, combine_cons]
    congr 1
    simp [combine, List.map_flatMap, List.flatMap_map, Function.comp_def, String.append_assoc]

private theorem combine_singleton_empty (heads : List String) : combine heads [""] = heads := by
  simp [combine]

private theorem length_combine (heads tails : List String) :
    (combine heads tails).length = heads.length * tails.length := by
  induction heads with
  | nil => simp [combine_nil]
  | cons head heads ih =>
    rw [combine_cons, List.length_append, ih, List.length_map, List.length_cons, Nat.succ_mul, Nat.add_comm]

/-- A place in the combinations of two lists has the place in the second list as its last digit. -/
private theorem getElem?_combine {heads tails : List String} {n : Nat} {text : String} :
    (combine heads tails)[n]? = some text ↔
      ∃ i j head tail, heads[i]? = some head ∧ tails[j]? = some tail ∧ n = i * tails.length + j ∧
        text = head ++ tail := by
  induction heads generalizing n with
  | nil => simp [combine_nil]
  | cons first heads ih =>
    rw [combine_cons, List.getElem?_append, List.length_map]
    by_cases hn : n < tails.length
    · rw [if_pos hn, List.getElem?_map, Option.map_eq_some_iff]
      constructor
      · rintro ⟨tail, htail, rfl⟩
        exact ⟨0, n, first, tail, rfl, htail, by omega, rfl⟩
      · rintro ⟨i, j, head, tail, hhead, htail, rfl, rfl⟩
        cases i with
        | zero =>
          obtain rfl := Option.some.inj hhead
          exact ⟨tail, by simpa using htail, rfl⟩
        | succ i =>
          rw [Nat.succ_mul] at hn
          omega
    · rw [if_neg hn, ih]
      constructor
      · rintro ⟨i, j, head, tail, hhead, htail, hij, rfl⟩
        refine ⟨i + 1, j, head, tail, hhead, htail, ?_, rfl⟩
        rw [Nat.succ_mul]
        omega
      · rintro ⟨i, j, head, tail, hhead, htail, rfl, rfl⟩
        have hj : j < tails.length := (List.getElem?_eq_some_iff.1 htail).1
        cases i with
        | zero => omega
        | succ i =>
          refine ⟨i, j, head, tail, hhead, htail, ?_, rfl⟩
          rw [Nat.succ_mul]
          omega

/-! ### Groups -/

/-- All concatenations of one value from each group, the first group varying slowest. -/
def product : List (List String) → List String
  | [] => [""]
  | group :: groups => combine group (product groups)

private theorem foldl_combine_eq (groups : List (List String)) (heads : List String) :
    groups.foldl combine heads = combine heads (product groups) := by
  induction groups generalizing heads with
  | nil => rw [List.foldl_nil, product, combine_singleton_empty]
  | cons group groups ih => rw [List.foldl_cons, ih, product, combine_assoc]

private theorem length_product (groups : List (List String)) :
    (product groups).length = (groups.map List.length).prod := by
  induction groups with
  | nil => rfl
  | cons group groups ih => rw [product, length_combine, ih, List.map_cons, List.prod_cons]

/-- The place that digits make, the first one counting most, when there are as many values for a digit as there are in
its group. -/
def placeOf : List (List String) → List Nat → Nat
  | _ :: groups, digit :: digits => digit * (groups.map List.length).prod + placeOf groups digits
  | _, _ => 0

/-- Whether values are chosen from groups, one from each, at places in them. -/
def Chosen (choices : List (Nat × String)) (groups : List (List String)) : Prop :=
  List.Forall₂ (fun choice group => group[choice.1]? = some choice.2) choices groups

private theorem getElem?_product {groups : List (List String)} {n : Nat} {text : String} :
    (product groups)[n]? = some text ↔ ∃ choices, Chosen choices groups ∧
      n = placeOf groups (choices.map (·.1)) ∧ text = String.join (choices.map (·.2)) := by
  induction groups generalizing n text with
  | nil =>
    constructor
    · intro h
      obtain ⟨hn, htext⟩ := List.getElem?_eq_some_iff.1 h
      obtain rfl : n = 0 := Nat.lt_one_iff.1 hn
      exact ⟨[], .nil, rfl, htext.symm⟩
    · rintro ⟨_, ⟨⟩, rfl, rfl⟩
      rfl
  | cons group groups ih =>
    rw [product, getElem?_combine, length_product]
    constructor
    · rintro ⟨i, j, head, tail, hhead, htail, rfl, rfl⟩
      obtain ⟨choices, hchoices, rfl, rfl⟩ := ih.1 htail
      exact ⟨(i, head) :: choices, .cons hhead hchoices, rfl, String.join_cons.symm⟩
    · rintro ⟨_, hchoices, rfl, rfl⟩
      cases hchoices with
      | @cons choice _ choices _ hhead hchoices =>
        exact ⟨choice.1, _, choice.2, _, hhead, ih.2 ⟨choices, hchoices, rfl, rfl⟩, rfl, String.join_cons⟩

namespace Rule

private theorem computedValues_eq_product {r : Rule} (h : r.values ≠ []) : r.computedValues = product r.values := by
  unfold computedValues
  split
  next hnil => exact absurd hnil h
  next group groups hcons => rw [foldl_combine_eq, hcons, product]

/-- There are as many values as there are choices of one value from each group. -/
theorem length_computedValues {r : Rule} (h : r.values ≠ []) :
    r.computedValues.length = (r.values.map List.length).prod := by
  rw [computedValues_eq_product h, length_product]

/-- The value at a place is put together of the values whose places in their groups are its digits. -/
theorem getElem?_computedValues {r : Rule} (h : r.values ≠ []) {n : Nat} {text : String} :
    r.computedValues[n]? = some text ↔ ∃ choices, Chosen choices r.values ∧
      n = placeOf r.values (choices.map (·.1)) ∧ text = String.join (choices.map (·.2)) := by
  rw [computedValues_eq_product h, getElem?_product]

/-- There are no values when there are no groups or one of them is empty. -/
theorem computedValues_eq_nil_iff {r : Rule} : r.computedValues = [] ↔ r.values = [] ∨ [] ∈ r.values := by
  by_cases h : r.values = []
  · simp [computedValues, h]
  · rw [← List.length_eq_zero_iff, length_computedValues h, List.prod_eq_zero_iff]
    simp [h, List.length_eq_zero_iff]

end Rule

end FieldRules
