import FieldRules.Proofs.Validator.Completion
import FieldRules.Proofs.Validator.Reporting

/-!
# Validators by their parts

What a validator reports and leaves, put together from what its parts report and leave: one equation for each way to
walk a slot, filling or not.
-/

namespace FieldRules

/-! ### Loaders -/

/-- What a loader says of an empty value, and what it leaves. -/
theorem Loader.walk_of_empty {l : Loader} {slot : Slot} (fills : Bool) (empty : l.isEmpty slot.read = true) :
    l.walk fills slot =
      (if l.onEmpty.isOptional then [] else (Report.single .missing).map (Violation.said l.message?),
        if fills then l.onEmpty.default? <|> slot else slot) := by
  obtain ⟨schema, inner, onEmpty, message?, codec?⟩ := l
  rw [Loader.walk.eq_def]
  simp only [empty, if_true]
  cases onEmpty with
  | refuse => cases fills <;> exact congrArg (·, slot) (Report.map_said message? (Report.single .missing))
  | pass => cases fills <;> rfl
  | fill text value => cases fills <;> rfl

/-- Without a codec, a value that is not empty is handed to the check. -/
theorem Loader.walk_of_nonempty {l : Loader} (hcodec : l.codec? = none) {slot : Slot} (fills : Bool)
    (nonempty : l.isEmpty slot.read = false) :
    l.walk fills slot = match l.inner with
      | some v => ((v.walk fills slot).1.map (Violation.said l.message?), (v.walk fills slot).2)
      | none => ([], slot) := by
  obtain ⟨schema, inner, onEmpty, message?, codec?⟩ := l
  obtain rfl : codec? = none := hcodec
  cases inner with
  | none => simp only [Loader.walk, nonempty, Bool.false_eq_true, if_false]
  | some v =>
    simp only [Loader.walk, nonempty, Bool.false_eq_true, if_false]
    exact congrArg (·, (v.walk fills slot).2) (Report.map_said message? _)

/-- Without a check, a value that is not empty passes as it is. -/
theorem Loader.walk_of_unchecked {l : Loader} (hinner : l.inner = none) {slot : Slot} (fills : Bool)
    (nonempty : l.isEmpty slot.read = false) : l.walk fills slot = ([], slot) := by
  obtain ⟨schema, inner, onEmpty, message?, codec?⟩ := l
  obtain rfl : inner = none := hinner
  simp only [Loader.walk, nonempty, Bool.false_eq_true, if_false]

/-! ### Lists and maps -/

theorem Walk.optional_none (fills : Bool) :
    Walk.optional (Validator.walkOption fills none) = fun x => ([], x) := by
  funext x
  rfl

namespace Validator

variable {item item' key key' : Option Validator}

theorem walk_slice_fst (item : Option Validator) (bounds : Bounds Nat) (length? : Option Nat) (fills : Bool)
    (vs : List Value) :
    ((slice item bounds length?).walk fills (some (.list vs))).1 =
      Report.ofCause? (bounds.check "slice length" vs.length) [] ++ vs.zipIdx.flatMap fun e =>
        (Walk.optional (walkOption fills item) e.1).1.under (.index e.2) := by
  simp only [walk, Walk.items_fst]

theorem walk_slice_of_not_list (item : Option Validator) (bounds : Bounds Nat) (length? : Option Nat) (fills : Bool)
    {slot : Slot} (h : ∀ vs, slot.read ≠ .list vs) :
    (slice item bounds length?).walk fills slot =
      ([{ cause := .unsupported (slice item bounds length?).toText slot.read.kindName }], slot) := by
  simp only [walk]
  split
  next vs => exact absurd rfl (h vs)
  next => rfl

theorem walk_map_fst (key item : Option Validator) (bounds : Bounds Nat) (fills : Bool) {x : Value}
    {es : List (Value × Value)} (h : x.entries? = some es) :
    ((map key item bounds).walk fills (some x)).1 =
      Report.ofCause? (bounds.check "map length" es.length) [] ++ es.flatMap fun e =>
        ((Walk.optional (walkOption false key) e.1).1 ++ (Walk.optional (walkOption fills item) e.2).1).under
          (.key e.1.toString) := by
  cases x with
  | map entries =>
    obtain rfl := Option.some.inj h
    simp only [walk, Walk.entries_fst]
  | struct fields =>
    obtain rfl := Option.some.inj h
    simp only [walk, Walk.named_fst, List.length_map, List.flatMap_map]
    rfl
  | null | bool | int | uint | float | string | list => cases h

theorem walk_map_of_no_entries (key item : Option Validator) (bounds : Bounds Nat) (fills : Bool) {slot : Slot}
    (h : slot.read.entries? = none) :
    (map key item bounds).walk fills slot =
      ([{ cause := .unsupported (map key item bounds).toText slot.read.kindName }], slot) := by
  simp only [walk]
  split
  next es => cases h
  next fs => cases h
  next => rfl

section

variable {fills : Bool}
  (hitem : ∀ x, (Walk.optional (walkOption fills item) x).2 =
    (Walk.optional (walkOption fills item') x).2)
include hitem

theorem walk_slice_snd (bounds : Bounds Nat) (length? : Option Nat) (slot : Slot) :
    ((slice item bounds length?).walk fills slot).2 =
      ((slice item' bounds length?).walk fills slot).2 := by
  simp only [walk]
  split
  next vs => simp only [Walk.items_snd, hitem]
  next => rfl

theorem walk_map_snd (key key' : Option Validator) (bounds : Bounds Nat) (slot : Slot) :
    ((map key item bounds).walk fills slot).2 = ((map key' item' bounds).walk fills slot).2 := by
  simp only [walk]
  split
  next es => simp only [Walk.entries_snd, hitem]
  next fs => simp only [Walk.named_snd, hitem]
  next => rfl

end

end Validator

/-! ### Structs -/

theorem Validator.walk_struct_of_not_struct (checks : List FieldCheck) (fills : Bool) {slot : Slot}
    (h : ∀ fs, slot.read ≠ .struct fs) :
    (Validator.struct checks).walk fills slot =
      ([{ cause := .unsupported "@struct" slot.read.kindName }], slot) := by
  simp only [Validator.walk]
  split
  next fs => exact absurd rfl (h fs)
  next => rfl

/-- What the check of a field leaves is determined by what its validator leaves. -/
theorem FieldCheck.leave_congr {fills : Bool} {v v' : Validator}
    (h : ∀ slot, (v.walk fills slot).2 = (v'.walk fills slot).2) (access : List String) (name label : String)
    (fields : Fields Value) :
    FieldCheck.leave fills ⟨access, name, label, v⟩ fields =
      FieldCheck.leave fills ⟨access, name, label, v'⟩ fields := by
  refine Walk.within_snd_congr ?_
  rw [Walk.field_snd, Walk.field_snd, h]

end FieldRules
