import FieldRules.Value.Basic

/-!
# A test for equal values

No proof can be read off a comparison of two floats, so equality of values is not decidable. The test here, which runs
along both values, only holds of equal ones (`Value.eq_of_same`), and of none in which there is a float.
-/

namespace FieldRules

mutual

/-- Two values that agree in all of their parts, none of which is a float. -/
def Value.same : Value → Value → Bool
  | .null, .null => true
  | .bool a, .bool b => a == b
  | .int a, .int b => a == b
  | .uint a, .uint b => a == b
  | .string a, .string b => a == b
  | .list xs, .list ys => sameItems xs ys
  | .map es, .map fs => sameEntries es fs
  | .struct fs, .struct gs => sameFields fs gs
  | _, _ => false
termination_by structural x => x

def Value.sameItems : List Value → List Value → Bool
  | [], [] => true
  | x :: xs, y :: ys => x.same y && sameItems xs ys
  | _, _ => false
termination_by structural xs => xs

def Value.sameEntries : List (Value × Value) → List (Value × Value) → Bool
  | [], [] => true
  | (k, x) :: es, (l, y) :: fs => k.same l && x.same y && sameEntries es fs
  | _, _ => false
termination_by structural es => es

def Value.sameFields : List (String × Value) → List (String × Value) → Bool
  | [], [] => true
  | (n, x) :: fs, (m, y) :: gs => n == m && x.same y && sameFields fs gs
  | _, _ => false
termination_by structural fs => fs

end

mutual

theorem Value.eq_of_same : (x y : Value) → x.same y = true → x = y
  | .null, y, h => by
    cases y with
    | null => rfl
    | _ => cases h
  | .bool a, y, h => by
    cases y with
    | bool b => exact congrArg _ (eq_of_beq h)
    | _ => cases h
  | .int a, y, h => by
    cases y with
    | int b => exact congrArg _ (eq_of_beq h)
    | _ => cases h
  | .uint a, y, h => by
    cases y with
    | uint b => exact congrArg _ (eq_of_beq h)
    | _ => cases h
  | .float a, y, h => by cases y <;> cases h
  | .string a, y, h => by
    cases y with
    | string b => exact congrArg _ (eq_of_beq h)
    | _ => cases h
  | .list xs, y, h => by
    cases y with
    | list ys => exact congrArg _ (eq_of_sameItems xs ys h)
    | _ => cases h
  | .map es, y, h => by
    cases y with
    | map fs => exact congrArg _ (eq_of_sameEntries es fs h)
    | _ => cases h
  | .struct fs, y, h => by
    cases y with
    | struct gs => exact congrArg _ (eq_of_sameFields fs gs h)
    | _ => cases h

theorem Value.eq_of_sameItems : (xs ys : List Value) → sameItems xs ys = true → xs = ys
  | [], ys, h => by
    cases ys with
    | nil => rfl
    | cons => cases h
  | x :: xs, ys, h => by
    cases ys with
    | nil => cases h
    | cons y ys =>
      obtain ⟨hx, hxs⟩ := (Bool.and_eq_true ..).mp h
      rw [eq_of_same x y hx, eq_of_sameItems xs ys hxs]

theorem Value.eq_of_sameEntries :
    (es fs : List (Value × Value)) → sameEntries es fs = true → es = fs
  | [], fs, h => by
    cases fs with
    | nil => rfl
    | cons => cases h
  | (k, x) :: es, fs, h => by
    cases fs with
    | nil => cases h
    | cons f fs =>
      obtain ⟨hkx, hes⟩ := (Bool.and_eq_true ..).mp h
      obtain ⟨hk, hx⟩ := (Bool.and_eq_true ..).mp hkx
      rw [eq_of_same k f.1 hk, eq_of_same x f.2 hx, eq_of_sameEntries es fs hes]

theorem Value.eq_of_sameFields :
    (fs gs : List (String × Value)) → sameFields fs gs = true → fs = gs
  | [], gs, h => by
    cases gs with
    | nil => rfl
    | cons => cases h
  | (n, x) :: fs, gs, h => by
    cases gs with
    | nil => cases h
    | cons g gs =>
      obtain ⟨hnx, hfs⟩ := (Bool.and_eq_true ..).mp h
      obtain ⟨hn, hx⟩ := (Bool.and_eq_true ..).mp hnx
      rw [eq_of_beq hn, eq_of_same x g.2 hx, eq_of_sameFields fs gs hfs]

end

end FieldRules
