/-!
# Lengths and places in bytes

Offsets count the bytes of the UTF-8 encoding. `byteLength` measures a list of characters, and
`slice` cuts out the characters between two offsets.
-/

namespace FieldRules.Text

/-- The number of bytes that encode the characters. -/
def byteLength : List Char → Nat
  | [] => 0
  | c :: cs => c.utf8Size + byteLength cs

@[simp] theorem byteLength_nil : byteLength [] = 0 := rfl

@[simp] theorem byteLength_cons (c : Char) (cs : List Char) :
    byteLength (c :: cs) = c.utf8Size + byteLength cs := rfl

@[simp] theorem byteLength_append (cs ds : List Char) :
    byteLength (cs ++ ds) = byteLength cs + byteLength ds := by
  induction cs with
  | nil => simp
  | cons c cs ih => simp [ih, Nat.add_assoc]

/-- The characters from the byte offset on; a character that straddles it goes with the front. -/
def dropBytes : Nat → List Char → List Char
  | _, [] => []
  | 0, cs => cs
  | n + 1, c :: cs => dropBytes (n + 1 - c.utf8Size) cs

/-- The characters that start before the byte offset. -/
def takeBytes : Nat → List Char → List Char
  | _, [] => []
  | 0, _ => []
  | n + 1, c :: cs => c :: takeBytes (n + 1 - c.utf8Size) cs

@[simp] theorem dropBytes_zero (cs : List Char) : dropBytes 0 cs = cs := by
  cases cs <;> rfl

@[simp] theorem takeBytes_zero (cs : List Char) : takeBytes 0 cs = [] := by
  cases cs <;> rfl

theorem dropBytes_byteLength_append (cs ds : List Char) : dropBytes (byteLength cs) (cs ++ ds) = ds := by
  induction cs with
  | nil => simp
  | cons c cs ih =>
    have hc := c.utf8Size_pos
    obtain ⟨n, hn⟩ : ∃ n, c.utf8Size + byteLength cs = n + 1 := ⟨_, (Nat.succ_pred (by omega)).symm⟩
    rw [byteLength_cons, hn, List.cons_append, dropBytes, ← hn, Nat.add_sub_cancel_left, ih]

theorem takeBytes_byteLength_append (cs ds : List Char) : takeBytes (byteLength cs) (cs ++ ds) = cs := by
  induction cs with
  | nil => simp
  | cons c cs ih =>
    have hc := c.utf8Size_pos
    obtain ⟨n, hn⟩ : ∃ n, c.utf8Size + byteLength cs = n + 1 := ⟨_, (Nat.succ_pred (by omega)).symm⟩
    rw [byteLength_cons, hn, List.cons_append, takeBytes, ← hn, Nat.add_sub_cancel_left, ih]

/-- The characters between two byte offsets. -/
def slice (start stop : Nat) (cs : List Char) : List Char :=
  takeBytes (stop - start) (dropBytes start cs)

theorem slice_append_append (before middle after : List Char) :
    slice (byteLength before) (byteLength before + byteLength middle) (before ++ middle ++ after) =
      middle := by
  rw [slice, List.append_assoc, dropBytes_byteLength_append, Nat.add_sub_cancel_left,
    takeBytes_byteLength_append]

end FieldRules.Text
