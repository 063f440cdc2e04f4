/-!
# Splitting a text

`split` cuts a text at every occurrence of a separator, and leaves at least one piece (`split_ne_nil`).
-/

namespace FieldRules.Text

/-- The pieces of a text between the occurrences of a separator, at least one. -/
def split (sep : Char) : List Char → List (List Char)
  | [] => [[]]
  | c :: cs =>
    if c = sep then [] :: split sep cs
    else match split sep cs with
      | [] => [[c]]
      | piece :: pieces => (c :: piece) :: pieces

theorem split_ne_nil (sep : Char) (cs : List Char) : split sep cs ≠ [] := by
  cases cs with
  | nil => simp [split]
  | cons c cs =>
    unfold split
    split
    · simp
    · split <;> simp

end FieldRules.Text
