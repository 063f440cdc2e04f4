import FieldRules.Json.Written

/-!
# Reading JSON text

`parse?` reads a document, values its numbers and strings, and sorts the fields of its objects.
-/

namespace FieldRules.Json

/-- Nesting as deep as this is refused. -/
def maxDepth : Nat := 128

mutual

/-- The document that is written, with at most so many arrays and objects inside one another. -/
def Written.value? (depth : Nat) : Written → Option Json
  | .null => some .null
  | .bool b => some (.bool b)
  | .number p => p.value?
  | .string raw => (resolve? raw).map .string
  | .array items => match depth with
    | 0 => none
    | depth + 1 => (Written.itemValues? depth items).map .array
  | .object fields => match depth with
    | 0 => none
    | depth + 1 => (Written.fieldValues? depth fields).map fun fs => .object (ofFields fs)

/-- The items that are written. -/
def Written.itemValues? (depth : Nat) : List Written → Option (List Json)
  | [] => some []
  | v :: vs => do
    let v ← v.value? depth
    return v :: (← Written.itemValues? depth vs)

/-- The fields that are written. -/
def Written.fieldValues? (depth : Nat) : List (List Char × Written) → Option (List (String × Json))
  | [] => some []
  | (raw, v) :: fs => do
    let name ← resolve? raw
    let v ← v.value? depth
    return (name, v) :: (← Written.fieldValues? depth fs)

end

/-- The document that a text denotes. -/
def parse? (text : String) : Option Json :=
  (Written.read? text).bind (·.value? (maxDepth - 1))

end FieldRules.Json
