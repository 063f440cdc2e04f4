import FieldRules.Decimal.Binary
import FieldRules.Value.Fields

/-!
# Values

The data that validators look at. A pointer is transparent: nil is `null`, and any other value stands
for itself.
-/

namespace FieldRules

/-- A value. Maps hold entries in order under keys of any kind, structs hold named fields in order. -/
inductive Value
  | null
  | bool (b : Bool)
  | int (n : Int64)
  | uint (n : UInt64)
  | float (x : Float)
  | string (s : String)
  | list (items : List Value)
  | map (entries : List (Value × Value))
  | struct (fields : List (String × Value))

namespace Value

instance : Inhabited Value := ⟨null⟩

/-- A struct value from assignments in order. -/
def ofAssignments (assignments : List (String × Value)) : Value :=
  struct (Fields.ofAssignments assignments)

/-- Null, false, zero, the empty text and the empty list, map and struct. -/
def isZero : Value → Bool
  | null => true
  | bool b => !b
  | int n => n == 0
  | uint n => n == 0
  | float x => Decimal.isZero x
  | string s => s.isEmpty
  | list items => items.isEmpty
  | map entries => entries.isEmpty
  | struct fields => fields.isEmpty

/-- The name of the kind of value. -/
def kindName : Value → String
  | null => "null"
  | bool _ => "bool"
  | int _ => "int"
  | uint _ => "uint"
  | float _ => "float"
  | string _ => "string"
  | list _ => "list"
  | map _ => "map"
  | struct _ => "struct"

/-- The content of a string. -/
def string? : Value → Option String
  | string s => some s
  | _ => none

/-- The content of a field of a struct. -/
def get? : Value → String → Option Value
  | struct fields, name => Fields.get? fields name
  | _, _ => none

end Value

end FieldRules
