import FieldRules.Json.Printer
import FieldRules.Value.Basic

/-!
# Values and JSON

`toJson` forgets what JSON cannot say: maps and structs become objects with sorted fields, and numbers
that are not finite become null. `ofJson` reads a document as a value: an integer is signed where it fits
64 bits with a sign. `toString` is the text of a value in messages.
-/

namespace FieldRules.Value

/-- The text of a value whose document is given: scalars as such, composites as JSON text. -/
def textVia (doc : Json) : Value → String
  | null => "null"
  | bool b => if b then "true" else "false"
  | int n => String.ofList (Text.integer n.toInt)
  | uint n => String.ofList (Text.digits n.toNat)
  | float x => Decimal.plain x
  | string s => s
  | _ => doc.toString

mutual

/-- The document of a value. -/
def toJson : Value → Json
  | null => .null
  | bool b => .bool b
  | int n => .integer n.toInt
  | uint n => .integer n.toNat
  | float x => if Decimal.isFinite x then .float x else .null
  | string s => .string s
  | list items => .array (itemsToJson items)
  | map entries => .object (Json.ofFields (entriesToJson entries))
  | struct fields => .object (Json.ofFields (fieldsToJson fields))

/-- The documents of items. -/
def itemsToJson : List Value → List Json
  | [] => []
  | v :: vs => toJson v :: itemsToJson vs

/-- The fields for the entries of a map, each under the text of its key. -/
def entriesToJson : List (Value × Value) → List (String × Json)
  | [] => []
  | (k, v) :: es => (textVia (toJson k) k, toJson v) :: entriesToJson es

/-- The fields for the fields of a struct. -/
def fieldsToJson : List (String × Value) → List (String × Json)
  | [] => []
  | (n, v) :: fs => (n, toJson v) :: fieldsToJson fs

end

/-- The text of a value. -/
protected def toString (v : Value) : String :=
  textVia v.toJson v

/-- An integer as a value: signed if it fits, else unsigned. -/
def ofInteger (n : Int) : Value :=
  if n ≤ Width.maxSigned 64 then int (Int64.ofInt n) else uint (UInt64.ofNat n.toNat)

mutual

/-- The value of a document. -/
def ofJson : Json → Value
  | .null => null
  | .bool b => bool b
  | .integer n => ofInteger n
  | .float x => float x
  | .string s => string s
  | .array items => list (itemsOfJson items)
  | .object fields => struct (fieldsOfJson fields)

/-- The values of items. -/
def itemsOfJson : List Json → List Value
  | [] => []
  | v :: vs => ofJson v :: itemsOfJson vs

/-- The fields of an object. -/
def fieldsOfJson : List (String × Json) → List (String × Value)
  | [] => []
  | (n, v) :: fs => (n, ofJson v) :: fieldsOfJson fs

end

end FieldRules.Value
