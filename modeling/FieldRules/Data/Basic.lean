import FieldRules.Decimal.Reader
import FieldRules.Schema.Basic
import FieldRules.Value.Json

/-!
# Plain data

The types of plain data and the data of these types. A type has a schema (`DataType.schema`); a datum is
lowered to a value (`Datum.toValue`) or written as a document (`Datum.toJson`). Single precision is where
the two differ: as a value a number keeps its shortest decimal text, as a document its exact size.
-/

namespace FieldRules

/-- The types of plain data. Numbers carry their width in bits; a word has the width of the machine and a name
without it. -/
inductive DataType
  | bool
  | int (bits : Nat)
  | uint (bits : Nat)
  | word (signed : Bool)
  | single
  | double
  | string
  | list (item : DataType)
  | array (item : DataType) (length : Nat)
  | optional (target : DataType)
  | boxed (target : DataType)
  | map (key item : DataType) (isSorted : Bool)
  | record (name : String) (fields : List (String × DataType × String))

/-- A piece of plain data. -/
inductive Datum
  | null
  | bool (b : Bool)
  | int (n : Int64)
  | uint (n : UInt64)
  | single (x : Float32)
  | double (x : Float)
  | string (s : String)
  | list (items : List Datum)
  | map (entries : List (Datum × Datum))
  | record (fields : List (String × Datum))

namespace DataType

mutual

/-- The schema of a type. -/
def schema : DataType → Schema
  | bool => .bool
  | int bits => .int bits
  | uint bits => .uint bits
  | word true => (Schema.int 64).named "int"
  | word false => (Schema.uint 64).named "uint"
  | single => .float 32
  | double => .float 64
  | string => .string
  | list item => .slice item.schema
  | array item length => .array item.schema length
  | optional target | boxed target => .pointer target.schema
  | map key item _ => .map key.schema item.schema
  | record name fields => .struct name (fieldSchemas fields)

/-- The fields of a record: name, type and rule. -/
def fieldSchemas : List (String × DataType × String) → List Field
  | [] => []
  | (name, type, rule) :: rest => (Field.plain name type.schema).withRule rule :: fieldSchemas rest

end

/-- Whether values of a type have no parts. -/
def isScalar : DataType → Bool
  | bool | int _ | uint _ | word _ | single | double | string => true
  | _ => false

end DataType

namespace Datum

/-- A number of single precision as a value: the number nearest to its shortest decimal text. -/
def widen (x : Float32) : Float :=
  (Decimal.readFloat? (Decimal.plainText (Decimal.classify32 x))).getD x.toFloat

mutual

/-- A datum as a value. -/
def toValue : Datum → Value
  | null => .null
  | bool b => .bool b
  | int n => .int n
  | uint n => .uint n
  | single x => .float (widen x)
  | double x => .float x
  | string s => .string s
  | list items => .list (itemValues items)
  | map entries => .map (entryValues entries)
  | record fields => .ofAssignments (fieldValues fields)

/-- Items as values. -/
def itemValues : List Datum → List Value
  | [] => []
  | d :: ds => d.toValue :: itemValues ds

/-- Entries as values. -/
def entryValues : List (Datum × Datum) → List (Value × Value)
  | [] => []
  | (k, d) :: es => (k.toValue, d.toValue) :: entryValues es

/-- Fields as values. -/
def fieldValues : List (String × Datum) → List (String × Value)
  | [] => []
  | (n, d) :: fs => (n, d.toValue) :: fieldValues fs

end

/-- The text of a key in a document. -/
def keyText (d : Datum) : String :=
  d.toValue.toString

/-- A floating-point number in a document; one that is not finite is null. -/
def floatJson (x : Float) : Json :=
  if Decimal.isFinite x then .float x else .null

mutual

/-- A datum as a document. -/
def toJson : Datum → Json
  | null => .null
  | bool b => .bool b
  | int n => .integer n.toInt
  | uint n => .integer n.toNat
  | single x => floatJson x.toFloat
  | double x => floatJson x
  | string s => .string s
  | list items => .array (itemDocuments items)
  | map entries => .object (Json.ofFields (entryDocuments entries))
  | record fields => .object (Json.ofFields (fieldDocuments fields))

/-- Items as documents. -/
def itemDocuments : List Datum → List Json
  | [] => []
  | d :: ds => d.toJson :: itemDocuments ds

/-- Entries as fields of a document. -/
def entryDocuments : List (Datum × Datum) → List (String × Json)
  | [] => []
  | (k, d) :: es => (k.keyText, d.toJson) :: entryDocuments es

/-- Fields as fields of a document. -/
def fieldDocuments : List (String × Datum) → List (String × Json)
  | [] => []
  | (n, d) :: fs => (n, d.toJson) :: fieldDocuments fs

end

end Datum

end FieldRules
