import FieldRules.Data.Basic
import FieldRules.Json.Written
import FieldRules.Schema.Literal

/-!
# Reading plain data

Scalars are read from their own notation (`DataType.readText?`), everything from a document
(`DataType.ofWritten?`). The keys of a map are read from the names in an object; a sorted map puts them in
order, another keeps the order in which they first came. Fields that a record does not have are passed over
whatever they hold.
-/

namespace FieldRules.DataType

/-- An integer that fits a width. -/
def signed? (bits : Nat) (n : Int) : Option Datum :=
  if Width.minSigned bits ≤ n ∧ n ≤ Width.maxSigned bits then some (.int (Int64.ofInt n)) else none

/-- A natural number that fits a width. -/
def unsigned? (bits : Nat) (n : Int) : Option Datum :=
  if 0 ≤ n ∧ n ≤ Width.maxUnsigned bits then some (.uint (UInt64.ofNat n.toNat)) else none

/-- The number in a text without a sign of minus. -/
def readNatural? (text : String) : Option Int :=
  (Text.readNat? text.toList).map Int.ofNat

/-- Reads a scalar from text; composites have no notation of their own. -/
def readText? (text : String) : DataType → Option Datum
  | bool => match text with
    | "true" => some (.bool true)
    | "false" => some (.bool false)
    | _ => none
  | int bits => (Text.readInt? text.toList).bind (signed? bits)
  | uint bits => (readNatural? text).bind (unsigned? bits)
  | word true => (Text.readInt? text.toList).bind (signed? 64)
  | word false => (readNatural? text).bind (unsigned? 64)
  | single => (Decimal.readFloat32? text.toList).map .single
  | double => (Decimal.readFloat? text.toList).map .double
  | string => some (.string text)
  | _ => none

/-- The integer in a document. -/
def integer? (doc : Json.Written) : Option Int :=
  match doc.number? with
  | some (.integer n) => some n
  | _ => none

/-- The number in a document, whatever its form. -/
def float? (doc : Json.Written) : Option Float :=
  match doc.number? with
  | some (.integer n) => some (Float.ofInt n)
  | some (.float x) => some x
  | _ => none

/-- Reads the name of a field as a key: a text, or an integer in the notation for numbers. -/
def readKey? (raw : List Char) : DataType → Option Datum
  | string => (Json.resolve? raw).map .string
  | int bits => do signed? bits (← integer? (.number (← Json.readParts? raw)))
  | uint bits => do unsigned? bits (← integer? (.number (← Json.readParts? raw)))
  | _ => none

/-- The order of keys in a sorted map. -/
def keyBefore : Datum → Datum → Bool
  | .int a, .int b => a < b
  | .uint a, .uint b => a < b
  | .string a, .string b => a < b
  | _, _ => false

/-- Puts an entry in its place among sorted ones; one under the same name is replaced. -/
def insertSorted (e : String × Datum × Datum) :
    List (String × Datum × Datum) → List (String × Datum × Datum)
  | [] => [e]
  | f :: rest =>
    if keyBefore e.2.1 f.2.1 then e :: f :: rest
    else if f.1 = e.1 then e :: rest
    else f :: insertSorted e rest

/-- The entries of a map, given in order; the last of several under one name counts. -/
def arrange (isSorted : Bool) (entries : List (String × Datum × Datum)) : List (Datum × Datum) :=
  if isSorted then (entries.foldl (fun acc e => insertSorted e acc) []).map (·.2)
  else (Fields.ofAssignments entries).map (·.2)

mutual

/-- Reads a document. A record is an object, or the list of its fields in order. -/
def ofWritten? : DataType → Json.Written → Option Datum
  | bool, .bool b => some (.bool b)
  | int bits, doc => (integer? doc).bind (signed? bits)
  | uint bits, doc => (integer? doc).bind (unsigned? bits)
  | word true, doc => (integer? doc).bind (signed? 64)
  | word false, doc => (integer? doc).bind (unsigned? 64)
  | single, doc => (float? doc).map fun x => .single x.toFloat32
  | double, doc => (float? doc).map .double
  | string, doc => doc.text?.map .string
  | list item, .array items => (items.mapM fun d => item.ofWritten? d).map .list
  | array item length, .array items =>
    if items.length = length then (items.mapM fun d => item.ofWritten? d).map .list else none
  | optional _, .null => some .null
  | optional target, doc => target.ofWritten? doc
  | boxed target, doc => target.ofWritten? doc
  | map key item isSorted, .object fields => do
    let entries ← fields.mapM fun (raw, d) => do
      return (← Json.resolve? raw, ← key.readKey? raw, ← item.ofWritten? d)
    return .map (arrange isSorted entries)
  | record _ fields, .object given => do
    return .record (← fieldsOfObject? fields (← Json.Written.named? given))
  | record _ fields, .array given => (fieldsOfList? fields given).map .record
  | _, _ => none

/-- Reads the fields of a record by name; an optional one may be missing, and none may be repeated. -/
def fieldsOfObject? : List (String × DataType × String) → List (String × Json.Written) →
    Option (List (String × Datum))
  | [], _ => some []
  | (name, type, _) :: rest, given =>
    match given.filter (·.1 == name) with
    | [] => do
      let d ← type.ofWritten? .null
      return (name, d) :: (← fieldsOfObject? rest given)
    | [(_, doc)] => do
      let d ← type.ofWritten? doc
      return (name, d) :: (← fieldsOfObject? rest given)
    | _ => none

/-- Reads the fields of a record by their order. -/
def fieldsOfList? :
    List (String × DataType × String) → List Json.Written → Option (List (String × Datum))
  | [], [] => some []
  | (name, type, _) :: rest, doc :: docs => do
    let d ← type.ofWritten? doc
    return (name, d) :: (← fieldsOfList? rest docs)
  | _, _ => none

end

/-- Reads a piece of data: a scalar from its notation, a composite from JSON text. -/
def read? (type : DataType) (text : String) : Option Datum :=
  if type.isScalar then type.readText? text else (Json.Written.read? text).bind type.ofWritten?

end FieldRules.DataType
