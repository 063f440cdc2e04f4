import FieldRules.Json.Escape

/-!
# Documents as they are written

A `Written` document is the tree of a JSON text before anything in it has got a value: numbers are kept in
parts, strings with their escapes, and the fields of an object in order. So a part that nobody asks for may
hold numbers out of range and halves of pairs. `Written.read?` reads a text token by token; arrays and objects
that are still open wait on a stack.
-/

namespace FieldRules.Json

/-- A document without its values. -/
inductive Written
  | null
  | bool (b : Bool)
  | number (p : NumberParts)
  | string (raw : List Char)
  | array (items : List Written)
  | object (fields : List (List Char × Written))

namespace Written

/-- An open array or object, with what it holds so far, the last first, and the name of the field ahead. -/
inductive Open
  | array (items : List Written)
  | object (fields : List (List Char × Written)) (name : List Char)

/-- What can come next. -/
inductive Ahead
  /-- A value. -/
  | value
  /-- A value, or the end of an array that is still empty. -/
  | firstItem
  /-- The name of a field. -/
  | name (fields : List (List Char × Written))
  /-- The name of a field, or the end of an object that is still empty. -/
  | firstName
  /-- The colon behind a name. -/
  | colon (fields : List (List Char × Written)) (name : List Char)
  /-- What follows a value. -/
  | next (v : Written)

/-- Closes the innermost array or object behind a value, or goes on to its next member. -/
def follow (stack : List Open) (v : Written) : Token → Option (List Open × Ahead)
  | .comma => match stack with
    | .array items :: outer => some (.array (v :: items) :: outer, .value)
    | .object fields name :: outer => some (outer, .name ((name, v) :: fields))
    | [] => none
  | .endArray => match stack with
    | .array items :: outer => some (outer, .next (.array (v :: items).reverse))
    | _ => none
  | .endObject => match stack with
    | .object fields name :: outer => some (outer, .next (.object ((name, v) :: fields).reverse))
    | _ => none
  | _ => none

/-- Reads the start of a value. -/
def begin? (stack : List Open) : Token → Option (List Open × Ahead)
  | .beginArray => some (.array [] :: stack, .firstItem)
  | .beginObject => some (stack, .firstName)
  | .null => some (stack, .next .null)
  | .bool b => some (stack, .next (.bool b))
  | .number p => some (stack, .next (.number p))
  | .string raw => some (stack, .next (.string raw))
  | _ => none

/-- Reads a token. -/
def advance? (stack : List Open) : Ahead → Token → Option (List Open × Ahead)
  | .value, t => begin? stack t
  | .firstItem, .endArray => match stack with
    | .array _ :: outer => some (outer, .next (.array []))
    | _ => none
  | .firstItem, t => begin? stack t
  | .name fields, .string raw => some (stack, .colon fields raw)
  | .firstName, .string raw => some (stack, .colon [] raw)
  | .firstName, .endObject => some (stack, .next (.object []))
  | .colon fields name, .colon => some (.object fields name :: stack, .value)
  | .next v, t => follow stack v t
  | _, _ => none

/-- Reads the tokens ahead. -/
def run : List Open → Ahead → List Token → Option Written
  | [], .next v, [] => some v
  | _, _, [] => none
  | stack, ahead, t :: ts => do
    let (stack, ahead) ← advance? stack ahead t
    run stack ahead ts

/-- The document that a text holds. -/
def read? (text : String) : Option Written := do
  run [] .value (← scan [] .between text.toList)

/-- The number in a document. -/
def number? : Written → Option Json
  | number p => p.value?
  | _ => none

/-- The text in a document. -/
def text? : Written → Option String
  | string raw => resolve? raw
  | _ => none

/-- The fields of an object under their names. -/
def named? (fields : List (List Char × Written)) : Option (List (String × Written)) :=
  fields.mapM fun (raw, v) => do return (← resolve? raw, v)

end Written

end FieldRules.Json
