import FieldRules.Value.Json

/-!
# Text codecs and tests for zero

A `Codec` turns values of an opaque type into text and back; a `ZeroTest` decides which values of a type
count as empty. Both carry an identity, under which types that share one are recognized.
-/

namespace FieldRules

/-- A conversion between values and text, each direction failing with a reason. -/
structure Codec where
  id : String
  marshal : Value → Except String String
  unmarshal : String → Except String Value

/-- A test for values that count as empty. -/
structure ZeroTest where
  id : String
  holds : Value → Bool

namespace Codec

/-- Values that are texts already; null is the empty text. -/
def text : Codec where
  id := "string"
  marshal
    | .string s => .ok s
    | .null => .ok ""
    | v => .error ("expected text, got " ++ v.kindName)
  unmarshal s := .ok (.string s)

/-- The text of any value, ASCII letters in upper case. -/
def upper : Codec where
  id := "upper"
  marshal v := .ok (String.ofList (v.toString.toList.map Char.toUpper))
  unmarshal s := .ok (.string s)

/-- Signed integers of 64 bits in decimal. -/
def integer : Codec where
  id := "int"
  marshal
    | .int n => .ok (String.ofList (Text.integer n.toInt))
    | v => .error ("not an int: " ++ v.kindName)
  unmarshal s := match Text.readSigned? 64 s.toList with
    | some n => .ok (.int (Int64.ofInt n))
    | none => .error ("bad int text " ++ s)

/-- The codec with this identity. -/
def ofId? (id : String) : Option Codec :=
  [text, upper, integer].find? (·.id == id)

end Codec

namespace ZeroTest

/-- The signed integer minus one. -/
def minusOne : ZeroTest where
  id := "neg1"
  holds
    | .int n => n == -1
    | _ => false

/-- No value. -/
def never : ZeroTest where
  id := "never"
  holds _ := false

/-- Null alone. -/
def null : ZeroTest where
  id := "nil"
  holds
    | .null => true
    | _ => false

/-- A lone hyphen. -/
def dash : ZeroTest where
  id := "dash"
  holds
    | .string s => s == "-"
    | _ => false

/-- The test with this identity. -/
def ofId? (id : String) : Option ZeroTest :=
  [minusOne, never, null, dash].find? (·.id == id)

end ZeroTest

end FieldRules
