import FieldRules.Decimal.Printer
import FieldRules.Json.Basic

/-!
# Writing JSON text

The compact form: no blanks, floating-point numbers with a fraction or an exponent.
-/

namespace FieldRules.Json

/-- One character inside a string. -/
def stringChar (c : Char) : List Char :=
  match c with
  | '"' => ['\\', '"']
  | '\\' => ['\\', '\\']
  | '\n' => ['\\', 'n']
  | '\r' => ['\\', 'r']
  | '\t' => ['\\', 't']
  | c =>
    if c.toNat = 0x08 then ['\\', 'b']
    else if c.toNat = 0x0C then ['\\', 'f']
    else if c.toNat < 0x20 then
      ['\\', 'u', '0', '0', Nat.digitChar (c.toNat / 16), Nat.digitChar (c.toNat % 16)]
    else [c]

/-- A string between quotes. -/
def stringText (s : String) : List Char :=
  '"' :: s.toList.flatMap stringChar ++ ['"']

/-- A floating-point number; those that are not finite have no form and become null. -/
def floatText (x : Float) : List Char :=
  match Decimal.classify x with
  | .finite b => Decimal.write Decimal.scientificLayout b
  | _ => ['n', 'u', 'l', 'l']

mutual

/-- The compact text of a document, as characters. -/
def text : Json → List Char
  | .null => ['n', 'u', 'l', 'l']
  | .bool b => if b then ['t', 'r', 'u', 'e'] else ['f', 'a', 'l', 's', 'e']
  | .integer n => Text.integer n
  | .float x => floatText x
  | .string s => stringText s
  | .array items => '[' :: itemsText items ++ [']']
  | .object fields => '\x7b' :: fieldsText fields ++ ['\x7d']

/-- Items with commas between them. -/
def itemsText : List Json → List Char
  | [] => []
  | [v] => text v
  | v :: vs => text v ++ ',' :: itemsText vs

/-- Fields with commas between them. -/
def fieldsText : List (String × Json) → List Char
  | [] => []
  | [(n, v)] => stringText n ++ ':' :: text v
  | (n, v) :: fs => stringText n ++ ':' :: text v ++ ',' :: fieldsText fs

end

/-- The compact text of a document. -/
protected def toString (v : Json) : String :=
  String.ofList (text v)

end FieldRules.Json
