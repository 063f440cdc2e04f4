import FieldRules.Json.Reader
import FieldRules.Schema.Basic
import FieldRules.Text.Blank

/-!
# Values from text

`Schema.read` reads a default as a value of a schema: by its codec if it has one, numbers and truth values
in their own notation, texts as they are, and composites as JSON.
-/

namespace FieldRules

/-- Why a text is no value of a schema. -/
inductive ReadError
  | invalid (text what : String)
  | notJson (text : String)
  | codec (reason : String)
  deriving DecidableEq, Repr

/-- The wording. -/
def ReadError.message : ReadError → String
  | invalid text what => "`" ++ text ++ "` is not a valid " ++ what
  | notJson text => "`" ++ text ++ "` is not valid JSON: malformed document"
  | codec reason => reason

namespace Schema

/-- The document in a text, as a value. -/
def readJson (text : String) : Except ReadError Value :=
  match Json.parse? text with
  | some doc => .ok (Value.ofJson doc)
  | none => .error (.notJson text)

/-- Reads a text as a value of a shape; around truth values and numbers there may be blanks. -/
def readShape (text : String) : Shape → Except ReadError Value
  | .bool => match String.ofList (Text.trim text.toList) with
    | "true" | "1" => .ok (.bool true)
    | "false" | "0" => .ok (.bool false)
    | _ => .error (.invalid text "bool")
  | .int bits =>
    match Text.readSigned? 64 (Text.trim text.toList) with
    | none => .error (.invalid text "integer")
    | some n =>
      let width := Width.clamp bits
      if Width.minSigned width ≤ n ∧ n ≤ Width.maxSigned width then .ok (.int (Int64.ofInt n))
      else .error (.invalid text ("int" ++ natText bits))
  | .uint bits =>
    match Text.readWord? 64 (Text.trim text.toList) with
    | none => .error (.invalid text "unsigned integer")
    | some n =>
      if n ≤ Width.maxUnsigned (Width.clamp bits) then .ok (.uint (UInt64.ofNat n))
      else .error (.invalid text ("uint" ++ natText bits))
  | .float _ => match Decimal.readFloat? (Text.trim text.toList) with
    | some x => if Decimal.isFinite x then .ok (.float x) else .error (.invalid text "float")
    | none => .error (.invalid text "float")
  | .string => .ok (.string text)
  | .any => match Json.parse? text with
    | some doc => .ok (Value.ofJson doc)
    | none => .ok (.string text)
  | .slice _ | .array .. | .map .. | .struct _ => readJson text
  | .pointer _ => .error (.invalid text "value")

/-- Reads a text as a value of a schema. A codec comes first, that of the schema or of what it points at. -/
def read (s : Schema) (text : String) : Except ReadError Value :=
  match s.codec? <|> s.target.codec? with
  | some codec => (codec.unmarshal text).mapError .codec
  | none => readShape text s.target.shape

end Schema

end FieldRules
