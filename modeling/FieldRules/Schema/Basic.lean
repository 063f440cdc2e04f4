import FieldRules.Schema.Codec
import FieldRules.Schema.Tag

/-!
# Schemas

A schema describes the values that a rule is meant for: their shape, an optional name, and for opaque
types a codec or a test for zero of their own. Two schemas may share a name.
-/

namespace FieldRules

mutual

/-- The description of a type of values. -/
structure Schema where
  shape : Shape
  /-- The name that replaces the one derived from the shape. -/
  alias? : Option String
  codec? : Option Codec
  zeroTest? : Option ZeroTest

/-- The shapes of values; numbers carry their width in bits. -/
inductive Shape
  | bool
  | int (bits : Nat)
  | uint (bits : Nat)
  | float (bits : Nat)
  | string
  | slice (item : Schema)
  | array (item : Schema) (length : Nat)
  | map (key item : Schema)
  | struct (fields : List Field)
  | pointer (target : Schema)
  | any

/-- A field of a struct. An embedded one stands for the fields of its own struct. -/
structure Field where
  name : String
  schema : Schema
  tag : Tag
  embedded : Bool

end

/-- The kinds of shapes. -/
inductive Kind
  | bool
  | int
  | uint
  | float
  | string
  | slice
  | array
  | map
  | struct
  | pointer
  | any
  deriving DecidableEq, Repr

namespace Kind

/-- The name of a kind. -/
def name : Kind → String
  | bool => "bool"
  | int => "int"
  | uint => "uint"
  | float => "float"
  | string => "string"
  | slice => "slice"
  | array => "array"
  | map => "map"
  | struct => "struct"
  | pointer => "pointer"
  | any => "any"

/-- The name of a kind, capitalized. -/
def title (k : Kind) : String :=
  match k.name.toList with
  | [] => ""
  | c :: cs => String.ofList (c.toUpper :: cs)

end Kind

namespace Shape

/-- The kind of a shape. -/
def kind : Shape → Kind
  | bool => .bool
  | int _ => .int
  | uint _ => .uint
  | float _ => .float
  | string => .string
  | slice _ => .slice
  | array .. => .array
  | map .. => .map
  | struct _ => .struct
  | pointer _ => .pointer
  | any => .any

end Shape

namespace Schema

/-- A schema with a shape and nothing else. -/
def ofShape (shape : Shape) : Schema where
  shape := shape
  alias? := none
  codec? := none
  zeroTest? := none

def bool : Schema := ofShape .bool
def int (bits : Nat) : Schema := ofShape (.int bits)
def uint (bits : Nat) : Schema := ofShape (.uint bits)
def float (bits : Nat) : Schema := ofShape (.float bits)
def string : Schema := ofShape .string
def any : Schema := ofShape .any
def slice (item : Schema) : Schema := ofShape (.slice item)
def array (item : Schema) (length : Nat) : Schema := ofShape (.array item length)
def map (key item : Schema) : Schema := ofShape (.map key item)
def pointer (target : Schema) : Schema := ofShape (.pointer target)

instance : Inhabited Schema := ⟨any⟩

/-- The schema under another name. -/
def named (s : Schema) (name : String) : Schema :=
  { s with alias? := some name }

/-- A struct with a name. -/
def struct (name : String) (fields : List Field) : Schema :=
  (ofShape (.struct fields)).named name

/-- The schema with a codec. -/
def withCodec (s : Schema) (codec : Codec) : Schema :=
  { s with codec? := some codec }

/-- The schema with its own test for zero. -/
def withZeroTest (s : Schema) (test : ZeroTest) : Schema :=
  { s with zeroTest? := some test }

/-- The kind of a schema. -/
def kind (s : Schema) : Kind :=
  s.shape.kind

/-- What the pointers of a schema point at in the end. -/
def target : Schema → Schema
  | ⟨.pointer t, _, _, _⟩ => target t
  | s => s

/-- The items of a list or map, or what a pointer points at. -/
def item? (s : Schema) : Option Schema :=
  match s.shape with
  | .slice t | .array t _ | .map _ t | .pointer t => some t
  | _ => none

/-- The keys of a map. -/
def key? (s : Schema) : Option Schema :=
  match s.shape with
  | .map k _ => some k
  | _ => none

/-- The length of an array. -/
def length? (s : Schema) : Option Nat :=
  match s.shape with
  | .array _ n => some n
  | _ => none

/-- The width of a number. -/
def bits? (s : Schema) : Option Nat :=
  match s.shape with
  | .int b | .uint b | .float b => some b
  | _ => none

/-- The fields of a struct. -/
def fields (s : Schema) : List Field :=
  match s.shape with
  | .struct fs => fs
  | _ => []

/-- Whether a value counts as zero: by the test of the schema, or else of the value itself. -/
def isZero (s : Schema) (v : Value) : Bool :=
  match s.zeroTest? with
  | some test => test.holds v
  | none => v.isZero

end Schema

/-- A number as text. -/
def natText (n : Nat) : String :=
  String.ofList (Text.digits n)

mutual

/-- The name of a schema: its own, or else one derived from its shape. -/
def Schema.name : Schema → String
  | ⟨_, some name, _, _⟩ => name
  | ⟨shape, none, _, _⟩ => shape.name

/-- The name derived from a shape. -/
def Shape.name : Shape → String
  | .bool => "bool"
  | .int bits => "int" ++ natText bits
  | .uint bits => "uint" ++ natText bits
  | .float bits => "float" ++ natText bits
  | .string => "string"
  | .slice item => "[]" ++ item.name
  | .array item length => "[" ++ natText length ++ "]" ++ item.name
  | .map key item => "map[" ++ key.name ++ "]" ++ item.name
  | .struct fields => "struct \x7b " ++ "; ".intercalate (Field.signatures fields) ++ " \x7d"
  | .pointer target => "*" ++ target.name
  | .any => "any"

/-- The names of fields, each with the name of its schema. -/
def Field.signatures : List Field → List String
  | [] => []
  | ⟨name, schema, _, _⟩ :: rest => (name ++ " " ++ schema.name) :: Field.signatures rest

end

namespace Schema

/-- The characters of a reversed text up to its first pair of colons, in front of those given. -/
def beforeColons (acc : List Char) : List Char → List Char
  | ':' :: ':' :: _ => acc
  | c :: rest => beforeColons (c :: acc) rest
  | [] => acc

/-- The name without the path in front of it. -/
def shortName (s : Schema) : String :=
  String.ofList (beforeColons [] s.name.toList.reverse)

/-- The description of a schema in logs. -/
def describe (s : Schema) : String :=
  "Type \x7b name: " ++ Text.quote s.name ++ ", kind: " ++ s.kind.title ++ ", text_codec: " ++
    (if s.codec?.isSome then "true" else "false") ++ " \x7d"

end Schema

namespace Field

/-- A field without annotations. -/
def plain (name : String) (schema : Schema) : Field where
  name := name
  schema := schema
  tag := {}
  embedded := false

/-- An embedded field, named for what it embeds. -/
def embedding (schema : Schema) : Field where
  name := schema.target.shortName
  schema := schema
  tag := {}
  embedded := true

/-- The field with a tag. -/
def withTag (f : Field) (tag : Tag) : Field :=
  { f with tag }

/-- The field with a rule. -/
def withRule (f : Field) (rule : String) : Field :=
  { f with tag := f.tag.withEntry "validate" rule }

end Field

end FieldRules
