import FieldRules.Json.Written
import FieldRules.Text.Quoted

/-!
# Configuration

Which keys of a field's tag hold its rule, default, message and name, and whether compiled validators are
kept for later requests. `Config.parse?` reads a configuration from JSON text: an object, or the entries in
order as an array. Missing entries keep their defaults, unknown ones are passed over whatever they hold, and a
repeated one is refused.
-/

namespace FieldRules

/-- The keys under which a tag is looked up. -/
structure TagKeys where
  rule : String := "validate"
  default : String := "default"
  message : String := "errMsg"
  name : String := "name"
  deriving DecidableEq, Repr

/-- The configuration of a factory. -/
structure Config where
  tagKeys : TagKeys := {}
  cache : Bool := true
  deriving DecidableEq, Repr

namespace Config

/-- Fills the entries of a record, given in order, from a document. An entry is a name and the way to read
it into what was read before. -/
def readRecord? {α : Type} (entries : List (String × (α → Json.Written → Option α))) (start : α) :
    Json.Written → Option α
  | .object fields => do
    let fields ← Json.Written.named? fields
    if (fields.map (·.1)).any fun n =>
        (entries.map (·.1)).contains n && 1 < (fields.filter (·.1 == n)).length then
      none
    else
      fields.foldlM (fun acc f => match entries.find? (·.1 == f.1) with
        | some entry => entry.2 acc f.2
        | none => some acc) start
  | .array items =>
    if entries.length < items.length then none
    else (entries.zip items).foldlM (fun acc e => e.1.2 acc e.2) start
  | _ => none

/-- Reads a truth value. -/
def bool? : Json.Written → Option Bool
  | .bool b => some b
  | _ => none

/-- The entries of the tag keys. -/
def tagKeyEntries : List (String × (TagKeys → Json.Written → Option TagKeys)) := [
  ("validate", fun k v => v.text?.map fun s => { k with rule := s }),
  ("default", fun k v => v.text?.map fun s => { k with default := s }),
  ("err_msg", fun k v => v.text?.map fun s => { k with message := s }),
  ("name", fun k v => v.text?.map fun s => { k with name := s })]

/-- The entries of a configuration. -/
def entries : List (String × (Config → Json.Written → Option Config)) := [
  ("tag_keys", fun c v => (readRecord? tagKeyEntries {} v).map fun k => { c with tagKeys := k }),
  ("cache", fun c v => (bool? v).map fun b => { c with cache := b })]

/-- Reads a configuration from JSON text. -/
def parse? (text : String) : Option Config :=
  (Json.Written.read? text).bind (readRecord? entries {})

/-- The configuration as a document. -/
def toJson (c : Config) : Json :=
  .object [("cache", .bool c.cache), ("tag_keys", .object [("default", .string c.tagKeys.default),
    ("err_msg", .string c.tagKeys.message), ("name", .string c.tagKeys.name),
    ("validate", .string c.tagKeys.rule)])]

/-- The configuration in logs. -/
def describe (c : Config) : String :=
  "FactoryConfig \x7b tag_keys: TagKeys \x7b validate: " ++ Text.quote c.tagKeys.rule ++ ", default: " ++
    Text.quote c.tagKeys.default ++ ", err_msg: " ++ Text.quote c.tagKeys.message ++ ", name: " ++
    Text.quote c.tagKeys.name ++ " \x7d, cache: " ++ (if c.cache then "true" else "false") ++ " \x7d"

end Config

end FieldRules
