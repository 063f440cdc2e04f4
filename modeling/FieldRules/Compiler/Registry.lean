import FieldRules.Format.Builtin
import FieldRules.Rule.Parser
import FieldRules.Schema.Basic

/-!
# Creators and their registry

A creator gives meaning to the rules under its names. Most name a family of checks or a format; a `derived`
creator stands for a fixed rule, and a `forwarding` one for the rule in its first param. The registry finds
the creator of a name; registering a name again replaces its creator.
-/

namespace FieldRules

/-- What a creator makes of a rule. -/
inductive Creation
  | integer (signed : Bool)
  | float
  | text
  | slice
  | map
  | struct
  | format (f : Format)
  /-- The given rule, on schemas of these kinds. -/
  | derived (kinds : List Kind) (rule : Rule)
  /-- The rule in the first param, except on schemas of these kinds. -/
  | forwarding (refused : List Kind)

/-- A creation and the names of its rules. -/
structure Creator where
  names : List String
  creation : Creation

namespace Creator

/-- The creator of a format. -/
def ofFormat (f : Format) : Creator :=
  ⟨f.names, .format f⟩

/-- The description of a creator that is not a format, in logs. -/
def describe (c : Creator) : String :=
  "FnCreator \x7b names: [" ++ ", ".intercalate (c.names.map Text.quote) ++ "], .. \x7d"

/-- The families of checks. -/
def families : List Creator := [
  ⟨["int", "int8", "int16", "int32", "int64"], .integer true⟩,
  ⟨["uint", "uint8", "uint16", "uint32", "uint64"], .integer false⟩,
  ⟨["float", "float32", "double", "float64"], .float⟩,
  ⟨["string", "char"], .text⟩,
  ⟨["slice"], .slice⟩,
  ⟨["map"], .map⟩,
  ⟨["struct"], .struct⟩]

/-- The rule for even integers. -/
def evenRule : Rule :=
  { Rule.named "int" with values := [["%2"]] }

/-- A rule `@even` for even integers. -/
def even : Creator :=
  ⟨["even"], .derived [.int] evenRule⟩

/-- A rule `@wrap` for the rule in its param. -/
def wrap : Creator :=
  ⟨["wrap", "wrapped"], .forwarding [.bool]⟩

end Creator

/-- Creations by rule name. -/
abbrev Registry := Fields Creation

namespace Registry

/-- No creators. -/
def empty : Registry := []

/-- Registers a creator under all its names. -/
def register (r : Registry) (c : Creator) : Registry :=
  c.names.foldl (fun r name => Fields.set r name c.creation) r

/-- Whether a name is registered. -/
def contains (r : Registry) (name : String) : Bool :=
  (Fields.get? r name).isSome

/-- The families of checks and the formats. -/
def builtin : Registry :=
  (Creator.families ++ Format.builtin.map Creator.ofFormat).foldl register empty

/-- Puts a text before the first one that is not smaller. -/
def insertName (name : String) : List String → List String
  | [] => [name]
  | n :: ns => if n < name then n :: insertName name ns else name :: n :: ns

/-- All names, sorted. -/
def names (r : Registry) : List String :=
  (r.map (·.1)).foldr insertName []

end Registry

end FieldRules
