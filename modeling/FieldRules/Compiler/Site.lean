import FieldRules.Compiler.Config
import FieldRules.Compiler.Error
import FieldRules.Compiler.Registry
import FieldRules.Rule.Printer
import FieldRules.Validator.Walk

/-!
# The check that a rule stands for

A rule is compiled at a `Site`: the schema it looks at, with the ways to compile the rules of its items, keys
and fields. `Site.create` makes what a creator stands for, and `Site.inner` follows the params of a rule;
`load` puts the check into a loader. All of it works in any monad with compile errors.
-/

namespace FieldRules

/-- Where a rule is applied. -/
structure Site (m : Type → Type) where
  /-- The schema that the rule looks at. -/
  target : Schema
  /-- Compiles a rule, or the inferred one, for the items; none when nothing is known of them. -/
  item? : Option (Option Rule → m Validator)
  /-- Compiles a rule, or the inferred one, for the keys; none when nothing is known of them. -/
  key? : Option (Option Rule → m Validator)
  /-- Compiles the rules of the fields, reached through the given embedded ones. -/
  fields : List String → m (List FieldCheck)

/-- What the meaning of rules depends on. -/
structure Scope where
  registry : Registry
  keys : TagKeys
  /-- Whether checks that accept everything are left out. -/
  simplifies : Bool := true

/-- The rule that the shape of a schema implies. -/
def Schema.impliedRule (s : Schema) : Rule :=
  match s.codec?, s.target.shape with
  | some _, _ => .named ""
  | none, .struct _ => .named "struct"
  | none, .slice _ => .named "slice"
  | none, .array _ n =>
    { Rule.named "slice" with range := some (.span none (some (natText n)) false false) }
  | none, .map .. => .named "map"
  | none, _ => .named ""

/-- The value of a default, and the value that the check of the rule looks at: with a codec, its text. -/
def readDefault (s : Schema) (text : String) : Except String (Value × Value) :=
  match s.codec? with
  | some codec => do
    let value ← codec.unmarshal text
    return (value, .string (← codec.marshal value))
  | none => do
    let value ← (s.target.read text).mapError ReadError.message
    return (value, value)

/-- The upper bound that an array needs is its length. -/
def checkLength (bounds : Bounds Nat) : Option Nat → Except Defect Unit
  | none => .ok ()
  | some n =>
    if bounds.max = some n ∧ bounds.exclusiveMax = false then .ok () else .error (.arrayLength (natText n))

/-- The rule in a param, none when the param is blank or missing; a literal is refused. -/
def paramRule (params : List Param) (i : Nat) : Except Defect (Option Rule) :=
  match params[i]? with
  | none | some .blank => .ok none
  | some (.rule p) => .ok (some p)
  | some (.literal text) => .error (.paramNotRule text)

section

variable {m : Type → Type} [Monad m] [MonadExceptOf CompileError m]

/-- A rule whose meaning fails for a reason of its own. -/
def orInvalid {α : Type} (r : Rule) : Except Defect α → m α
  | .ok a => pure a
  | .error defect => throw (.invalidRule r.toString defect)

/-- What happens to empty values: a default has to be a value that the check accepts. -/
def emptyPolicy (s : Schema) (inner : Option Validator) (r : Rule) : m EmptyPolicy :=
  match r.presence with
  | .required => pure .refuse
  | .optional => pure .pass
  | .default text => match readDefault s text with
    | .error reason => throw (.invalidDefault r.toString text reason)
    | .ok (value, seen) =>
      let report := match inner with
        | some inner => inner.validate seen
        | none => []
      if report.passes then pure (.fill text value)
      else throw (.invalidDefault r.toString text ("; ".intercalate (report.map Violation.line)))

/-- Puts the check of a rule into a loader. -/
def load (s : Schema) (inner : Option Validator) (r : Rule) (message? : Option String) : m Validator := do
  let onEmpty ← emptyPolicy s inner r
  return .loader { schema := s, inner, onEmpty, message?, codec? := s.codec? }

/-- The rule in a text; a blank text holds none. -/
def readRule (text : String) : m (Option Rule) :=
  if Text.allBlank text.toList then pure none
  else match Rule.parse text with
    | .ok r => pure (some r)
    | .error e => throw (.malformed e)

namespace Site

/-- The site of a schema without parts. -/
def leaf (s : Schema) : Site m where
  target := s
  item? := none
  key? := none
  fields := fun _ => pure []

/-- The site for rules that are put in the place of the rule at a site. The schema that a pointer points at
may have a codec, and then they look at its text. -/
def own (s : Site m) : Site m :=
  if s.target.codec?.isSome then leaf .string else s

/-- Refuses a site that is neither of one of the kinds nor of any kind. -/
def expect (s : Site m) (r : Rule) (kinds : List Kind) : m Unit :=
  if s.target.kind = .any ∨ s.target.kind ∈ kinds then pure ()
  else throw (.wrongType r.toString s.target.name)

/-- Compiles the rule in a param; one that checks nothing is left out. -/
def param (scope : Scope) (compile : Nat → m Validator) (i : Nat) : m (Option Validator) := do
  let v ← compile i
  return if scope.simplifies && v.isNoop then none else some v

/-- The check of a slice: the item rule comes before the bounds. -/
def slice (scope : Scope) (s : Site m) (r : Rule) (item : Nat → m Validator) : m Validator := do
  s.expect r [.slice, .array]
  orInvalid r (Section.refuse r [.values, .pattern])
  if 1 < r.params.length then throw (.invalidRule r.toString .itemParams)
  let item ← param scope item 0
  let bounds ← orInvalid r (Bounds.ofLengths? r.range)
  orInvalid r (checkLength bounds s.target.length?)
  return .slice item bounds s.target.length?

/-- The check of a map: the bounds come before the rules of keys and items. -/
def map (scope : Scope) (s : Site m) (r : Rule) (key item : Nat → m Validator) : m Validator := do
  s.expect r [.map]
  orInvalid r (Section.refuse r [.values, .pattern])
  if 2 < r.params.length then throw (.invalidRule r.toString .entryParams)
  let bounds ← orInvalid r (Bounds.ofLengths? r.range)
  let key ← param scope key 0
  let item ← param scope item 1
  return .map key item bounds

/-- The check of a struct. -/
def struct (s : Site m) (r : Rule) : m Validator := do
  s.expect r [.struct]
  orInvalid r (Section.refuse r [.params, .range, .values, .pattern])
  return .struct (← s.fields [])

/-- The check of a format. -/
def format (s : Site m) (r : Rule) (f : Format) : m Validator := do
  s.expect r [.string]
  orInvalid r (Section.refuse r [.params, .range, .values, .pattern])
  return .format f

/-- What a creator makes of a rule, given the ways to compile the rules in its params for the keys, the items
and the schema itself, and to compile a rule in the place of this one. -/
def create (scope : Scope) (s : Site m) (r : Rule) (key item same : Nat → m Validator)
    (expand : Rule → m Validator) : Creation → m Validator
  | .integer signed => do
    s.expect r [if signed then .int else .uint]
    return .integer (← orInvalid r (IntegerCheck.ofRule? signed r))
  | .float => do
    s.expect r [.float]
    return .float (← orInvalid r (FloatCheck.ofRule? r))
  | .text => do
    s.expect r [.string]
    return .text (← orInvalid r (TextCheck.ofRule? r))
  | .slice => s.slice scope r item
  | .map => s.map scope r key item
  | .struct => s.struct r
  | .format f => s.format r f
  | .derived kinds rule => do
    s.expect r kinds
    expand rule
  | .forwarding refused => do
    if s.target.kind ∈ refused then throw (.wrongType r.toString s.target.name)
    match ← param scope same 0 with
    | some v => return v
    | none => throw (.invalidRule r.toString .nothingToWrap)

mutual

/-- The check that a rule stands for. A rule without a name has none, and one that is inferred and accepts
everything is left out. `expand` compiles a rule, or the inferred one, for a schema at its site. -/
def inner (scope : Scope) (expand : Site m → Schema → Option Rule → m Validator) (s : Site m)
    (inferred : Bool) : Rule → m (Option Validator)
  | ⟨raw, name, params, range, values, pattern, presence⟩ =>
    let r : Rule := ⟨raw, name, params, range, values, pattern, presence⟩
    if name = "" then pure none
    else match Fields.get? scope.registry name with
      | none => throw (.unknownRule name)
      | some creation => do
        let at? (part : Option (Option Rule → m Validator)) (i : Nat) : m Validator :=
          match part with
          | some compile => do compile (← orInvalid r (paramRule params i))
          | none => do (← orInvalid r (nth scope expand (leaf .any) .any params i))
        let same (i : Nat) : m Validator := do (← orInvalid r (nth scope expand s.own s.target params i))
        let anew (rule : Rule) : m Validator := expand s.own s.target (some rule)
        let v ← s.create scope r (at? s.key?) (at? s.item?) same anew creation
        return if scope.simplifies && inferred && v.isVacuous then none else some v

/-- Compiles the rule in a param for a schema at its site, or the inferred one when the param is blank or
missing. -/
def nth (scope : Scope) (expand : Site m → Schema → Option Rule → m Validator) (site : Site m) (s : Schema) :
    List Param → Nat → Except Defect (m Validator)
  | [], _ | .blank :: _, 0 => .ok (expand site s none)
  | .literal text :: _, 0 => .error (.paramNotRule text)
  | .rule r :: _, 0 => .ok do
    let inner ← site.inner scope expand false r
    load s inner r none
  | _ :: params, i + 1 => nth scope expand site s params i

end

end Site

end

end FieldRules
