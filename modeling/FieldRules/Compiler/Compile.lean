import FieldRules.Compiler.Key
import FieldRules.Compiler.Site

/-!
# Compiling rules

`Schema.compile` compiles a rule, or the one that the schema implies, and follows the schema down to its
fields, where rules come from tags. `Env.memo` sees every request with the key under which requests are the
same, which is where a cache comes in; `compile` is the plain compiler without one.
-/

namespace FieldRules

/-- What compiling depends on. -/
structure Env (m : Type → Type) extends Scope where
  /-- Sees a request: its key, and the way to answer it. -/
  memo : RequestKey → m Validator → m Validator

section

variable {m : Type → Type} [Monad m] [MonadExceptOf CompileError m]

/-- Compiles a rule, or the inferred one, for a schema whose site is given. The number bounds how often rules
may be put in the place of rules. -/
def Site.compile (scope : Scope) : Nat → Site m → Schema → Option Rule → List Modifier → m Validator
  | 0, _, s, rule, _ => throw (.invalidRule (rule.getD s.impliedRule).toString .endlessExpansion)
  | n + 1, site, s, rule, mods => do
    let implied : Rule := { s.impliedRule with presence := .optional }
    let r := mods.foldl Modifier.apply (rule.getD implied)
    let expand (site : Site m) (s : Schema) (rule : Option Rule) : m Validator :=
      Site.compile scope n site s rule []
    load s (← site.inner scope expand rule.isNone r) r (Modifier.message? mods)

/-- Compiles a rule at the site of a schema. Rules that stand for rules have creators of their own, so a
chain of them without end has more steps than there are creators. -/
def Env.compileAt (env : Env m) (site : Site m) (s : Schema) (rule : Option Rule) (mods : List Modifier) :
    m Validator :=
  Site.compile env.toScope (env.registry.length + 2) site s rule mods

/-- Answers a request: reads the rule text, and compiles what it holds. -/
def Env.request (env : Env m) (rule : String) (s : Schema) (mods : List Modifier)
    (compile : Option Rule → m Validator) : m Validator :=
  env.memo (requestKey rule s mods) do compile (← readRule rule)

/-- Reports the errors of a field under its name. -/
def inField {α : Type} (name : String) (x : m α) : m α :=
  tryCatch x fun e => throw (CompileError.inField name e)

namespace Field

/-- Whether a tag hides its field. -/
def isHidden (keys : TagKeys) (tag : Tag) : Bool :=
  tag.get? keys.name == some "-"

/-- The rule text in a tag. -/
def ruleText (keys : TagKeys) (tag : Tag) : String :=
  (tag.get? keys.rule).getD ""

/-- The modifiers in a tag. -/
def modifiers (keys : TagKeys) (tag : Tag) : List Modifier :=
  ((tag.get? keys.default).map Modifier.default).toList ++
    ((tag.get? keys.message).map Modifier.message).toList

/-- Whether the fields of an embedded struct are checked as fields of the struct around it: the tag must not
say anything of the field itself. -/
def isFlattened (keys : TagKeys) (f : Field) : Bool :=
  f.embedded && (ruleText keys f.tag).isEmpty && (modifiers keys f.tag).isEmpty &&
    (f.tag.get? keys.name).isNone && f.schema.target.kind == .struct

end Field

mutual

/-- Compiles a rule, or the inferred one, for a schema. A codec hides what is below it: the rule looks at
text. -/
def Schema.compile (env : Env m) : Schema → Option Rule → List Modifier → m Validator
  | ⟨shape, alias?, some codec, test⟩, rule, mods =>
    env.compileAt (.leaf .string) ⟨shape, alias?, some codec, test⟩ rule mods
  | ⟨shape, alias?, none, test⟩, rule, mods =>
    env.compileAt (shape.site env ⟨shape, alias?, none, test⟩) ⟨shape, alias?, none, test⟩ rule mods

/-- The site of a schema. -/
def Schema.site (env : Env m) : Schema → Site m
  | ⟨shape, alias?, codec?, test⟩ => shape.site env ⟨shape, alias?, codec?, test⟩

/-- The site of a schema with this shape; a pointer has the site of what it points at. -/
def Shape.site (env : Env m) (s : Schema) : Shape → Site m
  | .pointer target => target.site env
  | .slice item | .array item _ =>
    { Site.leaf s with item? := some fun rule => item.compile env rule [] }
  | .map key item =>
    { Site.leaf s with
      key? := some fun rule => key.compile env rule []
      item? := some fun rule => item.compile env rule [] }
  | .struct fields => { Site.leaf s with fields := Field.compileAll env fields }
  | _ => Site.leaf s

/-- Compiles the rules of fields, reached through the given embedded ones. -/
def Field.compileAll (env : Env m) : List Field → List String → m (List FieldCheck)
  | [], _ => pure []
  | ⟨name, schema, tag, embedded⟩ :: rest, access => do
    if Field.isHidden env.keys tag then
      Field.compileAll env rest access
    else if Field.isFlattened env.keys ⟨name, schema, tag, embedded⟩ then
      let checks ← inField name ((schema.site env).fields (access ++ [name]))
      return checks ++ (← Field.compileAll env rest access)
    else
      let mods := Field.modifiers env.keys tag
      let v ← inField name
        (env.request (Field.ruleText env.keys tag) schema mods fun rule => schema.compile env rule mods)
      let checks ← Field.compileAll env rest access
      return if env.simplifies && v.isNoop then checks
        else ⟨access, name, (tag.get? env.keys.name).getD name, v⟩ :: checks

end

/-- Compiles a rule text for a schema. -/
def Env.compile (env : Env m) (rule : String) (s : Schema) (mods : List Modifier) : m Validator :=
  env.request rule s mods fun r => s.compile env r mods

end

/-- The compiler without a cache. -/
def compile (registry : Registry) (keys : TagKeys) (rule : String) (s : Schema) (mods : List Modifier) :
    Except CompileError Validator :=
  Env.compile { registry, keys, memo := fun _ answer => answer } rule s mods

end FieldRules
