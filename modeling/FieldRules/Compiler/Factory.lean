import FieldRules.Compiler.Compile

/-!
# Factories

A factory holds creators, a configuration, and the validators of requests that it has answered before, under the texts
of their keys. It answers a request whose key it knows with the validator it gave then; registering a creator forgets
them all.
-/

namespace FieldRules

/-- Validators by the keys of their requests, written out. -/
abbrev Cache := List (String × Validator)

/-- A compiler that remembers its answers. -/
structure Factory where
  registry : Registry
  config : Config := {}
  addresses : Addresses := default
  cache : Cache := []

namespace Factory

/-- A computation that may add to a cache, also when it fails in the end. -/
abbrev Cached := ExceptT CompileError (StateM Cache)

/-- Answers a request from the cache, or else adds the answer to it. -/
def remember (a : Addresses) (key : RequestKey) (answer : Cached Validator) : Cached Validator := do
  let text := key.text a
  match (← get).lookup text with
  | some v => return v
  | none =>
    let v ← answer
    modify fun cache => (text, v) :: cache.filter fun e => e.1 ≠ text
    return v

/-- A factory without creators. -/
def empty (config : Config) (addresses : Addresses := default) : Factory :=
  { registry := .empty, config, addresses }

/-- A factory with the families of checks and the formats. -/
def builtin (config : Config) (addresses : Addresses := default) : Factory :=
  { registry := .builtin, config, addresses }

/-- Registers a creator. -/
def register (f : Factory) (c : Creator) : Factory :=
  { f with registry := f.registry.register c, cache := [] }

/-- Forgets all answers. -/
def clear (f : Factory) : Factory :=
  { f with cache := [] }

/-- Whether a rule name is registered. -/
def contains (f : Factory) (name : String) : Bool :=
  f.registry.contains name

/-- How many answers are remembered. -/
def cachedCount (f : Factory) : Nat :=
  f.cache.length

/-- Compiles a rule text for a schema, by way of the cache when it is on. -/
def compile (f : Factory) (rule : String) (s : Schema) (mods : List Modifier) :
    Except CompileError Validator × Factory :=
  if f.config.cache then
    let env : Env Cached := { registry := f.registry, keys := f.config.tagKeys, memo := remember f.addresses }
    let (answer, cache) := (env.compile rule s mods).run.run f.cache
    (answer, { f with cache })
  else
    (FieldRules.compile f.registry f.config.tagKeys rule s mods, f)

/-- Fills the defaults that a schema declares into a value. -/
def applyDefaults (f : Factory) (s : Schema) (v : Value) :
    Except CompileError (Report × Value) × Factory :=
  let (answer, f) := f.compile "" s []
  (answer.map (·.fill v), f)

/-- The factory in logs. -/
def describe (f : Factory) : String :=
  "Factory \x7b creators: [" ++ ", ".intercalate (f.registry.names.map Text.quote) ++ "], cached: " ++
    natText f.cachedCount ++ ", config: " ++ f.config.describe ++ " \x7d"

end Factory

end FieldRules
