import FieldRules.Proofs.Compiler.Plain
import FieldRules.Proofs.Compiler.Reachable
import Mathlib.Data.List.Nodup

/-!
# With and without a cache

A factory with its cache on and one with its cache off see the same calls. As long as the texts of keys tell the
requests apart that the calls lead to, also those for fields, no call shows which factory it was made to
(`Factory.outcomes_eq_of_keys`): whatever is in the cache is the answer that would be given anew. Keys do not
tell all requests apart, and then a caller can see the cache (`Factory.outcomes_ne_of_cache`).
-/

namespace FieldRules

/-! ### Outcomes with and without a cache -/

/-- Two outcomes are the same error, or related values. -/
inductive SameEnd {α β : Type} (Q : α → β → Prop) : Except CompileError α → Except CompileError β → Prop
  | error (e : CompileError) : SameEnd Q (.error e) (.error e)
  | ok {a : α} {b : β} (h : Q a b) : SameEnd Q (.ok a) (.ok b)

/-- A compiler with a cache, which has a property and goes on to have it, beside one without. -/
def Lockstep.caching (Inv : Cache → Prop) : Lockstep Factory.Cached (Except CompileError) where
  relates x y Q := ∀ cache, Inv cache → Inv (x.run.run cache).2 ∧ SameEnd Q (x.run.run cache).1 y
  pure h _ hcache := ⟨hcache, .ok h⟩
  bind := by
    intro α β γ δ x y f g P Q hx hf cache hcache
    obtain ⟨hkept, hend⟩ := hx cache hcache
    rw [OutcomeLogic.run_bind_cached]
    generalize x.run.run cache = outcome at hkept hend
    obtain ⟨outcome, cache'⟩ := outcome
    cases hend with
    | error e => exact ⟨hkept, .error e⟩
    | ok h => exact hf _ _ h cache' hkept
  mono := by
    intro α β x y P Q hx hPQ cache hcache
    obtain ⟨hkept, hend⟩ := hx cache hcache
    refine ⟨hkept, ?_⟩
    generalize (x.run.run cache).1 = outcome at hend
    cases hend with
    | error e => exact .error e
    | ok h => exact .ok (hPQ _ _ h)
  throw := fun _ hcache => ⟨hcache, .error _⟩
  tryCatch := by
    intro α β x y f g Q hx hf cache hcache
    obtain ⟨hkept, hend⟩ := hx cache hcache
    rw [OutcomeLogic.run_tryCatch_cached]
    generalize x.run.run cache = outcome at hkept hend
    obtain ⟨outcome, cache'⟩ := outcome
    cases hend with
    | error e => exact hf e cache' hkept
    | ok h => exact ⟨hkept, .ok h⟩

/-- The answer to a request without a cache. -/
def Request.anew (registry : Registry) (keys : TagKeys) (q : Request) : Except CompileError Validator :=
  compile registry keys q.rule q.schema q.mods

/-- Whether the texts of keys tell apart the requests in a list. -/
def KeysTellApart (a : Addresses) (qs : List Request) : Prop :=
  ∀ q ∈ qs, ∀ q' ∈ qs, q.key.text a = q'.key.text a → q = q'

/-- Keys whose texts are pairwise different tell requests apart. -/
private theorem keysTellApart_of_nodup {a : Addresses} {qs : List Request} (h : (qs.map (·.key.chars a)).Nodup) :
    KeysTellApart a qs :=
  fun _ hq _ hq' htext => List.inj_on_of_nodup_map h hq hq' (String.ofList_injective htext)

/-- Whether a cache holds, for each of some requests, nothing but the answer that is given anew. -/
def Cache.Truthful (registry : Registry) (keys : TagKeys) (a : Addresses) (qs : List Request) (cache : Cache) :
    Prop :=
  ∀ e ∈ cache, ∀ q ∈ qs, q.key.text a = e.1 → q.anew registry keys = .ok e.2

namespace Factory

variable {registry : Registry} {keys : TagKeys} {a : Addresses} {qs : List Request}

/-- Remembering keeps a cache truthful, and answers from it are those that are given anew. -/
private theorem agree_remember (hqs : KeysTellApart a qs) {q : Request} (hq : q ∈ qs) {answer : Cached Validator}
    (h : (Lockstep.caching (Cache.Truthful registry keys a qs)).agree answer (q.anew registry keys) fun _ => True) :
    (Lockstep.caching (Cache.Truthful registry keys a qs)).agree (remember a q.key answer) (q.anew registry keys)
      fun _ => True := by
  intro cache hcache
  rw [run_remember]
  split
  next v hlookup =>
    obtain ⟨front, back, rfl, -⟩ := List.lookup_eq_some_iff.1 hlookup
    rw [hcache (q.key.text a, v) (by simp) q hq rfl]
    exact ⟨hcache, .ok ⟨rfl, trivial⟩⟩
  · obtain ⟨hkept, hend⟩ := h cache hcache
    generalize answer.run.run cache = outcome at hkept hend
    obtain ⟨outcome, cache'⟩ := outcome
    generalize hplain : q.anew registry keys = plain at hend
    cases hend with
    | error e => exact ⟨hkept, .error e⟩
    | @ok v _ h =>
      obtain ⟨rfl, -⟩ := h
      refine ⟨List.forall_mem_cons.2 ⟨fun q' hq' hkey => ?_, fun e he => hkept e (List.mem_filter.1 he).1⟩,
        .ok ⟨rfl, trivial⟩⟩
      obtain rfl := hqs q' hq' q hq hkey
      exact hplain

/-- A request to a factory whose cache is on and truthful: the answer is the one that is given anew, and the cache
stays truthful. -/
theorem compile_of_truthful {f : Factory} (hqs : KeysTellApart f.addresses qs) (hon : f.config.cache = true)
    (hcache : f.cache.Truthful f.registry f.config.tagKeys f.addresses qs) {q : Request}
    (hq : ∀ p ∈ q.all f.config.tagKeys, p ∈ qs) :
    (f.compile q.rule q.schema q.mods).1 = q.anew f.registry f.config.tagKeys ∧
      (f.compile q.rule q.schema q.mods).2.cache.Truthful f.registry f.config.tagKeys f.addresses qs := by
  let L := Lockstep.caching (Cache.Truthful f.registry f.config.tagKeys f.addresses qs)
  let env : Env Cached := { registry := f.registry, keys := f.config.tagKeys, memo := remember f.addresses }
  let env' : Env (Except CompileError) :=
    { registry := f.registry, keys := f.config.tagKeys, memo := fun _ answer => answer }
  have henv : L.EnvsAgree (fun _ => True) (· ∈ qs) env env' :=
    ⟨rfl, fun _ hp h => agree_remember hqs hp h⟩
  obtain ⟨hkept, hend⟩ := L.compile henv (Registry.keeps_true _) q.rule q.schema q.mods hq f.cache hcache
  rw [Factory.compile, if_pos hon]
  refine ⟨?_, hkept⟩
  change SameEnd _ _ (q.anew f.registry f.config.tagKeys) at hend
  change ((env.compile q.rule q.schema q.mods).run.run f.cache).1 = _
  generalize ((env.compile q.rule q.schema q.mods).run.run f.cache).1 = outcome at hend ⊢
  generalize q.anew f.registry f.config.tagKeys = plain at hend ⊢
  cases hend with
  | error e => rfl
  | ok h => rw [h.1]

/-- Whether a factory answers a request as it would without its cache: that is off, or holds nothing but such answers
under keys that tell apart the requests which this one leads to. -/
def AnswersAnew (f : Factory) (q : Request) : Prop :=
  f.config.cache = true → ∃ qs, KeysTellApart f.addresses qs ∧
    f.cache.Truthful f.registry f.config.tagKeys f.addresses qs ∧ ∀ p ∈ q.all f.config.tagKeys, p ∈ qs

/-- A factory that remembers nothing answers anew, as long as the requests that it is led to have different keys. -/
theorem answersAnew_of_cache_eq_nil {f : Factory} {q : Request} (hnil : f.cache = [])
    (hkeys : ((q.all f.config.tagKeys).map (·.key.chars f.addresses)).Nodup) : f.AnswersAnew q := by
  intro _
  refine ⟨q.all f.config.tagKeys, keysTellApart_of_nodup hkeys, ?_, fun _ hp => hp⟩
  rw [hnil]
  exact List.forall_mem_nil _

/-- A factory that answers anew does so as the plain compiler does. -/
theorem AnswersAnew.compile_eq_ok_iff {f : Factory} {rule : String} {s : Schema} {mods : List Modifier}
    (hf : f.AnswersAnew ⟨rule, s, mods⟩) {v : Validator} :
    (f.compile rule s mods).1 = .ok v ↔
      ∃ rule?, (readRule rule : Compiled (Option Rule)) = .ok rule? ∧
        s.compile (.plain f.scope) rule? mods = .ok v := by
  by_cases hcache : f.config.cache = true
  · obtain ⟨qs, hqs, htruthful, hall⟩ := hf hcache
    have hanew : (f.compile rule s mods).1 =
        (readRule rule : Compiled (Option Rule)) >>= fun rule? => s.compile (.plain f.scope) rule? mods :=
      (compile_of_truthful hqs hcache htruthful hall).1
    rw [hanew, bind_eq_ok]
  · exact Factory.compile_eq_ok_iff (Bool.eq_false_iff.2 hcache)

/-! ### Calls -/

/-- What a factory can be asked to do. -/
inductive Call
  | compile (q : Request)
  | register (c : Creator)
  | clear
  | validate (s : Schema) (x : Value)
  | applyDefaults (s : Schema) (x : Value)

/-- What a caller sees of a call. -/
inductive Outcome
  | compiled (answer : Except CompileError Validator)
  | done
  | validated (answer : Except CompileError Report)
  | filled (answer : Except CompileError (Report × Value))

/-- Makes a call. -/
def perform (f : Factory) : Call → Outcome × Factory
  | .compile q =>
    let (answer, f) := f.compile q.rule q.schema q.mods
    (.compiled answer, f)
  | .register c => (.done, f.register c)
  | .clear => (.done, f.clear)
  | .validate s x =>
    let (answer, f) := f.compile "" s []
    (.validated (answer.map (·.validate x)), f)
  | .applyDefaults s x =>
    let (answer, f) := f.applyDefaults s x
    (.filled answer, f)

/-- What a caller sees of calls one after the other. -/
def outcomes (f : Factory) : List Call → List Outcome
  | [] => []
  | c :: cs => (f.perform c).1 :: outcomes (f.perform c).2 cs

/-- The requests that a call leads to. -/
def Call.requests (keys : TagKeys) : Call → List Request
  | .compile q => q.all keys
  | .validate s _ | .applyDefaults s _ => Request.all keys ⟨"", s, []⟩
  | .register _ | .clear => []

/-- Two factories with the same creators and tag keys, the first one with a truthful cache and the second one
without any. -/
structure Mirrors (a : Addresses) (qs : List Request) (f g : Factory) : Prop where
  addresses : f.addresses = a
  registry : f.registry = g.registry
  keys : f.config.tagKeys = g.config.tagKeys
  on : f.config.cache = true
  off : g.config.cache = false
  truthful : f.cache.Truthful f.registry f.config.tagKeys a qs

private theorem Mirrors.compile {f g : Factory} (h : Mirrors a qs f g) (hqs : KeysTellApart a qs) {q : Request}
    (hq : ∀ p ∈ q.all f.config.tagKeys, p ∈ qs) :
    (f.compile q.rule q.schema q.mods).1 = (g.compile q.rule q.schema q.mods).1 ∧
      Mirrors a qs (f.compile q.rule q.schema q.mods).2 (g.compile q.rule q.schema q.mods).2 := by
  obtain rfl := h.addresses
  obtain ⟨hanswer, htruthful⟩ := compile_of_truthful hqs h.on h.truthful hq
  have hplain : g.compile q.rule q.schema q.mods = (q.anew g.registry g.config.tagKeys, g) := by
    rw [Factory.compile, if_neg (Bool.eq_false_iff.1 h.off)]
    rfl
  rw [hplain, hanswer, h.registry, h.keys]
  refine ⟨rfl, compile_addresses .., ?_, ?_, ?_, h.off, ?_⟩
  · rw [compile_registry, h.registry]
  · rw [compile_config, h.keys]
  · rw [compile_config, h.on]
  · rw [compile_registry, compile_config]
    exact htruthful

/-- One call: its outcome does not show the cache. -/
private theorem Mirrors.perform {f g : Factory} (h : Mirrors a qs f g) (hqs : KeysTellApart a qs) {c : Call}
    (hc : ∀ p ∈ c.requests f.config.tagKeys, p ∈ qs) :
    (f.perform c).1 = (g.perform c).1 ∧ Mirrors a qs (f.perform c).2 (g.perform c).2 := by
  cases c with
  | compile q =>
    obtain ⟨hanswer, hnext⟩ := h.compile hqs hc
    exact ⟨congrArg Outcome.compiled hanswer, hnext⟩
  | register creator =>
    exact ⟨rfl, h.addresses, congrArg (·.register creator) h.registry, h.keys, h.on, h.off, List.forall_mem_nil _⟩
  | clear => exact ⟨rfl, h.addresses, h.registry, h.keys, h.on, h.off, List.forall_mem_nil _⟩
  | validate s x =>
    obtain ⟨hanswer, hnext⟩ := h.compile hqs hc
    have hreport := congrArg (Except.map fun v : Validator => v.validate x) hanswer
    exact ⟨congrArg Outcome.validated hreport, hnext⟩
  | applyDefaults s x =>
    obtain ⟨hanswer, hnext⟩ := h.compile hqs hc
    have hfilled := congrArg (Except.map fun v : Validator => v.fill x) hanswer
    exact ⟨congrArg Outcome.filled hfilled, hnext⟩

private theorem perform_tagKeys (f : Factory) (c : Call) : (f.perform c).2.config.tagKeys = f.config.tagKeys := by
  cases c with
  | compile q => exact congrArg Config.tagKeys (compile_config ..)
  | register | clear => rfl
  | validate s x | applyDefaults s x => exact congrArg Config.tagKeys (compile_config ..)

private theorem Mirrors.outcomes {f g : Factory} (h : Mirrors a qs f g) (hqs : KeysTellApart a qs) {cs : List Call}
    (hcs : ∀ c ∈ cs, ∀ p ∈ c.requests f.config.tagKeys, p ∈ qs) : f.outcomes cs = g.outcomes cs := by
  induction cs generalizing f g with
  | nil => rfl
  | cons c cs ih =>
    obtain ⟨hc, hcs⟩ := List.forall_mem_cons.1 hcs
    obtain ⟨houtcome, hnext⟩ := h.perform hqs hc
    rw [Factory.outcomes, Factory.outcomes, houtcome, ih hnext (by rwa [perform_tagKeys])]

/-- Whatever the configuration, and wherever codecs and tests for zero are kept, calls to a factory with its cache on
and to one with its cache off, which begin with the same creators, have the same outcomes, if the texts of keys tell
apart the requests that the calls lead to. -/
theorem outcomes_eq_of_keys (registry : Registry) (config : Config) (a : Addresses) (calls : List Call)
    (hkeys : KeysTellApart a (calls.flatMap (Call.requests config.tagKeys))) :
    outcomes { registry, config := { config with cache := true }, addresses := a } calls =
      outcomes { registry, config := { config with cache := false }, addresses := a } calls := by
  have hstart : Mirrors a (calls.flatMap (Call.requests config.tagKeys))
      { registry, config := { config with cache := true }, addresses := a }
      { registry, config := { config with cache := false }, addresses := a } :=
    ⟨rfl, rfl, rfl, rfl, rfl, List.forall_mem_nil _⟩
  exact hstart.outcomes hkeys fun c hc p hp => List.mem_flatMap.2 ⟨c, hc, hp⟩

/-- A rule that is asked for before it is known and after its name was taken by one creator and then by another,
with fields that are answered from the cache, one of them of a type with a codec. -/
theorem outcomes_eq_of_keys_registered :
    let a : Addresses := default
    let even : Request := ⟨"@even", .int 8, []⟩
    let coded : Request := ⟨"@string{A}", (Schema.int 8).withCodec .upper, []⟩
    let s := Schema.struct "triple" [(Field.plain "a" even.schema).withRule even.rule,
      (Field.plain "b" even.schema).withRule even.rule, (Field.plain "c" coded.schema).withRule coded.rule]
    let calls : List Call := [.compile even, .compile even, .register .even, .compile even,
      .validate s (.struct [("a", .int 3)]), .register ⟨["even"], .integer true⟩, .compile even, .clear,
      .applyDefaults s .null]
    KeysTellApart a (calls.flatMap (Call.requests {})) ∧
      outcomes { registry := .builtin, addresses := a } calls =
        outcomes { registry := .builtin, config := { cache := false }, addresses := a } calls := by
  intro a even coded s calls
  have hapart : KeysTellApart a (calls.flatMap (Call.requests {})) := by
    have hdistinct : KeysTellApart a [even, coded, ⟨"", s, []⟩] := keysTellApart_of_nodup (by decide +kernel)
    have hrequests : calls.flatMap (Call.requests {}) =
        [even, even, even, ⟨"", s, []⟩, even, even, coded, even, ⟨"", s, []⟩, even, even, coded] := rfl
    have hmem : ∀ q ∈ calls.flatMap (Call.requests {}), q ∈ [even, coded, ⟨"", s, []⟩] := by
      rw [hrequests]
      simp
    exact fun q hq q' hq' => hdistinct q (hmem q hq) q' (hmem q' hq')
  exact ⟨hapart, outcomes_eq_of_keys .builtin {} a calls hapart⟩

/-- Keys do not say whether a type with a name of its own is one of integers or of texts, and the name of a field
can hold what they put between fields. A caller then sees the answer to another request. -/
theorem outcomes_ne_of_cache :
    let named : List Call := [.compile ⟨"@int", (Schema.int 64).named "Code", []⟩,
      .compile ⟨"@int", Schema.string.named "Code", []⟩]
    let name := "a:StructTag \x7b entries: [(\"validate\", \"@int[1,]\")] \x7d:false;int8b"
    let tagged : List Call := [.compile ⟨"", .struct "T" [.plain name (.int 8)], []⟩,
      .compile ⟨"", .struct "T" [(Field.plain "a" (.int 8)).withRule "@int[1,]", .plain "b" (.int 8)], []⟩]
    ∀ calls ∈ [named, tagged], outcomes { registry := .builtin } calls ≠
      outcomes { registry := .builtin, config := { cache := false } } calls := by
  intro named name tagged
  let checks : Outcome → Bool
    | .compiled (.ok v) => !v.isNoop
    | _ => false
  refine List.forall_mem_cons.2 ⟨fun h => ?_, List.forall_mem_singleton.2 fun h => ?_⟩
  · exact absurd (congrArg (List.map checks) h) (by decide +kernel)
  · exact absurd (congrArg (List.map checks) h) (by decide +kernel)

end Factory

end FieldRules
