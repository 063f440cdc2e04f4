import FieldRules.Proofs.Compiler.Built

/-!
# Factories in use

A factory in use was built in or empty at first, and has answered requests, learned creators and been cleared
since. Whatever it answers, with or without its cache, is a validator that compiling can build
(`Factory.built_of_compile`).
-/

namespace FieldRules.Factory

/-- The factories that come of the built-in one or the empty one, wherever identities are kept, when requests are for
schemas with a property. -/
inductive Reachable (config : Config) (P : Schema → Prop) : Factory → Prop
  | empty {a : Addresses} : Reachable config P (empty config a)
  | builtin {a : Addresses} : Reachable config P (builtin config a)
  | register {f : Factory} (c : Creator) : Reachable config P f → Reachable config P (f.register c)
  | clear {f : Factory} : Reachable config P f → Reachable config P f.clear
  | compile {f : Factory} (rule : String) {s : Schema} (mods : List Modifier) :
    Reachable config P f → P s → Reachable config P (f.compile rule s mods).2

theorem run_remember (a : Addresses) (key : RequestKey) (answer : Cached Validator) (cache : Cache) :
    (remember a key answer).run.run cache = match cache.lookup (key.text a) with
      | some v => (.ok v, cache)
      | none => match answer.run.run cache with
        | (.ok v, cache) => (.ok v, (key.text a, v) :: cache.filter fun e => e.1 ≠ key.text a)
        | (.error e, cache) => (.error e, cache) := by
  unfold remember
  rw [OutcomeLogic.run_bind_cached]
  have hget : (get : Cached Cache).run.run cache = (.ok cache, cache) := rfl
  rw [hget]
  simp only
  cases cache.lookup (key.text a) with
  | some v => rfl
  | none =>
    simp only
    rw [OutcomeLogic.run_bind_cached]
    obtain ⟨outcome, cache⟩ := answer.run.run cache
    cases outcome <;> rfl

/-- Answers from the cache are as good as those that are given anew. -/
private theorem ensures_remember {Good : Validator → Prop} (a : Addresses) (key : RequestKey)
    {answer : Cached Validator} (h : (OutcomeLogic.cached Good).ensures answer Good) :
    (OutcomeLogic.cached Good).ensures (remember a key answer) Good := by
  intro cache hcache
  rw [run_remember]
  split
  next v hlookup =>
    refine ⟨hcache, ?_⟩
    rintro _ ⟨⟩
    obtain ⟨front, back, rfl, -⟩ := List.lookup_eq_some_iff.1 hlookup
    exact hcache (key.text a, v) (by simp)
  · obtain ⟨hkept, hout⟩ := h cache hcache
    split
    next v cache' hrun =>
      rw [hrun] at hkept hout
      refine ⟨List.forall_mem_cons.2 ⟨hout v rfl, fun e he => hkept e (List.mem_filter.1 he).1⟩, ?_⟩
      rintro _ ⟨⟩
      exact hout v rfl
    next e cache' hrun =>
      rw [hrun] at hkept
      exact ⟨hkept, by simp⟩

variable {config : Config} {P : Schema → Prop} {f : Factory}

/-- One request: what every compiler ensures that remembers good answers only holds of the answer, and of all
answers that the factory remembers then. -/
theorem good_of_ensures {Good : Validator → Prop} (hcache : ∀ e ∈ f.cache, Good e.2) {rule : String} {s : Schema}
    {mods : List Modifier}
    (h : ∀ {m : Type → Type} [Monad m] [MonadExceptOf CompileError m] (L : OutcomeLogic m) (env : Env m),
      env.toScope = { registry := f.registry, keys := f.config.tagKeys } →
      (∀ key answer, L.ensures answer Good → L.ensures (env.memo key answer) Good) →
      L.ensures (env.compile rule s mods) Good) :
    (∀ v, (f.compile rule s mods).1 = .ok v → Good v) ∧ ∀ e ∈ (f.compile rule s mods).2.cache, Good e.2 := by
  unfold Factory.compile
  split
  · -- With the cache on, requests for fields go through it too.
    let env : Env Cached := { registry := f.registry, keys := f.config.tagKeys, memo := remember f.addresses }
    have hcompile := h (OutcomeLogic.cached Good) env rfl fun key answer h => ensures_remember f.addresses key h
    obtain ⟨hkept, hout⟩ := hcompile f.cache hcache
    exact ⟨hout, hkept⟩
  · let env : Env (Except CompileError) :=
      { registry := f.registry, keys := f.config.tagKeys, memo := fun _ answer => answer }
    exact ⟨h OutcomeLogic.plain env rfl fun key answer h => h, hcache⟩

/-- One request: its answer can be built, and so can all answers that the factory remembers then. -/
private theorem built_of_cache (hP : Hereditary P) (hcache : ∀ e ∈ f.cache, Built f.config.tagKeys P e.2)
    (rule : String) {s : Schema} (hs : P s) (mods : List Modifier) :
    (∀ v, (f.compile rule s mods).1 = .ok v → Built f.config.tagKeys P v) ∧
      ∀ e ∈ (f.compile rule s mods).2.cache, Built f.config.tagKeys P e.2 := by
  refine good_of_ensures hcache fun L env hscope hmemo => ?_
  have hkeys : env.keys = f.config.tagKeys := congrArg Scope.keys hscope
  rw [← hkeys] at hmemo ⊢
  exact L.request hmemo fun rule? => L.schemaCompile hP hmemo s hs rule? mods

theorem compile_config (f : Factory) (rule : String) (s : Schema) (mods : List Modifier) :
    (f.compile rule s mods).2.config = f.config := by
  unfold Factory.compile
  split <;> rfl

theorem compile_registry (f : Factory) (rule : String) (s : Schema) (mods : List Modifier) :
    (f.compile rule s mods).2.registry = f.registry := by
  unfold Factory.compile
  split <;> rfl

theorem compile_addresses (f : Factory) (rule : String) (s : Schema) (mods : List Modifier) :
    (f.compile rule s mods).2.addresses = f.addresses := by
  unfold Factory.compile
  split <;> rfl

private theorem Reachable.config_eq (h : Reachable config P f) : f.config = config := by
  induction h with
  | empty | builtin => rfl
  | register c _ ih | clear _ ih => exact ih
  | compile rule mods _ _ ih => rw [compile_config, ih]

private theorem Reachable.built_of_mem_cache (hP : Hereditary P) (h : Reachable config P f) :
    ∀ e ∈ f.cache, Built config.tagKeys P e.2 := by
  induction h with
  | empty | builtin | register | clear => exact List.forall_mem_nil _
  | compile rule mods hf hs ih =>
    rw [← hf.config_eq] at ih ⊢
    exact (built_of_cache hP ih rule hs mods).2

/-- Whatever a factory in use answers can be built. -/
theorem Reachable.built_of_compile (hP : Hereditary P) (h : Reachable config P f) {rule : String} {s : Schema}
    {mods : List Modifier} {v : Validator} (hs : P s) (hv : (f.compile rule s mods).1 = .ok v) :
    Built config.tagKeys P v := by
  have hcache := h.built_of_mem_cache hP
  rw [← h.config_eq] at hcache ⊢
  exact (built_of_cache hP hcache rule hs mods).1 v hv

end FieldRules.Factory
