import FieldRules.Compiler.Factory

/-!
# Outcomes of compiling

What is proved of compiling has to hold with and without a cache. An `OutcomeLogic` says of a computation that
its outcome, if there is one, has a property, and follows the steps that compiling is put together from.
`plain` is the logic of the compiler without a cache, and `cached` the one of the compiler with a cache all of
whose answers have a property.
-/

namespace FieldRules

/-- A way to say that the outcome of a computation has a property, if there is one. -/
structure OutcomeLogic (m : Type → Type) [Monad m] [MonadExceptOf CompileError m] where
  ensures : {α : Type} → m α → (α → Prop) → Prop
  pure : ∀ {α : Type} {a : α} {Q : α → Prop}, Q a → ensures (Pure.pure a) Q
  bind : ∀ {α β : Type} {x : m α} {f : α → m β} {P : α → Prop} {Q : β → Prop},
    ensures x P → (∀ a, P a → ensures (f a) Q) → ensures (x >>= f) Q
  mono : ∀ {α : Type} {x : m α} {P Q : α → Prop}, ensures x P → (∀ a, P a → Q a) → ensures x Q
  throw : ∀ {α : Type} {e : CompileError} {Q : α → Prop}, ensures (MonadExcept.throw e : m α) Q
  tryCatch : ∀ {α : Type} {x : m α} {f : CompileError → m α} {Q : α → Prop},
    ensures x Q → (∀ e, ensures (f e) Q) → ensures (MonadExcept.tryCatch x f) Q

namespace OutcomeLogic

/-- The logic of the compiler without a cache. -/
def plain : OutcomeLogic (Except CompileError) where
  ensures x Q := ∀ a, x = .ok a → Q a
  pure := by
    rintro α a Q h _ ⟨⟩
    exact h
  bind := by
    intro α β x f P Q hx hf b hb
    cases x with
    | error e => cases hb
    | ok a => exact hf a (hx a rfl) b hb
  mono := fun hx hPQ a ha => hPQ a (hx a ha)
  throw := by simp
  tryCatch := by
    intro α x f Q hx hf a ha
    cases x with
    | error e => exact hf e a ha
    | ok a' => exact hx a ha

theorem run_bind_cached {α β : Type} (x : Factory.Cached α) (f : α → Factory.Cached β) (cache : Cache) :
    (x >>= f).run.run cache = match x.run.run cache with
      | (.ok a, cache) => (f a).run.run cache
      | (.error e, cache) => (.error e, cache) := by
  rw [ExceptT.run_bind, StateT.run_bind]
  obtain ⟨outcome, cache⟩ := x.run.run cache
  cases outcome <;> rfl

theorem run_tryCatch_cached {α : Type} (x : Factory.Cached α) (f : CompileError → Factory.Cached α)
    (cache : Cache) :
    (MonadExcept.tryCatch x f).run.run cache = match x.run.run cache with
      | (.ok a, cache) => (.ok a, cache)
      | (.error e, cache) => (f e).run.run cache := by
  have hrun : StateT.run x cache = x.run.run cache := rfl
  simp only [MonadExcept.tryCatch, tryCatchThe, MonadExceptOf.tryCatch, ExceptT.tryCatch]
  rw [ExceptT.run_mk, StateT.run_bind, hrun]
  obtain ⟨outcome, cache⟩ := x.run.run cache
  cases outcome <;> rfl

/-- The logic of the compiler with a cache, all of whose answers have a property and go on to have it. -/
def cached (Good : Validator → Prop) : OutcomeLogic Factory.Cached where
  ensures x Q := ∀ cache : Cache, (∀ e ∈ cache, Good e.2) →
    (∀ e ∈ (x.run.run cache).2, Good e.2) ∧ ∀ a, (x.run.run cache).1 = .ok a → Q a
  pure := by
    intro α a Q h cache hcache
    refine ⟨hcache, ?_⟩
    rintro _ ⟨⟩
    exact h
  bind := by
    intro α β x f P Q hx hf cache hcache
    obtain ⟨hkept, hout⟩ := hx cache hcache
    rw [run_bind_cached]
    split
    next a cache' hrun =>
      rw [hrun] at hkept hout
      exact hf a (hout a rfl) cache' hkept
    next e cache' hrun =>
      rw [hrun] at hkept
      exact ⟨hkept, by simp⟩
  mono := by
    intro α x P Q hx hPQ cache hcache
    obtain ⟨hkept, hout⟩ := hx cache hcache
    exact ⟨hkept, fun a ha => hPQ a (hout a ha)⟩
  throw := by
    intro α e Q cache hcache
    exact ⟨hcache, by simp⟩
  tryCatch := by
    intro α x f Q hx hf cache hcache
    obtain ⟨hkept, hout⟩ := hx cache hcache
    rw [run_tryCatch_cached]
    split
    next a cache' hrun =>
      rw [hrun] at hkept hout
      exact ⟨hkept, hout⟩
    next e cache' hrun =>
      rw [hrun] at hkept
      exact hf e cache' hkept

end OutcomeLogic

end FieldRules
