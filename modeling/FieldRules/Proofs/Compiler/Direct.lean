import FieldRules.Proofs.Compiler.Lockstep
import FieldRules.Proofs.Compiler.Reachable
import FieldRules.Proofs.Compiler.Registry
import FieldRules.Proofs.Validator.Agreement

/-!
# Rules that stand for themselves

What the steps of compiling keep holds of every answer of a factory in use, also of those from its cache
(`Factory.Reachable.good_of_compile`). So when no rule of a registry stands for another one, as with the built-in
creators, no loader has another loader as its check.
-/

namespace FieldRules

namespace Factory

variable {config : Config} {P : Schema → Prop} {f : Factory} {Good Check : Validator → Prop}

/-- One request: when the steps of compiling keep a property, its answer has it, and so do all answers that the
factory remembers then. -/
private theorem good_of_cache (hkeeps : f.registry.Keeps Good Check) (hcache : ∀ e ∈ f.cache, Good e.2)
    (rule : String) (s : Schema) (mods : List Modifier) :
    (∀ v, (f.compile rule s mods).1 = .ok v → Good v) ∧ ∀ e ∈ (f.compile rule s mods).2.cache, Good e.2 := by
  refine good_of_ensures hcache fun L env hscope hmemo => ?_
  have hregistry : env.registry = f.registry := congrArg Scope.registry hscope
  have henv : L.lockstep.EnvsAgree Good (fun _ => True) env env := by
    refine ⟨rfl, fun q _ h => ?_⟩
    have hanswer : L.ensures (q.answer env) Good := L.mono h fun a ⟨_, _, ha⟩ => ha
    exact L.mono (hmemo q.key _ hanswer) fun a ha => ⟨a, rfl, ha⟩
  have hcompile := L.lockstep.compile henv (hregistry ▸ hkeeps) rule s mods fun _ _ => trivial
  exact L.mono hcompile fun a ⟨_, _, ha⟩ => ha

private theorem Reachable.good_of_mem_cache (h : Reachable config P f) (hkeeps : f.registry.Keeps Good Check) :
    ∀ e ∈ f.cache, Good e.2 := by
  induction h with
  | empty | builtin | register | clear => exact List.forall_mem_nil _
  | compile rule mods _ _ ih =>
    rw [compile_registry] at hkeeps
    exact (good_of_cache hkeeps (ih hkeeps) rule _ mods).2

/-- Whatever a factory in use answers has the properties that the steps of compiling keep. -/
theorem Reachable.good_of_compile (h : Reachable config P f) (hkeeps : f.registry.Keeps Good Check) {rule : String}
    {s : Schema} {mods : List Modifier} {v : Validator} (hv : (f.compile rule s mods).1 = .ok v) : Good v :=
  (good_of_cache hkeeps (h.good_of_mem_cache hkeeps) rule s mods).1 v hv

end Factory

/-! ### Loaders in loaders -/

/-- Whether a validator is a loader. -/
def Validator.isLoader : Validator → Bool
  | .loader _ => true
  | _ => false

/-- Whether no loader in a list of nodes has another loader as its check. -/
def NoNesting (nodes : List Validator) : Prop :=
  ∀ l, .loader l ∈ nodes → ∀ v, l.inner = some v → v.isLoader = false

theorem NoNesting.mono {ns ms : List Validator} (h : NoNesting ms) (hsub : ∀ v ∈ ns, v ∈ ms) : NoNesting ns :=
  fun l hl => h l (hsub _ hl)

private theorem noNesting_nodesOption {v? : Option Validator} (h : ∀ v, v? = some v → NoNesting v.nodes) :
    NoNesting (Validator.nodesOption v?) := by
  cases v? with
  | none => exact fun _ hl => absurd hl List.not_mem_nil
  | some v => exact h v rfl

/-- A node that is no loader adds no nesting. -/
private theorem noNesting_cons {v : Validator} {ns : List Validator} (hv : v.isLoader = false) (h : NoNesting ns) :
    NoNesting (v :: ns) := by
  intro l hl
  rcases List.mem_cons.1 hl with rfl | hl
  · cases hv
  · exact h l hl

private theorem noNesting_append {ns ms : List Validator} (hns : NoNesting ns) (hms : NoNesting ms) :
    NoNesting (ns ++ ms) :=
  fun l hl => (List.mem_append.1 hl).elim (hns l) (hms l)

/-- Where no rule stands for another one, compiling nests no loaders. -/
private theorem Registry.Direct.keeps {registry : Registry} (h : registry.Direct) :
    registry.Keeps (fun v => NoNesting v.nodes) (fun v => NoNesting v.nodes ∧ v.isLoader = false) where
  loader := by
    intro l hcheck m hm v hv
    rw [Validator.nodes, List.mem_cons] at hm
    rcases hm with hm | hm
    · obtain rfl := Validator.loader.inj hm
      exact (hcheck v hv).2
    · obtain ⟨schema, inner, onEmpty, message?, codec?⟩ := l
      exact noNesting_nodesOption (fun v hv => (hcheck v hv).1) m hm v hv
  integer := fun _ => ⟨noNesting_cons rfl fun _ hl => absurd hl List.not_mem_nil, rfl⟩
  float := fun _ => ⟨noNesting_cons rfl fun _ hl => absurd hl List.not_mem_nil, rfl⟩
  text := fun _ => ⟨noNesting_cons rfl fun _ hl => absurd hl List.not_mem_nil, rfl⟩
  format := fun _ => ⟨noNesting_cons rfl fun _ hl => absurd hl List.not_mem_nil, rfl⟩
  slice := fun _ _ _ hitem => ⟨noNesting_cons rfl (noNesting_nodesOption hitem), rfl⟩
  map := fun _ _ _ hkey hitem =>
    ⟨noNesting_cons rfl (noNesting_append (noNesting_nodesOption hkey) (noNesting_nodesOption hitem)), rfl⟩
  struct := by
    refine fun checks hchecks => ⟨noNesting_cons rfl fun l hl => ?_, rfl⟩
    obtain ⟨c, hc, hl⟩ := FieldCheck.mem_nodes.1 hl
    exact hchecks c hc l hl
  standIn := fun hnot => absurd h hnot

theorem Registry.direct_builtin : Registry.builtin.Direct := by
  intro name creation h
  rcases of_get?_builtin h with ⟨rfl, -⟩ | ⟨_, rfl⟩ | h | ⟨_, -, rfl⟩
  · rfl
  · rfl
  · exact (by decide : ∀ c ∈ [Creation.text, .slice, .map, .struct], c.isDirect = true) creation h
  · rfl

/-- Whatever is answered where no rule stands for another one has no loaders in loaders. -/
theorem Factory.Reachable.noNesting_of_compile {config : Config} {P : Schema → Prop} {f : Factory}
    (h : f.Reachable config P) (hdirect : f.registry.Direct) {rule : String} {s : Schema} {mods : List Modifier}
    {v : Validator} (hv : (f.compile rule s mods).1 = .ok v) : NoNesting v.nodes :=
  h.good_of_compile hdirect.keeps hv

end FieldRules
