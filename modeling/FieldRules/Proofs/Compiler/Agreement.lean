import FieldRules.Proofs.Compiler.Reachable
import FieldRules.Proofs.Validator.Agreement

/-!
# Compiled validators fill without changing the report

The checks of a struct that was compiled look at fields of its schema. When the names of the schema are
pairwise different, the checks are kept apart, and filling in defaults reports what not filling does.
-/

namespace FieldRules

variable {keys : TagKeys} {P : Schema → Prop}

theorem FieldCheck.pairwise_apart_of_spots {s : Schema} (hs : s.NamesApart keys) {checks : List FieldCheck}
    (h : (checks.map FieldCheck.spot).Sublist (s.spots keys [])) : checks.Pairwise FieldCheck.Apart := by
  have hspots : (checks.map FieldCheck.spot).Pairwise SpotsApart := hs.pairwise_spots.sublist h
  exact (List.pairwise_map.1 hspots).imp id

private theorem keptApart_append {ns ms : List Validator} (hns : KeptApart ns) (hms : KeptApart ms) :
    KeptApart (ns ++ ms) :=
  fun checks h => (List.mem_append.1 h).elim (hns checks) (hms checks)

private theorem keptApart_cons {v : Validator} {ns : List Validator}
    (hv : ∀ checks, v = .struct checks → checks.Pairwise FieldCheck.Apart) (hns : KeptApart ns) :
    KeptApart (v :: ns) :=
  fun checks h => (List.mem_cons.1 h).elim (fun heq => hv checks heq.symm) (hns checks)

/-- Whether the schemas of the loaders in a list of nodes, which all have a property, have names that are
pairwise different. -/
def LoadersApart (keys : TagKeys) (P : Schema → Prop) (nodes : List Validator) : Prop :=
  ∀ l, .loader l ∈ nodes → P l.schema → l.schema.NamesApart keys

private theorem LoadersApart.mono {ns ms : List Validator} (h : LoadersApart keys P ms) (hsub : ∀ v ∈ ns, v ∈ ms) :
    LoadersApart keys P ns :=
  fun l hl => h l (hsub _ hl)

private theorem keptApart_nodesOption {item : Option Validator}
    (hitem : ∀ v, item = some v → LoadersApart keys P v.nodes → KeptApart v.nodes)
    (h : LoadersApart keys P (Validator.nodesOption item)) : KeptApart (Validator.nodesOption item) := by
  cases item with
  | none => exact fun _ hv => absurd hv List.not_mem_nil
  | some v => exact hitem v rfl h

mutual

/-- The structs of a validator are kept apart, when the schemas of its loaders have names that are pairwise
different. -/
theorem Built.keptApart {v : Validator} : Built keys P v → LoadersApart keys P v.nodes → KeptApart v.nodes
  | .loader schema check _, h => by
    rw [Validator.nodes, Loader.nodes] at h ⊢
    have hs := h _ (List.mem_cons_self ..) schema
    refine keptApart_cons (by simp) (keptApart_nodesOption (fun v hv => (check v hv).keptApart hs) ?_)
    exact h.mono fun _ hv => List.mem_cons_of_mem _ hv

private theorem BuiltCheck.keptApart {s : Schema} {v : Validator} : BuiltCheck keys P s v → s.NamesApart keys →
    LoadersApart keys P v.nodes → KeptApart v.nodes
  | .integer .., _, _ | .float .., _, _ | .text .., _, _ | .format .., _, _ => by
    simp [KeptApart, Validator.nodes]
  | .slice _ _ _ item_built, _, h => by
    rw [Validator.nodes] at h ⊢
    refine keptApart_cons (by simp) (keptApart_nodesOption (fun v hv => (item_built v hv).keptApart) ?_)
    exact h.mono fun _ hv => List.mem_cons_of_mem _ hv
  | .map _ _ key_built item_built, _, h => by
    rw [Validator.nodes] at h ⊢
    refine keptApart_cons (by simp) (keptApart_append ?_ ?_)
    · refine keptApart_nodesOption (fun v hv => (key_built v hv).keptApart) ?_
      exact h.mono fun _ hv => List.mem_cons_of_mem _ (List.mem_append_left _ hv)
    · refine keptApart_nodesOption (fun v hv => (item_built v hv).keptApart) ?_
      exact h.mono fun _ hv => List.mem_cons_of_mem _ (List.mem_append_right _ hv)
  | .struct spots checks_built, hs, h => by
    rw [Validator.nodes] at h ⊢
    refine keptApart_cons ?_ ?_
    · rintro _ ⟨⟩
      exact FieldCheck.pairwise_apart_of_spots hs spots
    · intro inner hinner
      obtain ⟨c, hc, hmem⟩ := FieldCheck.mem_nodes.1 hinner
      refine (checks_built c hc).keptApart (h.mono fun v hv => ?_) inner hmem
      exact List.mem_cons_of_mem _ (FieldCheck.mem_nodes.2 ⟨c, hc, hv⟩)
  | .loader _ built, _, h => built.keptApart h

end

/-- The schemas of the loaders in a validator. -/
def Validator.types (v : Validator) : List Schema :=
  v.nodes.filterMap fun
    | .loader l => some l.schema
    | _ => none

theorem Validator.mem_types_of_loader {v : Validator} {l : Loader} (h : .loader l ∈ v.nodes) :
    l.schema ∈ v.types :=
  List.mem_filterMap.2 ⟨.loader l, h, rfl⟩

theorem hereditary_true : Hereditary fun _ => True :=
  ⟨trivial, trivial, fun _ _ _ _ => trivial⟩

theorem hereditary_typesApart (keys : TagKeys) : Hereditary (Schema.TypesApart keys) where
  any := List.forall_mem_singleton.2 List.nodup_nil
  string := List.forall_mem_singleton.2 List.nodup_nil
  types := fun s hs t ht u hu => hs u (s.mem_types_trans t ht u hu)

namespace Factory

/-- Validating with and without filling in defaults gives the same report, as long as the names of fields and
embedded fields are pairwise different in each struct: in those that the type consists of and the ones that
the factory was asked for before, which it may remember; or just in those that the validator was compiled for,
whatever came before. -/
theorem fill_fst_eq_validate (config : Config) (f : Factory) (rule : String) (s : Schema) (mods : List Modifier)
    (v : Validator) (hv : (f.compile rule s mods).1 = .ok v) :
    (f.Reachable config (Schema.TypesApart config.tagKeys) → s.TypesApart config.tagKeys →
      ∀ x, (v.fill x).1 = v.validate x) ∧
    (f.Reachable config (fun _ => True) → (∀ t ∈ v.types, t.NamesApart config.tagKeys) →
      ∀ x, (v.fill x).1 = v.validate x) := by
  constructor
  · intro hf hs x
    have hbuilt := hf.built_of_compile (hereditary_typesApart config.tagKeys) hs hv
    exact Validator.fill_fst (hbuilt.keptApart fun l _ hl => hl _ l.schema.mem_types_self) x
  · intro hf htypes x
    have hbuilt := hf.built_of_compile hereditary_true trivial hv
    exact Validator.fill_fst (hbuilt.keptApart fun l hl _ => htypes _ (Validator.mem_types_of_loader hl)) x

/-- A default goes into an embedded struct before a field of the struct around it is found to be missing. -/
theorem fill_fst_eq_validate_embedded :
    let age := (Field.plain "age" (.int 8)).withTag (Tag.empty.withEntry "default" "7")
    let base := Field.embedding (.struct "base" [age])
    let s := Schema.struct "person" [base, (Field.plain "name" .string).withRule "@string"]
    let x := Value.struct [("base", .struct [])]
    ∃ v, ((builtin {}).compile "" s []).1 = .ok v ∧ v.validate x = [⟨[.field "name"], .missing, none⟩] ∧
      (v.fill x).2.toString = "\x7b\"base\":\x7b\"age\":7\x7d\x7d" ∧
      (s.TypesApart {} ∧ ∀ y, (v.fill y).1 = v.validate y) ∧
      (∀ t ∈ v.types, t.NamesApart {}) ∧ ∀ y, (v.fill y).1 = v.validate y := by
  intro age base s x
  have hs : s.TypesApart {} := by decide +kernel
  have hcompiles : (((builtin {}).compile "" s []).1.toOption.any fun v =>
      decide (v.validate x = [⟨[.field "name"], .missing, none⟩] ∧
        (v.fill x).2.toString = "\x7b\"base\":\x7b\"age\":7\x7d\x7d" ∧
        ∀ t ∈ v.types, t.NamesApart {})) = true := by
    decide +kernel
  cases hv : ((builtin {}).compile "" s []).1 with
  | error e =>
    rw [hv] at hcompiles
    cases hcompiles
  | ok v =>
    rw [hv] at hcompiles
    obtain ⟨hreport, hfilled, htypes⟩ := of_decide_eq_true hcompiles
    have hagree := fill_fst_eq_validate {} (builtin {}) "" s [] v hv
    exact ⟨v, rfl, hreport, hfilled, ⟨hs, hagree.1 .builtin hs⟩, htypes, hagree.2 .builtin htypes⟩

end Factory

end FieldRules
