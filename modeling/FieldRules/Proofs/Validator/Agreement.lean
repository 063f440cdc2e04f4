import FieldRules.Proofs.Validator.Walk

/-!
# Filling and not filling agree

`Validator.nodes` lists a validator with everything below it. As long as every struct among them has fields
that are kept apart, a walk that fills in defaults reports what a walk without does (`Validator.walk_fst`).
-/

namespace FieldRules

mutual

/-- A validator and the validators below it. -/
def Validator.nodes : Validator → List Validator
  | .slice item bounds length? => .slice item bounds length? :: Validator.nodesOption item
  | .map key item bounds => .map key item bounds :: (Validator.nodesOption key ++ Validator.nodesOption item)
  | .struct checks => .struct checks :: FieldCheck.nodes checks
  | .loader l => .loader l :: l.nodes
  | v => [v]

/-- The validators below a loader. -/
def Loader.nodes : Loader → List Validator
  | ⟨_, inner, _, _, _⟩ => Validator.nodesOption inner

/-- The nodes of an optional validator. -/
def Validator.nodesOption : Option Validator → List Validator
  | none => []
  | some v => v.nodes

/-- The nodes of the validators of fields. -/
def FieldCheck.nodes : List FieldCheck → List Validator
  | [] => []
  | ⟨_, _, _, validator⟩ :: checks => validator.nodes ++ FieldCheck.nodes checks

end

theorem FieldCheck.mem_nodes {v : Validator} {checks : List FieldCheck} :
    v ∈ FieldCheck.nodes checks ↔ ∃ c ∈ checks, v ∈ c.validator.nodes := by
  induction checks with
  | nil => simp [FieldCheck.nodes]
  | cons c checks ih =>
    cases c
    simp [FieldCheck.nodes, ih]

/-- Whether the fields of every struct in a list of nodes are kept apart. -/
def KeptApart (nodes : List Validator) : Prop :=
  ∀ checks, .struct checks ∈ nodes → checks.Pairwise FieldCheck.Apart

private theorem KeptApart.mono {ns ms : List Validator} (h : KeptApart ms) (hsub : ∀ v ∈ ns, v ∈ ms) : KeptApart ns :=
  fun checks hchecks => h checks (hsub _ hchecks)

/-- The report of a loader, whatever it leaves behind. -/
private theorem Loader.walk_fst_of_inner {fills : Bool} {inner : Validator}
    (h : ∀ s, (inner.walk fills s).1 = (inner.walk false s).1) (schema : Schema) (onEmpty : EmptyPolicy)
    (message? : Option String) (codec? : Option Codec) (s : Slot) :
    (Loader.walk fills ⟨schema, some inner, onEmpty, message?, codec?⟩ s).1 =
      (Loader.walk false ⟨schema, some inner, onEmpty, message?, codec?⟩ s).1 := by
  simp only [Loader.walk]
  split
  · cases onEmpty <;> rfl
  · cases codec? with
    | none => simp only [h]
    | some codec => rfl

mutual

/-- Filling in defaults on the way changes nothing in the report. -/
theorem Validator.walk_fst : (v : Validator) → KeptApart v.nodes → (s : Slot) →
    (v.walk true s).1 = (v.walk false s).1
  | .integer _, _, _ | .float _, _, _ | .text _, _, _ | .format _, _, _ => by simp only [Validator.walk]
  | .slice item bounds length?, h, s => by
    have hitem := Validator.walkOption_fst item (h.mono fun v hv => by simp [Validator.nodes, hv])
    simp only [Validator.walk]
    split
    · simp only [Walk.items_fst, hitem]
    · rfl
  | .map key item bounds, h, s => by
    have hitem := Validator.walkOption_fst item (h.mono fun v hv => by simp [Validator.nodes, hv])
    simp only [Validator.walk]
    split
    · simp only [Walk.entries_fst, hitem]
    · simp only [Walk.named_fst, hitem]
    · rfl
  | .struct checks, h, s => by
    have hapart := h checks (by simp [Validator.nodes])
    have hchecks := FieldCheck.walk_fst checks (h.mono fun v hv => by simp [Validator.nodes, hv])
    simp only [Validator.walk]
    split
    next fields =>
      -- Each check reports on its field as it was in the beginning, also where others have filled in defaults.
      simp only [FieldCheck.walkAll_fst_of_apart true hapart, FieldCheck.walkAll_fst_of_apart false hapart]
      rw [List.flatMap_def, List.flatMap_def, List.map_congr_left fun c hc => by rw [hchecks c hc]]
    · rfl
  | .loader l, h, s => by
    simp only [Validator.walk]
    exact Loader.walk_fst l (h.mono fun v hv => by simp [Validator.nodes, hv]) s

private theorem Loader.walk_fst :
    (l : Loader) → KeptApart l.nodes → (s : Slot) → (l.walk true s).1 = (l.walk false s).1
  | ⟨schema, none, onEmpty, message?, codec?⟩, _, s => by
    simp only [Loader.walk]
    split
    · cases onEmpty <;> rfl
    · rfl
  | ⟨schema, some inner, onEmpty, message?, codec?⟩, h, s =>
    Loader.walk_fst_of_inner (Validator.walk_fst inner h) schema onEmpty message? codec? s

private theorem Validator.walkOption_fst : (v? : Option Validator) → KeptApart (Validator.nodesOption v?) →
    (x : Value) →
    (Walk.optional (Validator.walkOption true v?) x).1 = (Walk.optional (Validator.walkOption false v?) x).1
  | none, _, _ => rfl
  | some v, h, x => by
    simp only [Validator.walkOption, Walk.optional]
    exact Validator.walk_fst v h (some x)

private theorem FieldCheck.walk_fst : (checks : List FieldCheck) → KeptApart (FieldCheck.nodes checks) → ∀ c ∈ checks,
    ∀ s, (c.validator.walk true s).1 = (c.validator.walk false s).1
  | [], _ => by simp
  | ⟨access, name, label, validator⟩ :: checks, h => by
    intro c hc s
    rcases List.mem_cons.1 hc with rfl | hc
    · exact Validator.walk_fst validator (h.mono fun v hv => by simp [FieldCheck.nodes, hv]) s
    · exact FieldCheck.walk_fst checks (h.mono fun v hv => by simp [FieldCheck.nodes, hv]) c hc s

end

/-- Validating with defaults reports what validating without does. -/
theorem Validator.fill_fst {v : Validator} (h : KeptApart v.nodes) (x : Value) : (v.fill x).1 = v.validate x :=
  v.walk_fst h (some x)

end FieldRules
