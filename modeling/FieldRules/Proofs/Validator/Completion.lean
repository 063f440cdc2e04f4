import FieldRules.Proofs.Validator.Settling

/-!
# Filling twice

A filling walk puts defaults into empty slots and does not look into them, so a second walk can find something to fill
in the defaults of the first. It finds nothing else: `Validator.completed` has each default replaced by what its own
rule leaves of it, and filling twice is filling once with it (`Validator.Refills`). For a struct this takes that the
walk of one field can be moved behind those of the others once it has been done before (`FieldCheck.leave_comm`),
which holds of the write that it comes down to (`Walk.put_comm`).
-/

namespace FieldRules

/-! ### Writing a field -/

namespace Fields

variable {α : Type}

private theorem set_set (fs : Fields α) (name : String) (a b : α) : (fs.set name a).set name b = fs.set name b := by
  induction fs with
  | nil => simp [set]
  | cons f rest ih =>
    obtain ⟨n, c⟩ := f
    by_cases hn : n = name
    · simp [set, hn]
    · simp [set, hn, ih]

/-- Fields of different names can be set in any order, if one of them is there. -/
private theorem set_comm {fs : Fields α} {name other : String} (a b : α) (hne : name ≠ other)
    (h : fs.get? name ≠ none) : (fs.set other b).set name a = (fs.set name a).set other b := by
  induction fs with
  | nil => exact absurd rfl h
  | cons f rest ih =>
    obtain ⟨n, c⟩ := f
    by_cases hn : n = name
    · subst hn
      simp [set, hne]
    · simp only [get?, hn, if_false] at h
      by_cases ho : n = other
      · simp [set, ho, Ne.symm hne]
      · simp [set, hn, ho, ih h]

end Fields

namespace Walk

/-- Writes a field of the struct that is reached through embedded fields. -/
def put (access : List String) (name : String) (x : Value) (fields : Fields Value) : Fields Value :=
  (within (field (fun _ => ([], some x)) name) access fields).2

variable {name other step : String} {access path : List String} {x y : Value} {fields inner : Fields Value}

private theorem put_nil : put [] name x fields = fields.set name x := rfl

private theorem put_of_struct (h : fields.get? step = some (.struct inner)) :
    put (step :: access) name x fields = fields.set step (.struct (put access name x inner)) := by
  unfold put
  rw [within_of_struct h]

private theorem put_of_not_struct (h : ¬ ∃ inner, fields.get? step = some (.struct inner)) :
    put (step :: access) name x fields = put access name x fields := by
  unfold put
  rw [within_of_not_struct h]

/-- What a step does to the struct that is reached determines what it does to the one around it. -/
theorem within_snd_congr {α β : Type} {f : Fields Value → α × Fields Value} {g : Fields Value → β × Fields Value}
    (h : (f (reach access fields)).2 = (g (reach access fields)).2) :
    (within f access fields).2 = (within g access fields).2 := by
  induction access generalizing fields with
  | nil => exact h
  | cons step access ih =>
    by_cases hstruct : ∃ inner, Fields.get? fields step = some (.struct inner)
    · obtain ⟨inner, hinner⟩ := hstruct
      rw [reach_of_struct hinner] at h
      rw [within_of_struct hinner, within_of_struct hinner, ih h]
    · rw [reach_of_not_struct hstruct] at h
      rw [within_of_not_struct hstruct, within_of_not_struct hstruct, ih h]

theorem field_snd (walk : Slot → Report × Slot) (name : String) (fields : Fields Value) :
    (field walk name fields).2 = match (walk (fields.get? name)).2 with
      | some x => fields.set name x
      | none => fields := by
  unfold field
  split
  next r x h => rw [h]
  next r h => rw [h]

/-- Writing a field leaves those under other names alone that hold no struct. -/
private theorem not_struct_put (hname : name ≠ step) (h : ¬ ∃ inner, fields.get? step = some (.struct inner)) :
    ¬ ∃ inner, (put access name x fields).get? step = some (.struct inner) := by
  have hsame := get?_within_of_not_struct (fun _ => ([], some x)) hname access h
  rwa [← hsame] at h

/-- The second write of a field counts, if it does not lie on the way to itself. -/
private theorem put_put (hname : name ∉ access) (fields : Fields Value) :
    put access name y (put access name x fields) = put access name y fields := by
  induction access generalizing fields with
  | nil => exact Fields.set_set fields name x y
  | cons step access ih =>
    rw [List.mem_cons, not_or] at hname
    by_cases hstruct : ∃ inner, fields.get? step = some (.struct inner)
    · obtain ⟨inner, hinner⟩ := hstruct
      rw [put_of_struct hinner, put_of_struct (Fields.get?_set_self ..), put_of_struct hinner, Fields.set_set,
        ih hname.2]
    · rw [put_of_not_struct hstruct, put_of_not_struct (not_struct_put hname.1 hstruct), put_of_not_struct hstruct,
        ih hname.2]

/-- Fields that do not lie on the way to each other can be written in any order, if the one is there that comes
last. -/
theorem put_comm (hne : name ≠ other) (hpath : name ∉ path) (haccess : other ∉ access) {fields : Fields Value}
    (h : Fields.get? (reach access fields) name ≠ none) :
    put access name x (put path other y fields) = put path other y (put access name x fields) := by
  induction access generalizing path fields with
  | nil =>
    -- The first field is in this struct, so no step on the way to the second one is that field.
    induction path with
    | nil => exact Fields.set_comm x y hne h
    | cons step path ih =>
      rw [List.mem_cons, not_or] at hpath
      have hstep : (fields.set name x).get? step = fields.get? step := Fields.get?_set_ne fields x hpath.1
      by_cases hstruct : ∃ inner, fields.get? step = some (.struct inner)
      · obtain ⟨inner, hinner⟩ := hstruct
        rw [put_of_struct hinner, put_nil, put_nil, put_of_struct (hstep.trans hinner)]
        exact Fields.set_comm x _ hpath.1 h
      · rw [put_of_not_struct hstruct, ih hpath.2, put_nil, put_of_not_struct (hstep ▸ hstruct)]
  | cons step access ih =>
    rw [List.mem_cons, not_or] at haccess
    by_cases hstruct : ∃ inner, fields.get? step = some (.struct inner)
    · obtain ⟨inner, hinner⟩ := hstruct
      rw [reach_of_struct hinner] at h
      have hpresent : fields.get? step ≠ none := by simp [hinner]
      induction path with
      | nil =>
        have hafter : (fields.set other y).get? step = some (.struct inner) :=
          (Fields.get?_set_ne fields y haccess.1).trans hinner
        rw [put_nil, put_of_struct hafter, put_of_struct hinner, put_nil]
        exact Fields.set_comm _ y (Ne.symm haccess.1) hpresent
      | cons step' path ihPath =>
        rw [List.mem_cons, not_or] at hpath
        by_cases hsame : step = step'
        · -- Both ways lead into the same struct.
          subst hsame
          rw [put_of_struct hinner, put_of_struct (Fields.get?_set_self ..), put_of_struct hinner,
            put_of_struct (Fields.get?_set_self ..), Fields.set_set, Fields.set_set, ih hpath.2 haccess.2 h]
        · by_cases hstruct' : ∃ inner', fields.get? step' = some (.struct inner')
          · obtain ⟨inner', hinner'⟩ := hstruct'
            have hback : (fields.set step' (.struct (put path other y inner'))).get? step = some (.struct inner) :=
              (Fields.get?_set_ne fields _ (Ne.symm hsame)).trans hinner
            have hafter : (fields.set step (.struct (put access name x inner))).get? step' = some (.struct inner') :=
              (Fields.get?_set_ne fields _ hsame).trans hinner'
            rw [put_of_struct hinner', put_of_struct hback, put_of_struct hinner, put_of_struct hafter]
            exact Fields.set_comm _ _ hsame hpresent
          · have hafter : ¬ ∃ inner', (put (step :: access) name x fields).get? step' = some (.struct inner') := by
              rw [put_of_struct hinner, Fields.get?_set_ne fields _ hsame]
              exact hstruct'
            rw [put_of_not_struct hstruct', put_of_not_struct hafter, ihPath hpath.2]
    · rw [reach_of_not_struct hstruct] at h
      rw [put_of_not_struct (not_struct_put haccess.1 hstruct), put_of_not_struct hstruct, ih hpath haccess.2 h]

end Walk

/-! ### Walks of fields -/

namespace FieldCheck

variable {c d : FieldCheck} {checks : List FieldCheck} {fields : Fields Value}

/-- A filling walk of a field writes what it leaves there, if it leaves something. -/
private theorem leave_eq (c : FieldCheck) (fields : Fields Value) :
    c.leave true fields = match (c.validator.walk true (c.slot fields)).2 with
      | some x => Walk.put c.access c.name x fields
      | none => fields := by
  have hfield := Walk.field_snd (c.validator.walk true) c.name (Walk.reach c.access fields)
  have hslot : Fields.get? (Walk.reach c.access fields) c.name = c.slot fields := rfl
  rw [hslot] at hfield
  unfold leave Walk.put
  cases hwalk : (c.validator.walk true (c.slot fields)).2 with
  | some x =>
    rw [hwalk] at hfield
    exact Walk.within_snd_congr hfield
  | none =>
    rw [hwalk] at hfield
    exact Walk.within_snd_of_same hfield

/-- Whether a filling walk adds no field. -/
def Steady (c : FieldCheck) (fields : Fields Value) : Prop :=
  c.slot fields = none → (c.validator.walk true none).2 = none

private theorem Steady.leave (h : c.Steady fields) (hapart : d.Apart c) : c.Steady (d.leave true fields) := by
  unfold Steady
  rwa [slot_leave hapart]

/-- The walk of a field that adds nothing can be moved behind that of another field. -/
theorem leave_comm (hapart : c.Apart d) (h : c.Steady fields) :
    c.leave true (d.leave true fields) = d.leave true (c.leave true fields) := by
  have hback : d.Apart c := ⟨hapart.1.symm, hapart.2.2, hapart.2.1⟩
  rw [leave_eq c, leave_eq d (c.leave true fields), slot_leave hback, slot_leave hapart, leave_eq c, leave_eq d]
  cases hc : (c.validator.walk true (c.slot fields)).2 with
  | none => rfl
  | some x =>
    cases hd : (d.validator.walk true (d.slot fields)).2 with
    | none => rfl
    | some y =>
      have hthere : c.slot fields ≠ none := by
        intro hnone
        rw [hnone, h hnone] at hc
        cases hc
      exact Walk.put_comm hapart.1 hapart.2.1 hapart.2.2 hthere

private theorem leave_walkAll_comm (hapart : ∀ d ∈ checks, c.Apart d) (h : c.Steady fields) :
    c.leave true (walkAll true checks fields).2 = (walkAll true checks (c.leave true fields)).2 := by
  induction checks generalizing fields with
  | nil => rfl
  | cons d checks ih =>
    obtain ⟨hd, hchecks⟩ := List.forall_mem_cons.1 hapart
    have hback : d.Apart c := ⟨hd.1.symm, hd.2.2, hd.2.1⟩
    rw [walkAll_cons_snd, walkAll_cons_snd, ih hchecks (h.leave hback), leave_comm hd h]

end FieldCheck

/-! ### Completed validators -/

/-- The policy with another default, if it has one. -/
def EmptyPolicy.mapDefault (f : Value → Value) : EmptyPolicy → EmptyPolicy
  | .refuse => .refuse
  | .pass => .pass
  | .fill text d => .fill text (f d)

mutual

/-- The validator with each default replaced by what its own rule leaves of it. -/
def Validator.completed : Validator → Validator
  | .slice item bounds length? => .slice (Validator.completedOption item) bounds length?
  | .map key item bounds => .map key (Validator.completedOption item) bounds
  | .struct checks => .struct (FieldCheck.completedAll checks)
  | .loader l => .loader l.completed
  | .integer c => .integer c
  | .float c => .float c
  | .text c => .text c
  | .format f => .format f

/-- The loader with its default replaced by what it leaves of it, and the defaults below it. -/
def Loader.completed : Loader → Loader
  | ⟨schema, inner, onEmpty, message?, codec?⟩ =>
    ⟨schema, Validator.completedOption inner,
      onEmpty.mapDefault fun d => (Loader.walk true ⟨schema, inner, onEmpty, message?, codec?⟩ (some d)).2.getD d,
      message?, codec?⟩

/-- An optional validator, completed. -/
def Validator.completedOption : Option Validator → Option Validator
  | none => none
  | some v => some v.completed

/-- The checks of fields, completed. -/
def FieldCheck.completedAll : List FieldCheck → List FieldCheck
  | [] => []
  | ⟨access, name, label, validator⟩ :: checks =>
    ⟨access, name, label, validator.completed⟩ :: FieldCheck.completedAll checks

end

/-- Whether filling twice is filling once with the completed validator. -/
def Validator.Refills (v : Validator) : Prop :=
  ∀ slot : Slot, (v.walk true (v.walk true slot).2).2 = (v.completed.walk true slot).2

theorem Validator.Refills.fill {v : Validator} (h : v.Refills) (hheld : v.Holds) (x : Value) :
    (v.fill (v.fill x).2).2 = (v.completed.fill x).2 := by
  obtain ⟨y, hy⟩ := Option.ne_none_iff_exists'.1 (hheld x)
  obtain ⟨z, hz⟩ := Option.ne_none_iff_exists'.1 (hheld y)
  have hcompleted := h (some x)
  rw [hy, hz] at hcompleted
  simp only [Validator.fill, hy, hz, ← hcompleted, Option.getD_some]

/-! ### Lists and maps -/

private theorem Walk.optional_refill {item : Option Validator} (h : ∀ v, item = some v → v.Refills ∧ v.Holds)
    (x : Value) :
    (Walk.optional (Validator.walkOption true item) (Walk.optional (Validator.walkOption true item) x).2).2 =
      (Walk.optional (Validator.walkOption true (Validator.completedOption item)) x).2 := by
  cases item with
  | none => rfl
  | some v => exact (h v rfl).1.fill (h v rfl).2 x

theorem refills_slice {item : Option Validator} (h : ∀ v, item = some v → v.Refills ∧ v.Holds)
    (bounds : Bounds Nat) (length? : Option Nat) : (Validator.slice item bounds length?).Refills := by
  intro slot
  rcases slot with _ | x
  · rfl
  cases x with
  | list vs =>
    simp only [Validator.completed, Validator.walk, Walk.items_snd, List.map_map]
    congr 2
    exact List.map_congr_left fun x _ => Walk.optional_refill h x
  | _ => rfl

theorem refills_map {item : Option Validator} (key : Option Validator)
    (h : ∀ v, item = some v → v.Refills ∧ v.Holds) (bounds : Bounds Nat) :
    (Validator.map key item bounds).Refills := by
  intro slot
  rcases slot with _ | x
  · rfl
  cases x with
  | map es =>
    simp only [Validator.completed, Validator.walk, Walk.entries_snd, List.map_map]
    congr 2
    exact List.map_congr_left fun e _ => Prod.ext rfl (Walk.optional_refill h e.2)
  | struct fs =>
    simp only [Validator.completed, Validator.walk, Walk.named_snd, List.map_map]
    congr 2
    exact List.map_congr_left fun e _ => Prod.ext rfl (Walk.optional_refill h e.2)
  | _ => rfl

/-! ### Structs -/

/-- Walking a field twice is walking it once with the completed validator. -/
private theorem FieldCheck.leave_leave {c : FieldCheck} (h : c.validator.Refills) (hheld : c.validator.Holds)
    (hname : c.name ∉ c.access) (fields : Fields Value) :
    c.leave true (c.leave true fields) =
      FieldCheck.leave true ⟨c.access, c.name, c.label, c.validator.completed⟩ fields := by
  have hself := slot_leave_self hheld hname fields
  have hcompleted := h (c.slot fields)
  rw [leave_eq c (c.leave true fields), hself, leave_eq ⟨c.access, c.name, c.label, c.validator.completed⟩,
    leave_eq c fields]
  have hslot : FieldCheck.slot ⟨c.access, c.name, c.label, c.validator.completed⟩ fields = c.slot fields := rfl
  simp only [hslot, ← hcompleted]
  cases hfirst : (c.validator.walk true (c.slot fields)).2 with
  | none => rfl
  | some x =>
    obtain ⟨y, hy⟩ := Option.ne_none_iff_exists'.1 (hheld x)
    simp only [hy]
    exact Walk.put_put hname fields

/-- Fields are walked twice as once with the completed validators, as long as the names keep them apart. -/
theorem FieldCheck.walkAll_walkAll {checks : List FieldCheck} (hapart : checks.Pairwise FieldCheck.Apart)
    (hname : ∀ c ∈ checks, c.name ∉ c.access) (h : ∀ c ∈ checks, c.validator.Refills ∧ c.validator.Holds)
    (fields : Fields Value) :
    (walkAll true checks (walkAll true checks fields).2).2 = (walkAll true (completedAll checks) fields).2 := by
  induction checks generalizing fields with
  | nil => rfl
  | cons c checks ih =>
    obtain ⟨hc, hchecks⟩ := List.pairwise_cons.1 hapart
    obtain ⟨hnameC, hname⟩ := List.forall_mem_cons.1 hname
    obtain ⟨⟨hrefills, hheld⟩, h⟩ := List.forall_mem_cons.1 h
    have hsteady : c.Steady (c.leave true fields) := by
      intro hvacant
      rw [slot_leave_self hheld hnameC] at hvacant
      cases hget : c.slot fields with
      | none => rwa [hget] at hvacant
      | some x =>
        rw [hget] at hvacant
        exact absurd hvacant (hheld x)
    have hcompleted : completedAll (c :: checks) =
        ⟨c.access, c.name, c.label, c.validator.completed⟩ :: completedAll checks := by
      cases c
      rw [completedAll]
    rw [hcompleted, walkAll_cons_snd, walkAll_cons_snd, walkAll_cons_snd, leave_walkAll_comm hc hsteady,
      ih hchecks hname h, leave_leave hrefills hheld hnameC]

theorem refills_struct {checks : List FieldCheck} (hapart : checks.Pairwise FieldCheck.Apart)
    (hname : ∀ c ∈ checks, c.name ∉ c.access) (h : ∀ c ∈ checks, c.validator.Refills ∧ c.validator.Holds) :
    (Validator.struct checks).Refills := by
  intro slot
  rcases slot with _ | x
  · rfl
  cases x with
  | struct fields =>
    simp only [Validator.completed, Validator.walk]
    rw [FieldCheck.walkAll_walkAll hapart hname h]
  | _ => rfl

/-! ### Complete defaults -/

/-- Whether each default in a list of nodes is left as it is by its own rule. -/
def DefaultsComplete (nodes : List Validator) : Prop :=
  ∀ l, .loader l ∈ nodes → ∀ text d, l.onEmpty = .fill text d → (l.walk true (some d)).2 = some d

private theorem DefaultsComplete.mono {ns ms : List Validator} (h : DefaultsComplete ms) (hsub : ∀ v ∈ ns, v ∈ ms) :
    DefaultsComplete ns :=
  fun l hl => h l (hsub _ hl)

mutual

/-- Completing changes nothing when the defaults are complete. -/
theorem Validator.completed_eq : (v : Validator) → DefaultsComplete v.nodes → v.completed = v
  | .integer _, _ | .float _, _ | .text _, _ | .format _, _ => by rw [Validator.completed]
  | .slice item bounds length?, h => by
    rw [Validator.completed, Validator.completedOption_eq item]
    exact h.mono fun v hv => List.mem_cons_of_mem _ hv
  | .map key item bounds, h => by
    rw [Validator.completed, Validator.completedOption_eq item]
    exact h.mono fun v hv => List.mem_cons_of_mem _ (List.mem_append_right _ hv)
  | .struct checks, h => by
    rw [Validator.completed, FieldCheck.completedAll_eq checks]
    exact h.mono fun v hv => List.mem_cons_of_mem _ hv
  | .loader l, h => by
    rw [Validator.completed, Loader.completed_eq l h]

private theorem Loader.completed_eq : (l : Loader) → DefaultsComplete (Validator.loader l).nodes → l.completed = l
  | ⟨schema, inner, onEmpty, message?, codec?⟩, h => by
    have hinner : Validator.completedOption inner = inner := by
      refine Validator.completedOption_eq inner (h.mono fun v hv => ?_)
      exact List.mem_cons_of_mem _ hv
    have hpolicy : onEmpty.mapDefault
        (fun d => (Loader.walk true ⟨schema, inner, onEmpty, message?, codec?⟩ (some d)).2.getD d) = onEmpty := by
      cases onEmpty with
      | refuse | pass => rfl
      | fill text d =>
        have hdefault := h _ (List.mem_cons_self ..) text d rfl
        rw [EmptyPolicy.mapDefault, hdefault]
        rfl
    rw [Loader.completed, hinner, hpolicy]

private theorem Validator.completedOption_eq : (v? : Option Validator) → DefaultsComplete (Validator.nodesOption v?) →
    Validator.completedOption v? = v?
  | none, _ => rfl
  | some v, h => by rw [Validator.completedOption, Validator.completed_eq v h]

private theorem FieldCheck.completedAll_eq : (checks : List FieldCheck) → DefaultsComplete (FieldCheck.nodes checks) →
    FieldCheck.completedAll checks = checks
  | [], _ => rfl
  | ⟨access, name, label, validator⟩ :: checks, h => by
    rw [FieldCheck.nodes] at h
    rw [FieldCheck.completedAll, Validator.completed_eq validator (h.mono fun v hv => List.mem_append_left _ hv),
      FieldCheck.completedAll_eq checks (h.mono fun v hv => List.mem_append_right _ hv)]

end

end FieldRules
