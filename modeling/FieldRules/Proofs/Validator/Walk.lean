import FieldRules.Validator.Walk

/-!
# What a walk reports

The report of a composite is put together from the reports of its parts, in order. For the fields of a struct
this takes an argument, since each check sees what the ones before it have left behind: a check reads the slot
of its field in the struct that it reaches (`FieldCheck.slot`), a walk that does not fill leaves all slots as
they are, and one that fills leaves the slots of other fields as they are, as long as the names keep them
apart (`FieldCheck.Apart`).
-/

namespace FieldRules

private theorem Fields.set_of_get? {α : Type} {fs : Fields α} {name : String} {a : α} (h : fs.get? name = some a) :
    fs.set name a = fs := by
  induction fs with
  | nil => cases h
  | cons f rest ih =>
    obtain ⟨n, b⟩ := f
    by_cases hn : n = name
    · simp only [get?, hn, if_true, Option.some.injEq] at h
      simp [set, hn, h]
    · simp only [get?, hn, if_false] at h
      simp [set, hn, ih h]

namespace Walk

/-! ### Lists and maps -/

theorem items_fst (walk : Value → Report × Value) (i : Nat) (vs : List Value) :
    (items walk i vs).1 = (vs.zipIdx i).flatMap fun e => (walk e.1).1.under (.index e.2) := by
  induction vs generalizing i with
  | nil => rfl
  | cons v vs ih => simp [items, ih]

theorem items_snd (walk : Value → Report × Value) (i : Nat) (vs : List Value) :
    (items walk i vs).2 = vs.map fun v => (walk v).2 := by
  induction vs generalizing i with
  | nil => rfl
  | cons v vs ih => simp [items, ih]

theorem entries_fst (key : Value → Report) (item : Value → Report × Value) (es : List (Value × Value)) :
    (entries key item es).1 = es.flatMap fun e => (key e.1 ++ (item e.2).1).under (.key e.1.toString) := by
  induction es with
  | nil => rfl
  | cons e es ih => simp [entries, ih]

theorem entries_snd (key : Value → Report) (item : Value → Report × Value) (es : List (Value × Value)) :
    (entries key item es).2 = es.map fun e => (e.1, (item e.2).2) := by
  induction es with
  | nil => rfl
  | cons e es ih => simp [entries, ih]

theorem named_fst (key : Value → Report) (item : Value → Report × Value) (fs : List (String × Value)) :
    (named key item fs).1 = fs.flatMap fun f => (key (.string f.1) ++ (item f.2).1).under (.key f.1) := by
  induction fs with
  | nil => rfl
  | cons f fs ih => simp [named, ih]

theorem named_snd (key : Value → Report) (item : Value → Report × Value) (fs : List (String × Value)) :
    (named key item fs).2 = fs.map fun f => (f.1, (item f.2).2) := by
  induction fs with
  | nil => rfl
  | cons f fs ih => simp [named, ih]

/-! ### Embedded structs -/

/-- The struct that is reached through embedded fields. One that is not nested has its fields in the struct
around it. -/
def reach : List String → Fields Value → Fields Value
  | [], fields => fields
  | name :: access, fields => match Fields.get? fields name with
    | some (.struct inner) => reach access inner
    | _ => reach access fields

section

variable {α : Type} {f : Fields Value → α × Fields Value} {access : List String} {fields inner : Fields Value}
  {name : String}

theorem reach_of_struct (h : Fields.get? fields name = some (.struct inner)) :
    reach (name :: access) fields = reach access inner := by
  simp only [reach, h]

theorem reach_of_not_struct (h : ¬ ∃ inner, Fields.get? fields name = some (.struct inner)) :
    reach (name :: access) fields = reach access fields := by
  rw [reach]
  split
  next inner hinner => exact absurd ⟨inner, hinner⟩ h
  · rfl

theorem within_of_struct (h : Fields.get? fields name = some (.struct inner)) :
    within f (name :: access) fields =
      ((within f access inner).1, Fields.set fields name (.struct (within f access inner).2)) := by
  simp only [within, h]

theorem within_of_not_struct (h : ¬ ∃ inner, Fields.get? fields name = some (.struct inner)) :
    within f (name :: access) fields = within f access fields := by
  rw [within]
  split
  next inner hinner => exact absurd ⟨inner, hinner⟩ h
  · rfl

private theorem within_fst (f : Fields Value → α × Fields Value) (access : List String) (fields : Fields Value) :
    (within f access fields).1 = (f (reach access fields)).1 := by
  induction access generalizing fields with
  | nil => rfl
  | cons name access ih =>
    by_cases h : ∃ inner, Fields.get? fields name = some (.struct inner)
    · obtain ⟨inner, hinner⟩ := h
      rw [within_of_struct hinner, reach_of_struct hinner]
      exact ih inner
    · rw [within_of_not_struct h, reach_of_not_struct h]
      exact ih fields

/-- What changes nothing in the struct that is reached changes nothing around it. -/
theorem within_snd_of_same (h : (f (reach access fields)).2 = reach access fields) :
    (within f access fields).2 = fields := by
  induction access generalizing fields with
  | nil => exact h
  | cons name access ih =>
    by_cases hstruct : ∃ inner, Fields.get? fields name = some (.struct inner)
    · obtain ⟨inner, hinner⟩ := hstruct
      rw [reach_of_struct hinner] at h
      rw [within_of_struct hinner, ih h]
      exact Fields.set_of_get? hinner
    · rw [reach_of_not_struct hstruct] at h
      rw [within_of_not_struct hstruct, ih h]

private theorem field_fst (walk : Slot → Report × Slot) (name : String) (fields : Fields Value) :
    (field walk name fields).1 = (walk (Fields.get? fields name)).1 := by
  unfold field
  split
  next r v h => rw [h]
  next r h => rw [h]

theorem field_snd_of_same {walk : Slot → Report × Slot}
    (h : (walk (Fields.get? fields name)).2 = Fields.get? fields name) :
    (field walk name fields).2 = fields := by
  unfold field
  split
  next r v hwalk =>
    rw [hwalk] at h
    exact Fields.set_of_get? h.symm
  · rfl

/-- Walking a field changes no other one. -/
theorem get?_field_snd (walk : Slot → Report × Slot) {other : String} (h : name ≠ other) :
    Fields.get? (field walk name fields).2 other = Fields.get? fields other := by
  unfold field
  split
  · exact Fields.get?_set_ne fields _ h
  · rfl

/-- Two structs read alike behind embedded fields when these are alike, or are structs that read alike in
turn. -/
private theorem get?_reach_congr {other : String} {path : List String} {before after : Fields Value}
    (hread : Fields.get? after other = Fields.get? before other)
    (hsteps : ∀ step ∈ path, Fields.get? after step = Fields.get? before step ∨
      ∃ old new, Fields.get? before step = some (.struct old) ∧ Fields.get? after step = some (.struct new) ∧
        ∀ rest, (∀ step ∈ rest, step ∈ path) →
          Fields.get? (reach rest new) other = Fields.get? (reach rest old) other) :
    Fields.get? (reach path after) other = Fields.get? (reach path before) other := by
  induction path with
  | nil => exact hread
  | cons step path ih =>
    rcases hsteps step (List.mem_cons_self ..) with hsame | ⟨old, new, hold, hnew, hrest⟩
    · by_cases hstruct : ∃ inner, Fields.get? before step = some (.struct inner)
      · obtain ⟨inner, hinner⟩ := hstruct
        rw [reach_of_struct hinner, reach_of_struct (hsame.trans hinner)]
      · rw [reach_of_not_struct hstruct, reach_of_not_struct (hsame ▸ hstruct)]
        refine ih fun n hn => ?_
        rcases hsteps n (List.mem_cons_of_mem _ hn) with hsame | ⟨old, new, hold, hnew, hrest⟩
        · exact .inl hsame
        · exact .inr ⟨old, new, hold, hnew, fun rest h =>
            hrest rest fun m hm => List.mem_cons_of_mem _ (h m hm)⟩
    · rw [reach_of_struct hold, reach_of_struct hnew]
      exact hrest path fun n hn => List.mem_cons_of_mem _ hn

/-- What is read behind embedded fields stays, when another field is walked that neither is one of them nor
lies on the way to what is read. -/
private theorem get?_reach_within (walk : Slot → Report × Slot) {name other : String} {access path : List String}
    (hname : name ≠ other) (hpath : name ∉ path) (hother : other ∉ access) (fields : Fields Value) :
    Fields.get? (reach path (within (field walk name) access fields).2) other =
      Fields.get? (reach path fields) other := by
  induction access generalizing path fields with
  | nil =>
    refine get?_reach_congr (get?_field_snd walk hname) fun step hstep => .inl ?_
    exact get?_field_snd walk fun h => hpath (h ▸ hstep)
  | cons embedded access ih =>
    rw [List.mem_cons, not_or] at hother
    by_cases hstruct : ∃ inner, Fields.get? fields embedded = some (.struct inner)
    · obtain ⟨inner, hinner⟩ := hstruct
      rw [within_of_struct hinner]
      refine get?_reach_congr (Fields.get?_set_ne fields _ (Ne.symm hother.1)) fun step hstep => ?_
      by_cases hembedded : embedded = step
      · -- The way leads into the struct that holds the walked field, where the rest of it reads alike.
        subst hembedded
        refine .inr ⟨inner, _, hinner, Fields.get?_set_self fields embedded _, fun rest hrest => ?_⟩
        exact ih (fun h => hpath (hrest name h)) hother.2 inner
      · exact .inl (Fields.get?_set_ne fields _ hembedded)
    · rw [within_of_not_struct hstruct]
      exact ih hpath hother.2 fields

end

end Walk

namespace FieldCheck

/-- The slot that a check of a struct looks at. -/
def slot (c : FieldCheck) (fields : Fields Value) : Slot :=
  Fields.get? (Walk.reach c.access fields) c.name

/-- Whether two checks are of different fields, neither of which lies on the way to the other. -/
def Apart (c d : FieldCheck) : Prop :=
  c.name ≠ d.name ∧ c.name ∉ d.access ∧ d.name ∉ c.access

/-- What the check of a field leaves behind. -/
def leave (fills : Bool) (c : FieldCheck) (fields : Fields Value) : Fields Value :=
  (Walk.within (Walk.field (c.validator.walk fills) c.name) c.access fields).2

theorem walkAll_cons_fst (fills : Bool) (c : FieldCheck) (checks : List FieldCheck) (fields : Fields Value) :
    (walkAll fills (c :: checks) fields).1 =
      (c.validator.walk fills (c.slot fields)).1.under (.field c.label) ++
        (walkAll fills checks (c.leave fills fields)).1 := by
  obtain ⟨access, name, label, validator⟩ := c
  have hreport : (Walk.within (Walk.field (validator.walk fills) name) access fields).1 =
      (validator.walk fills (slot ⟨access, name, label, validator⟩ fields)).1 := by
    rw [Walk.within_fst, Walk.field_fst]
    rfl
  rw [← hreport]
  rfl

theorem walkAll_cons_snd (fills : Bool) (c : FieldCheck) (checks : List FieldCheck) (fields : Fields Value) :
    (walkAll fills (c :: checks) fields).2 = (walkAll fills checks (c.leave fills fields)).2 := by
  cases c
  rfl

theorem slot_leave {c d : FieldCheck} (h : c.Apart d) (fills : Bool) (fields : Fields Value) :
    d.slot (c.leave fills fields) = d.slot fields :=
  Walk.get?_reach_within _ h.1 h.2.1 h.2.2 fields

/-- Each check of fields that are kept apart reports on the field as it was in the beginning. -/
theorem walkAll_fst_of_apart (fills : Bool) {checks : List FieldCheck} (h : checks.Pairwise Apart)
    (fields : Fields Value) :
    (walkAll fills checks fields).1 =
      checks.flatMap fun c => (c.validator.walk fills (c.slot fields)).1.under (.field c.label) := by
  induction checks generalizing fields with
  | nil => rfl
  | cons c checks ih =>
    obtain ⟨hc, hchecks⟩ := List.pairwise_cons.1 h
    rw [walkAll_cons_fst, ih hchecks, List.flatMap_cons]
    have hrest : ∀ d ∈ checks,
        (d.validator.walk fills (d.slot (c.leave fills fields))).1.under (.field d.label) =
          (d.validator.walk fills (d.slot fields)).1.under (.field d.label) := by
      intro d hd
      rw [slot_leave (hc d hd)]
    rw [List.flatMap_def, List.flatMap_def, List.map_congr_left hrest]

end FieldCheck

/-! ### Walks that do not fill -/

theorem FieldCheck.leave_false {c : FieldCheck} (h : ∀ s, (c.validator.walk false s).2 = s)
    (fields : Fields Value) :
    c.leave false fields = fields :=
  Walk.within_snd_of_same (Walk.field_snd_of_same (h _))

mutual

theorem Validator.walk_false_snd : (v : Validator) → (s : Slot) → (v.walk false s).2 = s
  | .integer _, _ | .float _, _ | .text _, _ | .format _, _ => by simp only [Validator.walk, Walk.keep]
  | .slice item bounds length?, s => by
    simp only [Validator.walk]
    split
    next vs =>
      have hitems := Validator.walkOption_false_snd item
      simp [Walk.items_snd, hitems]
    · rfl
  | .map key item bounds, s => by
    have hitems := Validator.walkOption_false_snd item
    simp only [Validator.walk]
    split
    · simp [Walk.entries_snd, hitems]
    · simp [Walk.named_snd, hitems]
    · rfl
  | .struct checks, s => by
    simp only [Validator.walk]
    split
    next fields => simp [FieldCheck.walkAll_false_snd checks fields]
    · rfl
  | .loader l, s => by
    rw [Validator.walk]
    exact Loader.walk_false_snd l s

private theorem Loader.walk_false_snd : (l : Loader) → (s : Slot) → (l.walk false s).2 = s
  | ⟨schema, none, onEmpty, message?, codec?⟩, s => by
    simp only [Loader.walk]
    split
    · cases onEmpty <;> rfl
    · rfl
  | ⟨schema, some inner, onEmpty, message?, codec?⟩, s => by
    simp only [Loader.walk]
    split
    · cases onEmpty <;> rfl
    · cases codec? with
      | none => exact Validator.walk_false_snd inner s
      | some codec =>
        simp only
        split <;> rfl

private theorem Validator.walkOption_false_snd : (v? : Option Validator) → (x : Value) →
    (Walk.optional (Validator.walkOption false v?) x).2 = x
  | none, _ => rfl
  | some v, x => by
    have h := Validator.walk_false_snd v (some x)
    simp only [Validator.walkOption, Walk.optional, h]
    rfl

private theorem FieldCheck.walkAll_false_snd : (checks : List FieldCheck) → (fields : Fields Value) →
    (FieldCheck.walkAll false checks fields).2 = fields
  | [], _ => rfl
  | ⟨access, name, label, validator⟩ :: checks, fields => by
    have h : (FieldCheck.mk access name label validator).leave false fields = fields :=
      FieldCheck.leave_false (fun s => Validator.walk_false_snd validator s) fields
    rw [FieldCheck.walkAll_cons_snd, h]
    exact FieldCheck.walkAll_false_snd checks fields

end

/-- Without filling, each check reports on the fields as they are, whatever their names. -/
theorem FieldCheck.walkAll_false_fst (checks : List FieldCheck) (fields : Fields Value) :
    (FieldCheck.walkAll false checks fields).1 =
      checks.flatMap fun c => (c.validator.walk false (c.slot fields)).1.under (.field c.label) := by
  induction checks with
  | nil => rfl
  | cons c checks ih =>
    rw [FieldCheck.walkAll_cons_fst, FieldCheck.leave_false (Validator.walk_false_snd c.validator), ih,
      List.flatMap_cons]

end FieldRules
