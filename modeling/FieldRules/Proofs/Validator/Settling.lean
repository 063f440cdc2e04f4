import FieldRules.Proofs.Validator.Agreement

/-!
# Filled values pass as they are

A validator settles a slot when what a filling walk without violations leaves there has none in a walk that does
not fill. Lists, maps and structs settle with their parts: for a struct each check finds in the end what its own
walk has left in the field (`FieldCheck.slot_walkAll`), as long as the names keep the checks apart. A loader
settles when its default passes and its check leaves nothing empty (`Loader.settles`).
-/

namespace FieldRules

/-- Whether slots that pass with defaults filled in pass as they are then. -/
def Validator.Settles (v : Validator) : Prop :=
  ∀ slot : Slot, (v.walk true slot).1 = [] → (v.walk false (v.walk true slot).2).1 = []

/-- Whether a filling walk leaves a value where there was one. -/
def Validator.Holds (v : Validator) : Prop :=
  ∀ x, (v.walk true (some x)).2 ≠ none

theorem Validator.Settles.fill {v : Validator} (h : v.Settles) (hheld : v.Holds) {x : Value}
    (hx : (v.fill x).1 = []) : v.validate (v.fill x).2 = [] := by
  have hpasses := h (some x) hx
  obtain ⟨y, hy⟩ := Option.ne_none_iff_exists'.1 (hheld x)
  have hfilled : (v.fill x).2 = y := congrArg (·.getD x) hy
  rw [hy] at hpasses
  rwa [hfilled]

namespace Walk

/-! ### Lists and maps -/

variable {walk walk' : Value → Report × Value}

private theorem items_settle (h : ∀ x, (walk x).1 = [] → (walk' (walk x).2).1 = []) (i : Nat) (vs : List Value)
    (hvs : (items walk i vs).1 = []) : (items walk' i (items walk i vs).2).1 = [] := by
  induction vs generalizing i with
  | nil => rfl
  | cons v vs ih =>
    simp only [items, List.append_eq_nil_iff, Report.under_eq_nil] at hvs ⊢
    exact ⟨h v hvs.1, ih (i + 1) hvs.2⟩

private theorem entries_settle {key : Value → Report} (h : ∀ x, (walk x).1 = [] → (walk' (walk x).2).1 = [])
    (es : List (Value × Value)) (hes : (entries key walk es).1 = []) :
    (entries key walk' (entries key walk es).2).1 = [] := by
  induction es with
  | nil => rfl
  | cons e es ih =>
    simp only [entries, List.append_eq_nil_iff, Report.under_eq_nil] at hes ⊢
    exact ⟨⟨hes.1.1, h e.2 hes.1.2⟩, ih hes.2⟩

private theorem named_settle {key : Value → Report} (h : ∀ x, (walk x).1 = [] → (walk' (walk x).2).1 = [])
    (fs : List (String × Value)) (hfs : (named key walk fs).1 = []) :
    (named key walk' (named key walk fs).2).1 = [] := by
  induction fs with
  | nil => rfl
  | cons f fs ih =>
    simp only [named, List.append_eq_nil_iff, Report.under_eq_nil] at hfs ⊢
    exact ⟨⟨hfs.1.1, h f.2 hfs.1.2⟩, ih hfs.2⟩

private theorem optional_settle {item : Option Validator} (h : ∀ v, item = some v → v.Settles ∧ v.Holds) (x : Value)
    (hx : (optional (Validator.walkOption true item) x).1 = []) :
    (optional (Validator.walkOption false item) (optional (Validator.walkOption true item) x).2).1 = [] := by
  cases item with
  | none => rfl
  | some v => exact (h v rfl).1.fill (h v rfl).2 hx

/-! ### Fields -/

variable {walk : Slot → Report × Slot} {name : String} {access : List String}

/-- Walking a field leaves those under other names alone that hold no struct. -/
theorem get?_within_of_not_struct (walk : Slot → Report × Slot) {step : String} (hname : name ≠ step)
    (access : List String) {fields : Fields Value} (h : ¬ ∃ inner, Fields.get? fields step = some (.struct inner)) :
    Fields.get? (within (field walk name) access fields).2 step = Fields.get? fields step := by
  induction access with
  | nil => exact get?_field_snd walk hname
  | cons embedded access ih =>
    by_cases hstruct : ∃ inner, Fields.get? fields embedded = some (.struct inner)
    · obtain ⟨inner, hinner⟩ := hstruct
      have hne : embedded ≠ step := by
        rintro rfl
        exact h ⟨inner, hinner⟩
      rw [within_of_struct hinner]
      exact Fields.get?_set_ne fields _ hne
    · rwa [within_of_not_struct hstruct]

/-- What a walk has left in a field is found there, if the field does not lie on the way to itself. -/
private theorem get?_reach_within_self (hheld : ∀ x, (walk (some x)).2 ≠ none) (hname : name ∉ access)
    (fields : Fields Value) :
    Fields.get? (reach access (within (field walk name) access fields).2) name =
      (walk (Fields.get? (reach access fields) name)).2 := by
  induction access generalizing fields with
  | nil =>
    simp only [within, field, reach]
    split
    next r v hv => rw [hv, Fields.get?_set_self]
    next r hv =>
      rw [hv]
      cases hget : Fields.get? fields name with
      | none => rfl
      | some x =>
        rw [hget] at hv
        exact absurd (congrArg Prod.snd hv) (hheld x)
  | cons step access ih =>
    rw [List.mem_cons, not_or] at hname
    by_cases hstruct : ∃ inner, Fields.get? fields step = some (.struct inner)
    · obtain ⟨inner, hinner⟩ := hstruct
      rw [within_of_struct hinner, reach_of_struct hinner, reach_of_struct (Fields.get?_set_self ..)]
      exact ih hname.2 inner
    · have hafter := get?_within_of_not_struct walk hname.1 access hstruct
      rw [within_of_not_struct hstruct, reach_of_not_struct hstruct, reach_of_not_struct (hafter ▸ hstruct)]
      exact ih hname.2 fields

end Walk

namespace FieldCheck

variable {checks : List FieldCheck}

theorem slot_leave_self {c : FieldCheck} (hheld : c.validator.Holds) (hname : c.name ∉ c.access)
    (fields : Fields Value) : c.slot (c.leave true fields) = (c.validator.walk true (c.slot fields)).2 :=
  Walk.get?_reach_within_self hheld hname fields

private theorem slot_walkAll_of_apart {fills : Bool} {c : FieldCheck} (h : ∀ d ∈ checks, d.Apart c)
    (fields : Fields Value) : c.slot (walkAll fills checks fields).2 = c.slot fields := by
  induction checks generalizing fields with
  | nil => rfl
  | cons d checks ih =>
    obtain ⟨hd, hchecks⟩ := List.forall_mem_cons.1 h
    rw [walkAll_cons_snd, ih hchecks, slot_leave hd]

/-- In the end each check finds in its field what its own walk has left there. -/
theorem slot_walkAll (hapart : checks.Pairwise Apart) (hheld : ∀ c ∈ checks, c.validator.Holds)
    (hname : ∀ c ∈ checks, c.name ∉ c.access) (fields : Fields Value) :
    ∀ c ∈ checks, c.slot (walkAll true checks fields).2 = (c.validator.walk true (c.slot fields)).2 := by
  induction checks generalizing fields with
  | nil => exact List.forall_mem_nil _
  | cons c checks ih =>
    obtain ⟨hc, hchecks⟩ := List.pairwise_cons.1 hapart
    obtain ⟨hheldC, hheld⟩ := List.forall_mem_cons.1 hheld
    obtain ⟨hnameC, hname⟩ := List.forall_mem_cons.1 hname
    rw [walkAll_cons_snd]
    refine List.forall_mem_cons.2 ⟨?_, fun d hd => ?_⟩
    · have hback : ∀ d ∈ checks, d.Apart c := fun d hd => ⟨(hc d hd).1.symm, (hc d hd).2.2, (hc d hd).2.1⟩
      rw [slot_walkAll_of_apart hback, slot_leave_self hheldC hnameC]
    · rw [ih hchecks hheld hname _ d hd, slot_leave (hc d hd)]

end FieldCheck

/-! ### Checks -/

theorem settles_slice {item : Option Validator} (h : ∀ v, item = some v → v.Settles ∧ v.Holds)
    (bounds : Bounds Nat) (length? : Option Nat) : (Validator.slice item bounds length?).Settles := by
  intro slot
  simp only [Validator.walk]
  split
  next vs =>
    intro hpasses
    obtain ⟨hlength, hitems⟩ := List.append_eq_nil_iff.1 hpasses
    have hafter := Walk.items_settle (Walk.optional_settle h) 0 vs hitems
    simp only [List.append_eq_nil_iff]
    refine ⟨?_, hafter⟩
    rwa [Walk.items_snd, List.length_map]
  · intro hpasses
    cases hpasses

theorem settles_map {item : Option Validator} (key : Option Validator)
    (h : ∀ v, item = some v → v.Settles ∧ v.Holds) (bounds : Bounds Nat) :
    (Validator.map key item bounds).Settles := by
  intro slot
  simp only [Validator.walk]
  split
  next es =>
    intro hpasses
    obtain ⟨hlength, hentries⟩ := List.append_eq_nil_iff.1 hpasses
    have hafter := Walk.entries_settle (Walk.optional_settle h) es hentries
    simp only [List.append_eq_nil_iff]
    refine ⟨?_, hafter⟩
    rwa [Walk.entries_snd, List.length_map]
  next fs =>
    intro hpasses
    obtain ⟨hlength, hnamed⟩ := List.append_eq_nil_iff.1 hpasses
    have hafter := Walk.named_settle (Walk.optional_settle h) fs hnamed
    simp only [List.append_eq_nil_iff]
    refine ⟨?_, hafter⟩
    rwa [Walk.named_snd, List.length_map]
  · intro hpasses
    cases hpasses

theorem settles_struct {checks : List FieldCheck} (hapart : checks.Pairwise FieldCheck.Apart)
    (hname : ∀ c ∈ checks, c.name ∉ c.access)
    (h : ∀ c ∈ checks, c.validator.Settles ∧ c.validator.Holds) : (Validator.struct checks).Settles := by
  intro slot
  simp only [Validator.walk]
  split
  next fields =>
    intro hpasses
    rw [FieldCheck.walkAll_fst_of_apart true hapart, List.flatMap_eq_nil_iff] at hpasses
    simp only
    rw [FieldCheck.walkAll_false_fst, List.flatMap_eq_nil_iff]
    intro c hc
    have hslot := FieldCheck.slot_walkAll hapart (fun c hc => (h c hc).2) hname fields c hc
    rw [hslot, Report.under_eq_nil]
    exact (h c hc).1 _ (Report.under_eq_nil.1 (hpasses c hc))
  · intro hpasses
    cases hpasses

end FieldRules
