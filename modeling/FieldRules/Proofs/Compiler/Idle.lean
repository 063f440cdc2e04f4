import FieldRules.Proofs.Compiler.Alike
import FieldRules.Proofs.Validator.Parts

/-!
# Parts that do nothing

A loader without a check and without a default is left out of the check around it. It refuses nothing
(`Alike.idle`), so a check does the same with it and without it. A check that accepts everything is left out where it
was inferred; it changes no value either. Therefore validators that are alike leave the same values behind, whatever
each of them leaves out and whatever the value is (`Alike.walk_snd`).
-/

namespace FieldRules

/-! ### Loaders -/

/-- Whether a validator that is left out does nothing. -/
def Validator.Idle (v : Validator) : Prop :=
  v.isNoop = true → ∀ fills slot, v.walk fills slot = ([], slot)

private theorem Loader.idle {l : Loader} (h : l.inner = none → l.onEmpty ≠ .refuse) : (Validator.loader l).Idle := by
  intro hnoop fills slot
  obtain ⟨hinner, hdefault⟩ : l.inner = none ∧ l.onEmpty.default? = none := by
    simpa [Validator.isNoop, Loader.isNoop] using hnoop
  rw [Validator.walk]
  cases hempty : l.isEmpty slot.read with
  | false => exact l.walk_of_unchecked hinner fills hempty
  | true =>
    have hoptional : l.onEmpty.isOptional = true := by
      cases hpolicy : l.onEmpty with
      | refuse => exact absurd hpolicy (h hinner)
      | pass | fill => rfl
    rw [l.walk_of_empty fills hempty, hoptional, hdefault]
    cases fills <;> rfl

variable {scope scope' : Scope} {M : Option String → Option String → Prop} {s t : Schema} {m : Option String}
  {w v : Validator}

theorem Scope.settle_eq_none {inferred : Bool} {c : Validator} :
    scope.settle inferred c = none ↔ scope.simplifies = true ∧ inferred = true ∧ c.isVacuous = true := by
  simp [Scope.settle, and_assoc]

/-- A check that is kept is the check itself. -/
theorem Scope.settle_eq_some {inferred : Bool} {c d : Validator} (h : scope.settle inferred c = some d) : d = c := by
  unfold Scope.settle at h
  split at h
  · cases h
  · exact (Option.some.inj h).symm

/-- Loaders that are alike do nothing where they may be left out. -/
theorem Alike.idle (h : Alike scope scope' M s m w v) : w.Idle ∧ v.Idle := by
  cases h with
  | unchecked _ _ optional => exact ⟨Loader.idle fun _ => optional, Loader.idle fun _ => optional⟩
  | checked _ _ optional _ _ =>
    exact ⟨Loader.idle fun h => optional (Scope.settle_eq_none.1 h).2.1,
      Loader.idle fun h => optional (Scope.settle_eq_none.1 h).2.1⟩

/-! ### Checks around them -/

/-- A part is walked as if it were kept. -/
private theorem Validator.Idle.optional_keep (h : v.Idle) (scope : Scope) (fills : Bool) (x : Value) :
    Walk.optional (Validator.walkOption fills (scope.keep v)) x =
      ((v.walk fills (some x)).1, (v.walk fills (some x)).2.getD x) := by
  unfold Scope.keep
  split
  next hdropped =>
    rw [h (Bool.and_eq_true_iff.1 hdropped).2]
    rfl
  next => rfl

/-- Fields are walked as if all their checks were kept. -/
private theorem FieldCheck.walkAll_retains (scope : Scope) (fills : Bool) {all : List FieldCheck}
    (h : ∀ c ∈ all, c.validator.Idle) (fields : Fields Value) :
    FieldCheck.walkAll fills (all.filter scope.retains) fields = FieldCheck.walkAll fills all fields := by
  induction all generalizing fields with
  | nil => rfl
  | cons c all ih =>
    obtain ⟨hc, hall⟩ := List.forall_mem_cons.1 h
    by_cases hkept : scope.retains c = true
    · rw [List.filter_cons_of_pos hkept]
      refine Prod.ext ?_ ?_
      · rw [walkAll_cons_fst, walkAll_cons_fst, ih hall]
      · rw [walkAll_cons_snd, walkAll_cons_snd, ih hall]
    · have hnoop : c.validator.isNoop = true := by
        simp only [Scope.retains, Bool.not_eq_true', Bool.not_eq_false, Bool.and_eq_true] at hkept
        exact hkept.2
      have hidle := hc hnoop fills
      have hleave : c.leave fills fields = fields :=
        Walk.within_snd_of_same (Walk.field_snd_of_same (by rw [hidle]))
      rw [List.filter_cons_of_neg hkept, ih hall]
      refine Prod.ext ?_ ?_
      · rw [walkAll_cons_fst, hidle, hleave]
        rfl
      · rw [walkAll_cons_snd, hleave]

theorem AlikeFields.idle {as : List FieldAt} {all all' : List FieldCheck} :
    AlikeFields scope scope' M as all all' → (∀ c ∈ all, c.validator.Idle) ∧ ∀ c ∈ all', c.validator.Idle
  | .nil => ⟨List.forall_mem_nil _, List.forall_mem_nil _⟩
  | .cons field rest =>
    ⟨List.forall_mem_cons.2 ⟨field.idle.1, rest.idle.1⟩, List.forall_mem_cons.2 ⟨field.idle.2, rest.idle.2⟩⟩

/-! ### Values -/

/-- A check that accepts everything leaves values as they are. -/
private theorem Validator.walk_snd_of_isVacuous {c : Validator} (h : c.isVacuous = true) (fills : Bool)
    (slot : Slot) : (c.walk fills slot).2 = slot := by
  cases c with
  | integer | float | text | format | loader => cases h
  | slice item bounds length? =>
    obtain rfl : item = none := by
      simp only [Validator.isVacuous, Bool.and_eq_true] at h
      exact Option.isNone_iff_eq_none.1 h.1.1
    simp only [Validator.walk]
    split
    next vs => simp [Walk.items_snd, Walk.optional_none]
    next => rfl
  | map key item bounds =>
    obtain rfl : item = none := by
      simp only [Validator.isVacuous, Bool.and_eq_true] at h
      exact Option.isNone_iff_eq_none.1 h.1.2
    simp only [Validator.walk]
    split
    next es => simp [Walk.entries_snd, Walk.optional_none]
    next fs => simp [Walk.named_snd, Walk.optional_none]
    next => rfl
  | struct checks =>
    obtain rfl : checks = [] := List.isEmpty_iff.1 h
    simp only [Validator.walk, FieldCheck.walkAll]
    split <;> simp_all [Walk.keep]

/-- What a loader without a check leaves. -/
private theorem Loader.walk_snd_of_unchecked {l : Loader} (hinner : l.inner = none) (fills : Bool) (slot : Slot) :
    (l.walk fills slot).2 = if l.schema.deemsEmpty slot.read && fills then l.onEmpty.default? <|> slot else slot := by
  have hisEmpty : l.isEmpty slot.read = l.schema.deemsEmpty slot.read := rfl
  cases hempty : l.schema.deemsEmpty slot.read with
  | true =>
    rw [l.walk_of_empty fills (hisEmpty.trans hempty), Bool.true_and]
  | false => rw [l.walk_of_unchecked hinner fills (hisEmpty.trans hempty), Bool.false_and, if_neg Bool.false_ne_true]

/-- A loader leaves the values that its check leaves, kept as it may be. -/
private theorem Loader.walk_snd_of_settled (scope : Scope) {l : Loader} {inferred : Bool} {c : Validator}
    (hinner : l.inner = scope.settle inferred c) (fills : Bool) (slot : Slot) :
    (l.walk fills slot).2 =
      if l.schema.deemsEmpty slot.read then if fills then l.onEmpty.default? <|> slot else slot
      else if l.codec?.isSome then slot else (c.walk fills slot).2 := by
  have hisEmpty : l.isEmpty slot.read = l.schema.deemsEmpty slot.read := rfl
  cases hempty : l.schema.deemsEmpty slot.read with
  | true => rw [l.walk_of_empty fills (hisEmpty.trans hempty), if_pos rfl]
  | false =>
    rw [hempty] at hisEmpty
    rw [if_neg Bool.false_ne_true]
    cases hcodec : l.codec? with
    | some codec => rw [l.walk_of_codec hcodec fills hisEmpty]; rfl
    | none =>
      rw [l.walk_of_nonempty hcodec fills hisEmpty, hinner]
      simp only [Option.isSome_none, Bool.false_eq_true, if_false]
      cases hkept : scope.settle inferred c with
      | none => rw [c.walk_snd_of_isVacuous (Scope.settle_eq_none.1 hkept).2.2]
      | some d => rw [Scope.settle_eq_some hkept]

mutual

/-- Validators that are alike leave the same values behind. -/
theorem Alike.walk_snd {s : Schema} {m : Option String} {w v : Validator} : Alike scope scope' M s m w v →
    ∀ fills slot, (w.walk fills slot).2 = (v.walk fills slot).2
  | .unchecked schemas _ _, fills, slot => by
    rw [Validator.walk, Validator.walk, Loader.walk_snd_of_unchecked rfl, Loader.walk_snd_of_unchecked rfl,
      schemas.deemsEmpty]
  | .checked schemas _ _ _ checks, fills, slot => by
    rw [Validator.walk, Validator.walk, Loader.walk_snd_of_settled scope rfl, Loader.walk_snd_of_settled scope' rfl,
      schemas.deemsEmpty, schemas.codec?, checks.walk_snd fills slot]

private theorem AlikeCheck.walk_snd {t : Schema} {c c' : Validator} : AlikeCheck scope scope' M t c c' →
    ∀ fills slot, (c.walk fills slot).2 = (c'.walk fills slot).2
  | .leaf _ _, _, _ => rfl
  | .slice _ _ items, fills, slot => by
    refine Validator.walk_slice_snd (fun x => ?_) _ _ slot
    rw [items.idle.1.optional_keep, items.idle.2.optional_keep, items.walk_snd fills]
  | .map _ _ _ items, fills, slot => by
    refine Validator.walk_map_snd (fun x => ?_) _ _ _ slot
    rw [items.idle.1.optional_keep, items.idle.2.optional_keep, items.walk_snd fills]
  | .struct _ fields, fills, slot => by
    have hfields := fields.walkAll_snd fills
    simp only [Validator.walk, FieldCheck.walkAll_retains scope fills fields.idle.1,
      FieldCheck.walkAll_retains scope' fills fields.idle.2]
    split
    next fs => rw [hfields]
    next => rfl

private theorem AlikeFields.walkAll_snd {as : List FieldAt} {all all' : List FieldCheck} :
    AlikeFields scope scope' M as all all' → ∀ fills fields,
      (FieldCheck.walkAll fills all fields).2 = (FieldCheck.walkAll fills all' fields).2
  | .nil, _, _ => rfl
  | .cons field rest, fills, fields => by
    rw [FieldCheck.walkAll_cons_snd, FieldCheck.walkAll_cons_snd, rest.walkAll_snd fills,
      FieldCheck.leave_congr (field.walk_snd fills)]

end

end FieldRules
