import FieldRules.Compiler.Factory
import FieldRules.Proofs.Validator.ReadBack

/-!
# What compiling does when it succeeds

Each step of the plain compiler, taken apart once: a site that is as expected (`Site.expect_eq_ok_iff`), a
loader around a check (`load_eq_ok_iff`), the rule in a param (`Site.nth_eq`), and the check of a rule whose
creator is known (`Site.inner_eq`).
-/

namespace FieldRules

/-- The plain compiler: its outcome is a validator or an error. -/
abbrev Compiled := Except CompileError

theorem orInvalid_eq_ok_iff {α : Type} {r : Rule} {x : Except Defect α} {a : α} :
    (orInvalid r x : Compiled α) = .ok a ↔ x = .ok a := by
  cases x with
  | error defect => constructor <;> rintro ⟨⟩
  | ok b => exact ⟨fun h => congrArg _ (Except.ok.inj h), fun h => congrArg _ (Except.ok.inj h)⟩

theorem Site.expect_eq_ok_iff {s : Site Compiled} {r : Rule} {kinds : List Kind} :
    s.expect r kinds = .ok () ↔ s.target.kind = .any ∨ s.target.kind ∈ kinds := by
  unfold Site.expect
  by_cases h : s.target.kind = .any ∨ s.target.kind ∈ kinds
  · simp only [h, if_true, iff_true]
    rfl
  · simp only [h, if_false, iff_false]
    simp

/-! ### Loaders -/

/-- The policy for empty values depends on the rule by its mark only. -/
theorem emptyPolicy_of_presence {s : Schema} {inner : Option Validator} {r : Rule} {policy : EmptyPolicy}
    (h : (emptyPolicy s inner r : Compiled EmptyPolicy) = .ok policy) :
    policy.presence = r.presence ∧
      ∀ r' : Rule, r'.presence = r.presence → (emptyPolicy s inner r' : Compiled EmptyPolicy) = .ok policy := by
  unfold emptyPolicy at h ⊢
  cases hpresence : r.presence with
  | required =>
    rw [hpresence] at h
    cases h
    exact ⟨rfl, fun r' h' => by rw [h']; rfl⟩
  | optional =>
    rw [hpresence] at h
    cases h
    exact ⟨rfl, fun r' h' => by rw [h']; rfl⟩
  | default text =>
    rw [hpresence] at h
    simp only at h
    split at h
    · cases h
    next value seen hread =>
      cases inner <;>
      · simp only at h
        split at h
        next hpasses =>
          cases h
          refine ⟨rfl, ?_⟩
          intro r' h'
          rw [h']
          simp only [hread]
          exact if_pos hpasses
        · cases h

theorem load_eq_ok_iff {s : Schema} {inner : Option Validator} {r : Rule} {message? : Option String}
    {v : Validator} :
    (load s inner r message? : Compiled Validator) = .ok v ↔
      ∃ policy, (emptyPolicy s inner r : Compiled EmptyPolicy) = .ok policy ∧
        v = .loader ⟨s, inner, policy, message?, s.codec?⟩ := by
  unfold load
  rw [bind_eq_ok]
  constructor
  · rintro ⟨policy, hpolicy, h⟩
    exact ⟨policy, hpolicy, (Except.ok.inj h).symm⟩
  · rintro ⟨policy, hpolicy, rfl⟩
    exact ⟨policy, hpolicy, rfl⟩

/-! ### Rules in params -/

namespace Site

variable {scope : Scope} {expand : Site Compiled → Schema → Option Rule → Compiled Validator}

/-- Compiles a rule in a param, or the inferred one, for a schema at its site. -/
def compileParam (scope : Scope) (expand : Site Compiled → Schema → Option Rule → Compiled Validator)
    (site : Site Compiled) (s : Schema) : Option Rule → Compiled Validator
  | none => expand site s none
  | some r => do load s (← site.inner scope expand false r) r none

/-- Compiles a rule in a param, or the inferred one, for a part of a site; a part of which nothing is known
takes any value. -/
def part (scope : Scope) (expand : Site Compiled → Schema → Option Rule → Compiled Validator)
    (known? : Option (Option Rule → Compiled Validator)) : Option Rule → Compiled Validator :=
  known?.getD (compileParam scope expand (leaf .any) .any)

/-- What a creator is given for a part of the site of a rule. -/
def partAt (r : Rule) (compile : Option Rule → Compiled Validator) (i : Nat) : Compiled Validator := do
  compile (← orInvalid r (paramRule r.params i))

theorem nth_eq (site : Site Compiled) (s : Schema) (params : List Param) (i : Nat) :
    nth scope expand site s params i = (paramRule params i).map (compileParam scope expand site s) := by
  induction params generalizing i with
  | nil => rfl
  | cons p params ih =>
    cases i with
    | zero => cases p <;> rfl
    | succ i => cases p <;> exact ih i

/-- What a creator is given to compile the rules in params for a schema at its site. -/
private theorem partAt_compileParam (expand : Site Compiled → Schema → Option Rule → Compiled Validator) (r : Rule)
    (site : Site Compiled) (s : Schema) (i : Nat) :
    partAt r (compileParam scope expand site s) i =
      (do (← orInvalid r (nth scope expand site s r.params i))) := by
  rw [nth_eq]
  simp only [partAt]
  cases paramRule r.params i <;> rfl

/-- What a creator is given to compile the rules in params for a part, known or not. -/
private theorem partAt_part (expand : Site Compiled → Schema → Option Rule → Compiled Validator) (r : Rule)
    (known? : Option (Option Rule → Compiled Validator)) :
    partAt r (part scope expand known?) = fun i => match known? with
      | some compile => (do compile (← orInvalid r (paramRule r.params i)))
      | none => (do (← orInvalid r (nth scope expand (leaf .any) .any r.params i))) := by
  funext i
  cases known? with
  | some compile => rfl
  | none => exact partAt_compileParam expand r (leaf .any) .any i

/-- The check of a rule by its creator. -/
theorem inner_eq_create (expand : Site Compiled → Schema → Option Rule → Compiled Validator) (site : Site Compiled)
    (inferred : Bool) {r : Rule} {creation : Creation} (hname : r.name ≠ "")
    (hcreation : Fields.get? scope.registry r.name = some creation) :
    site.inner scope expand inferred r = do
      let v ← site.create scope r (partAt r (part scope expand site.key?))
        (partAt r (part scope expand site.item?)) (partAt r (compileParam scope expand site.own site.target))
        (fun rule => expand site.own site.target (some rule)) creation
      return if scope.simplifies && inferred && v.isVacuous then none else some v := by
  have hsame : partAt r (compileParam scope expand site.own site.target) =
      fun i => (do (← orInvalid r (nth scope expand site.own site.target r.params i))) :=
    funext (partAt_compileParam expand r site.own site.target)
  rw [partAt_part, partAt_part, hsame]
  cases r
  simp only [inner, hname, if_false, hcreation]
  cases site.key? <;> cases site.item? <;> rfl

/-- The check of a rule by its creator, where it does not matter what is put in the place of the rule. -/
theorem inner_eq (expand : Site Compiled → Schema → Option Rule → Compiled Validator) (site : Site Compiled)
    (inferred : Bool) {r : Rule} {creation : Creation} (hname : r.name ≠ "")
    (hcreation : Fields.get? scope.registry r.name = some creation) :
    ∃ same anew, site.inner scope expand inferred r = do
      let v ← site.create scope r (partAt r (part scope expand site.key?))
        (partAt r (part scope expand site.item?))
        same anew creation
      return if scope.simplifies && inferred && v.isVacuous then none else some v :=
  ⟨_, _, inner_eq_create expand site inferred hname hcreation⟩

end Site

end FieldRules
