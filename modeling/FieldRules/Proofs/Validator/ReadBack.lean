import FieldRules.Proofs.Rule.WellFormed
import FieldRules.Proofs.Text.Numeral
import FieldRules.Validator.Bounds

/-!
# Bounds read back

Bounds that were read from a range are written as a range that is read as the same bounds
(`Bounds.ofRange?_range?`). The two ranges need not be alike, as two equal ends become a single value.
-/

namespace FieldRules

/-! ### Computations that succeed -/

theorem bind_eq_ok {ε α β : Type} {x : Except ε α} {f : α → Except ε β} {b : β} :
    (x >>= f) = .ok b ↔ ∃ a, x = .ok a ∧ f a = .ok b := by
  cases x <;> simp [bind, Except.bind]

theorem exists_of_toOption_any {ε α : Type} {x : Except ε α} {test : α → Bool}
    (h : x.toOption.any test = true) : ∃ a, x = .ok a ∧ test a = true := by
  cases x with
  | error e => cases h
  | ok a => exact ⟨a, rfl, h⟩

theorem mapM_eq_ok {ε α β : Type} {f : α → Except ε β} {as : List α} {bs : List β} (h : as.mapM f = .ok bs) :
    ∀ b ∈ bs, ∃ a ∈ as, f a = .ok b := by
  induction as generalizing bs with
  | nil =>
    obtain rfl : [] = bs := Except.ok.inj h
    simp
  | cons a as ih =>
    rw [List.mapM_cons, bind_eq_ok] at h
    obtain ⟨b, hb, h⟩ := h
    obtain ⟨bs', hbs, h⟩ := bind_eq_ok.1 h
    obtain rfl : b :: bs' = bs := Except.ok.inj h
    intro b' hb'
    rcases List.mem_cons.1 hb' with rfl | hb'
    · exact ⟨a, List.mem_cons_self .., hb⟩
    · obtain ⟨a', ha', h⟩ := ih hbs b' hb'
      exact ⟨a', List.mem_cons_of_mem _ ha', h⟩

theorem exists_of_mapM_eq_ok {ε α β : Type} {f : α → Except ε β} {as : List α} {bs : List β}
    (h : as.mapM f = .ok bs) : ∀ a ∈ as, ∃ b ∈ bs, f a = .ok b := by
  induction as generalizing bs with
  | nil => simp
  | cons a as ih =>
    rw [List.mapM_cons, bind_eq_ok] at h
    obtain ⟨b, hb, h⟩ := h
    obtain ⟨bs', hbs, h⟩ := bind_eq_ok.1 h
    obtain rfl : b :: bs' = bs := Except.ok.inj h
    refine List.forall_mem_cons.2 ⟨⟨b, List.mem_cons_self .., hb⟩, ?_⟩
    intro a' ha'
    obtain ⟨b', hb', ha'⟩ := ih hbs a' ha'
    exact ⟨b', List.mem_cons_of_mem _ hb', ha'⟩

theorem mapM_map_of_ok {ε α β : Type} {f : α → Except ε β} {g : β → α} {bs : List β}
    (h : ∀ b ∈ bs, f (g b) = .ok b) : (bs.map g).mapM f = .ok bs := by
  induction bs with
  | nil => rfl
  | cons b bs ih =>
    rw [List.map_cons, List.mapM_cons, h b (List.mem_cons_self ..),
      ih fun b hb => h b (List.mem_cons_of_mem _ hb)]
    rfl

/-! ### Bounds -/

/-- A reader of quantities that reads back what it has read, from a text that can stand in a range. -/
structure ReadsBack {α : Type} [Quantity α] (read : String → Except Defect α) : Prop where
  text : ∀ {t a}, read t = .ok a → read (Quantity.text a) = .ok a
  literal : ∀ {t a}, read t = .ok a → IsLiteral (Quantity.text a)
  eq : ∀ {a b : α}, Quantity.eq a b = true → a = b

namespace Bounds

variable {α : Type} [Quantity α] {read : String → Except Defect α} {b : Bounds α}

theorem ofRange?_some_eq_ok {range : Range} : ofRange? read (some range) = .ok b ↔
    readEnd read range.min = .ok b.min ∧ readEnd read range.max = .ok b.max ∧
      (∀ lo hi, b.min = some lo → b.max = some hi → Quantity.lt hi lo = false) ∧
      range.exclusiveMin = b.exclusiveMin ∧ range.exclusiveMax = b.exclusiveMax := by
  obtain ⟨min, max, exclusiveMin, exclusiveMax⟩ := b
  constructor
  · intro h
    obtain ⟨min', hmin, h⟩ := bind_eq_ok.1 h
    obtain ⟨max', hmax, h⟩ := bind_eq_ok.1 h
    split at h
    next lo hi =>
      split at h
      next => cases h
      next hle =>
        cases h
        refine ⟨hmin, hmax, ?_, rfl, rfl⟩
        rintro _ _ ⟨⟩ ⟨⟩
        exact Bool.eq_false_iff.2 hle
    next hopen =>
      cases h
      refine ⟨hmin, hmax, ?_, rfl, rfl⟩
      rintro lo hi rfl rfl
      exact (hopen lo hi rfl rfl).elim
  · rintro ⟨hmin, hmax, hle, rfl, rfl⟩
    refine bind_eq_ok.2 ⟨min, hmin, bind_eq_ok.2 ⟨max, hmax, ?_⟩⟩
    split
    next lo hi =>
      rw [hle lo hi rfl rfl]
      rfl
    · rfl

omit [Quantity α] in
/-- An end that was read was missing and is, or it has a text that was read. -/
theorem readEnd_cases {bound : Option String} {a? : Option α} (h : readEnd read bound = .ok a?) :
    (bound = none ∧ a? = none) ∨ ∃ t a, bound = some t ∧ a? = some a ∧ read t = .ok a := by
  cases bound with
  | none => exact .inl ⟨rfl, (Except.ok.inj h).symm⟩
  | some t =>
    cases ha : read t with
    | error => simp [readEnd, ha, Except.map] at h
    | ok a =>
      have hsome : some a = a? := by simpa [readEnd, ha, Except.map] using h
      exact .inr ⟨t, a, rfl, hsome.symm, ha⟩

private theorem readEnd_text (hread : ReadsBack read) {bound : Option String} {a? : Option α}
    (h : readEnd read bound = .ok a?) :
    readEnd read (a?.map Quantity.text) = .ok a? ∧ ∀ t ∈ a?.map Quantity.text, IsLiteral t := by
  rcases readEnd_cases h with ⟨-, rfl⟩ | ⟨t, a, -, rfl, ha⟩
  · exact ⟨rfl, by simp⟩
  · refine ⟨by simp [readEnd, hread.text ha, Except.map], ?_⟩
    simpa using hread.literal ha

omit [Quantity α] in
theorem eq_empty_of_isTrivial (h : b.isTrivial = true) : b = {} := by
  obtain ⟨min, max, exclusiveMin, exclusiveMax⟩ := b
  simp only [isTrivial, Bool.and_eq_true, Option.isNone_iff_eq_none, Bool.not_eq_true'] at h
  obtain ⟨⟨⟨rfl, rfl⟩, rfl⟩, rfl⟩ := h
  rfl

/-- The range that bounds are written as is read as the bounds, and it has a text. -/
theorem ofRange?_range? (hread : ReadsBack read) {range : Option Range} (h : ofRange? read range = .ok b) :
    ofRange? read b.range? = .ok b ∧ ∀ rg ∈ b.range?, rg.WellFormed := by
  by_cases htrivial : b.isTrivial = true
  · obtain rfl := eq_empty_of_isTrivial htrivial
    exact ⟨rfl, by simp [range?, htrivial]⟩
  cases range with
  | none =>
    obtain rfl : {} = b := Except.ok.inj h
    exact absurd rfl htrivial
  | some range =>
    obtain ⟨hmin, hmax, hle, -, -⟩ := ofRange?_some_eq_ok.1 h
    obtain ⟨hmin, hminText⟩ := readEnd_text hread hmin
    obtain ⟨hmax, hmaxText⟩ := readEnd_text hread hmax
    have hspan : b.range? = some (.span (b.min.map Quantity.text) (b.max.map Quantity.text) b.exclusiveMin
        b.exclusiveMax) → ofRange? read b.range? = .ok b ∧ ∀ rg ∈ b.range?, rg.WellFormed := by
      intro hrange
      rw [hrange]
      refine ⟨ofRange?_some_eq_ok.2 ⟨hmin, hmax, hle, rfl, rfl⟩, ?_⟩
      rintro _ ⟨⟩
      exact ⟨hminText, hmaxText⟩
    cases hlo : b.min with
    | none => exact hspan (by simp [range?, htrivial, hlo])
    | some lo =>
      cases hhi : b.max with
      | none => exact hspan (by simp [range?, htrivial, hlo, hhi])
      | some hi =>
        -- Equal ends that both belong to the range are written as one, all others as a span.
        by_cases hexact : (Quantity.eq lo hi && !b.exclusiveMin && !b.exclusiveMax) = true
        · have hrange : b.range? = some (.exact (Quantity.text lo)) := by
            simp only [range?, htrivial, hlo, hhi, hexact, if_true, if_false, Bool.false_eq_true]
          simp only [Bool.and_eq_true, Bool.not_eq_true'] at hexact
          obtain ⟨⟨heq, hexclusiveMin⟩, hexclusiveMax⟩ := hexact
          obtain rfl := hread.eq heq
          rw [hlo] at hmin hminText
          rw [hrange]
          constructor
          · exact ofRange?_some_eq_ok.2 ⟨hlo ▸ hmin, hhi ▸ hmin, hle, hexclusiveMin.symm, hexclusiveMax.symm⟩
          · rintro _ ⟨⟩
            exact ⟨hminText, hminText⟩
        · exact hspan (by
            simp only [range?, htrivial, hlo, hhi, hexact, Bool.false_eq_true, if_false, Option.map_some])

end Bounds

theorem readsBack_readLength : ReadsBack readLength where
  text := by
    intro t n h
    unfold readLength at h
    split at h
    next m hread =>
      obtain rfl := Except.ok.inj h
      simp [readLength, Quantity.text, Text.readWord?_digits_of_eq hread]
    · cases h
  literal := fun _ => Text.isLiteral_digits _
  eq := of_decide_eq_true

end FieldRules
