import FieldRules.Regex.Match
import Mathlib.Logic.Function.Iterate

/-!
# What the matcher finds

`Regex.Spans` says between which places of a text an expression matches, one clause for each kind of expression. The
sets of places that the matcher goes through hold exactly the ends of such spans (`Regex.moves_image`): a repetition
without bound needs no more rounds than the text has places, since each round that gets on passes a character. So an
expression matches a text when it spans some part of it (`Regex.isMatch_iff`).
-/

namespace FieldRules.Regex

/-! ### Steps of a relation -/

/-- So many steps of a relation, one after the other. -/
def Steps (R : Nat → Nat → Prop) : Nat → Nat → Nat → Prop
  | 0, i, j => i = j
  | n + 1, i, j => ∃ k, R i k ∧ Steps R n k j

variable {R : Nat → Nat → Prop} {n i j : Nat}

private theorem steps_add {m : Nat} : Steps R (m + n) i j ↔ ∃ k, Steps R m i k ∧ Steps R n k j := by
  induction m generalizing i with
  | zero => simp [Steps]
  | succ m ih =>
    rw [Nat.succ_add]
    simp only [Steps, ih]
    constructor
    · rintro ⟨a, ha, b, hb, hbj⟩
      exact ⟨b, ⟨a, ha, hb⟩, hbj⟩
    · rintro ⟨b, ⟨a, ha, hb⟩, hbj⟩
      exact ⟨a, ha, b, hb, hbj⟩

/-- Whether a step stays where it is or moves on, at most up to a bound. -/
def MovesOn (bound : Nat) (R : Nat → Nat → Prop) : Prop :=
  ∀ i j, R i j → i = j ∨ (i < j ∧ j ≤ bound)

private theorem MovesOn.steps {bound : Nat} (h : MovesOn bound R) (n : Nat) : MovesOn bound (Steps R n) := by
  induction n with
  | zero => exact fun i j hij => .inl hij
  | succ n ih =>
    rintro i j ⟨k, hik, hkj⟩
    rcases h i k hik with rfl | ⟨hlt, hle⟩
    · exact ih i j hkj
    · rcases ih k j hkj with rfl | ⟨hlt', hle'⟩
      · exact .inr ⟨hlt, hle⟩
      · exact .inr ⟨Nat.lt_trans hlt hlt', hle'⟩

/-- Leaving out the steps that stay, one needs no more steps than there are places up to the bound. -/
private theorem MovesOn.steps_le {bound : Nat} (h : MovesOn bound R) (hsteps : Steps R n i j) :
    ∃ m ≤ bound - i, Steps R m i j := by
  induction n generalizing i with
  | zero => exact ⟨0, Nat.zero_le _, hsteps⟩
  | succ n ih =>
    obtain ⟨k, hik, hkj⟩ := hsteps
    obtain ⟨m, hm, hmj⟩ := ih hkj
    rcases h i k hik with rfl | ⟨hlt, hle⟩
    · exact ⟨m, hm, hmj⟩
    · exact ⟨m + 1, by omega, k, hik, hmj⟩

/-! ### Sets of places -/

/-- Whether a function on sets of places goes along a relation. -/
def Moves (f : Nat → Nat) (R : Nat → Nat → Prop) : Prop :=
  ∀ places j, (f places).testBit j = true ↔ ∃ i, places.testBit i = true ∧ R i j

variable {f : Nat → Nat} {k places met fresh : Nat}

private theorem iterate_eq (f : Nat → Nat) (k places : Nat) : iterate f k places = f^[k] places := by
  induction k generalizing places with
  | zero => rfl
  | succ k ih =>
    rw [iterate, Function.iterate_succ_apply]
    split
    next hfixed => rw [hfixed, Function.iterate_fixed hfixed]
    next => exact ih _

private theorem Moves.iterate (h : Moves f R) (k : Nat) : Moves (iterate f k) (Steps R k) := by
  intro places j
  rw [iterate_eq]
  induction k generalizing places with
  | zero => simp [Steps]
  | succ k ih =>
    rw [Function.iterate_succ_apply, ih]
    constructor
    · rintro ⟨b, hb, hbj⟩
      obtain ⟨a, ha, hab⟩ := (h places b).1 hb
      exact ⟨a, ha, b, hab, hbj⟩
    · rintro ⟨a, ha, b, hab, hbj⟩
      exact ⟨b, (h places b).2 ⟨a, ha, hab⟩, hbj⟩

/-- A set that holds what one step leads to holds what any steps lead to. -/
private theorem Moves.testBit_of_closed (h : Moves f R)
    (hclosed : ∀ j, (f met).testBit j = true → met.testBit j = true) (hi : met.testBit i = true)
    (hsteps : Steps R n i j) : met.testBit j = true := by
  induction n generalizing i with
  | zero => exact hsteps ▸ hi
  | succ n ih =>
    obtain ⟨k, hik, hkj⟩ := hsteps
    exact ih (hclosed k ((h met k).2 ⟨i, hi, hik⟩)) hkj

/-- Searching on from the places that the last round added, when one step from those met before leads to no others,
meets what so many steps from all of them lead to. -/
private theorem Moves.testBit_widen (h : Moves f R) (k : Nat)
    (hfresh : ∀ i, fresh.testBit i = true → met.testBit i = true)
    (hclosed : ∀ j, (f met).testBit j = true → met.testBit j = true ∨ (f fresh).testBit j = true) :
    (widen f k met fresh).testBit j = true ↔ ∃ n ≤ k, ∃ i, met.testBit i = true ∧ Steps R n i j := by
  induction k generalizing met fresh with
  | zero =>
    simp only [widen, Nat.le_zero, exists_eq_left, Steps]
    exact ⟨fun hj => ⟨j, hj, rfl⟩, fun ⟨i, hi, hij⟩ => hij ▸ hi⟩
  | succ k ih =>
    rw [widen]
    have hnew (i : Nat) : (f fresh ^^^ (f fresh &&& met)).testBit i = true ↔
        (f fresh).testBit i = true ∧ met.testBit i = false := by
      simp
    split
    next hnone =>
      have hstays (j : Nat) (hj : (f met).testBit j = true) : met.testBit j = true := by
        by_contra hout
        have hadded := (hnew j).2 ⟨(hclosed j hj).resolve_left hout, Bool.eq_false_iff.2 hout⟩
        rw [hnone, Nat.zero_testBit] at hadded
        cases hadded
      constructor
      · exact fun hj => ⟨0, Nat.zero_le _, j, hj, rfl⟩
      · rintro ⟨n, -, i, hi, hij⟩
        exact h.testBit_of_closed hstays hi hij
    next hsome =>
      have hstep (j : Nat) (hj : (f met).testBit j = true) :
          (met ||| (f fresh ^^^ (f fresh &&& met))).testBit j = true := by
        rw [Nat.testBit_or, Bool.or_eq_true]
        cases hmet : met.testBit j with
        | true => exact .inl rfl
        | false => exact .inr ((hnew j).2 ⟨(hclosed j hj).resolve_left (by simp [hmet]), hmet⟩)
      rw [ih (fun i hi => by rw [Nat.testBit_or, hi, Bool.or_true]) ?_]
      · simp only [Nat.testBit_or, Bool.or_eq_true]
        constructor
        · rintro ⟨n, hn, i, hi | hi, hij⟩
          · exact ⟨n, by omega, i, hi, hij⟩
          · -- A place of the last round is one step away from those met before.
            obtain ⟨a, ha, hai⟩ := (h fresh i).1 ((hnew i).1 hi).1
            exact ⟨n + 1, by omega, a, hfresh a ha, i, hai, hij⟩
        · rintro ⟨n, hn, i, hi, hij⟩
          cases n with
          | zero => exact ⟨0, Nat.zero_le _, i, .inl hi, hij⟩
          | succ n =>
            obtain ⟨a, hia, haj⟩ := hij
            have ha := hstep a ((h met a).2 ⟨i, hi, hia⟩)
            rw [Nat.testBit_or, Bool.or_eq_true] at ha
            exact ⟨n, by omega, a, ha, haj⟩
      · intro j hj
        obtain ⟨a, ha, haj⟩ := (h _ j).1 hj
        rw [Nat.testBit_or, Bool.or_eq_true] at ha
        rcases ha with ha | ha
        · exact .inl (hstep j ((h met j).2 ⟨a, ha, haj⟩))
        · exact .inr ((h _ j).2 ⟨a, ha, haj⟩)

/-! ### Spans -/

/-- The character in front of a place. -/
def charBefore (text : List Char) : Nat → Option Char
  | 0 => none
  | i + 1 => text[i]?

/-- Whether an expression matches the part of a text between two places. -/
def Spans (text : List Char) : Regex → Nat → Nat → Prop
  | .empty, i, j => i = j
  | .oneOf s, i, j => j = i + 1 ∧ ∃ c, text[i]? = some c ∧ s.contains c = true
  | .anchor a, i, j => i = j ∧ i ≤ text.length ∧ a.holds (charBefore text i) text[i]? = true
  | .seq a b, i, j => ∃ k, Spans text a i k ∧ Spans text b k j
  | .alt a b, i, j => Spans text a i j ∨ Spans text b i j
  | .group _ r, i, j => Spans text r i j
  | .repeated _ min max r, i, j => ∃ more, (∀ m ∈ max, more ≤ m - min) ∧ Steps (Spans text r) (min + more) i j

variable {text : List Char} {r : Regex}

private theorem movesOn_spans (text : List Char) (r : Regex) : MovesOn text.length (Spans text r) := by
  induction r with
  | empty => exact fun i j h => .inl h
  | oneOf s =>
    rintro i j ⟨rfl, c, hc, -⟩
    exact .inr ⟨Nat.lt_succ_self i, (List.getElem?_eq_some_iff.1 hc).1⟩
  | anchor a => exact fun i j h => .inl h.1
  | seq a b iha ihb =>
    rintro i j ⟨k, hik, hkj⟩
    rcases iha i k hik with rfl | ⟨hlt, hle⟩
    · exact ihb i j hkj
    · rcases ihb k j hkj with rfl | ⟨hlt', hle'⟩
      · exact .inr ⟨hlt, hle⟩
      · exact .inr ⟨Nat.lt_trans hlt hlt', hle'⟩
  | alt a b iha ihb => exact fun i j h => h.elim (iha i j) (ihb i j)
  | group captures r ih => exact ih
  | repeated greedy min max r ih =>
    rintro i j ⟨more, -, hsteps⟩
    exact ih.steps _ i j hsteps

private theorem getElem?_neighbours_eq_some {n : Option Char × Option Char} :
    (neighbours text)[i]? = some n ↔ i ≤ text.length ∧ n = (charBefore text i, text[i]?) := by
  have hbefore : (none :: text.map some)[i]? = some n.1 ↔ i ≤ text.length ∧ n.1 = charBefore text i := by
    cases i with
    | zero => simp [charBefore, eq_comm]
    | succ i =>
      rw [List.getElem?_cons_succ, List.getElem?_map, Option.map_eq_some_iff, charBefore]
      constructor
      · rintro ⟨c, hc, hn⟩
        exact ⟨(List.getElem?_eq_some_iff.1 hc).1, hn ▸ hc.symm⟩
      · rintro ⟨hi, hn⟩
        exact ⟨text[i], List.getElem?_eq_getElem hi, (hn.trans (List.getElem?_eq_getElem hi)).symm⟩
  have hafter : (text.map some ++ [none])[i]? = some n.2 ↔ i ≤ text.length ∧ n.2 = text[i]? := by
    rcases Nat.lt_trichotomy i text.length with hi | rfl | hi
    · rw [List.getElem?_append_left (by simpa using hi), List.getElem?_map, List.getElem?_eq_getElem hi]
      simp [Nat.le_of_lt hi, eq_comm]
    · simp [eq_comm]
    · rw [List.getElem?_eq_none (by simpa using Nat.succ_le_of_lt hi)]
      simp [Nat.not_le.2 hi]
  rw [neighbours, List.getElem?_zip_eq_some, hbefore, hafter, Prod.ext_iff]
  exact ⟨fun ⟨⟨hi, hn⟩, _, hm⟩ => ⟨hi, hn, hm⟩, fun ⟨hi, hn, hm⟩ => ⟨⟨hi, hn⟩, hi, hm⟩⟩

/-- The sets of places that the matcher goes through are the ends of spans. -/
theorem moves_image (text : List Char) (r : Regex) : Moves (locate text r).image (Spans text r) := by
  induction r with
  | empty => exact fun places j => ⟨fun hj => ⟨j, hj, rfl⟩, fun ⟨i, hi, hij⟩ => hij ▸ hi⟩
  | oneOf s =>
    intro places j
    rw [locate, Located.image, Nat.testBit_shiftLeft, Nat.testBit_and, testBit_bits]
    cases j with
    | zero => simp [Spans]
    | succ j =>
      simp only [Nat.le_add_left, decide_true, Bool.true_and, Nat.add_sub_cancel, Bool.and_eq_true,
        Option.any_eq_true, Spans, Nat.add_right_cancel_iff]
      exact ⟨fun ⟨hj, h⟩ => ⟨j, hj, rfl, h⟩, fun ⟨i, hi, hij, h⟩ => hij ▸ ⟨hi, h⟩⟩
  | anchor a =>
    intro places j
    rw [locate, Located.image, Nat.testBit_and, testBit_bits]
    simp only [Bool.and_eq_true, Option.any_eq_true, getElem?_neighbours_eq_some, Spans]
    constructor
    · rintro ⟨hj, _, ⟨hle, rfl⟩, h⟩
      exact ⟨j, hj, rfl, hle, h⟩
    · rintro ⟨i, hi, rfl, hle, h⟩
      exact ⟨hi, _, ⟨hle, rfl⟩, h⟩
  | seq a b iha ihb =>
    intro places j
    rw [locate, Located.image, ihb]
    simp only [iha places, Spans]
    constructor
    · rintro ⟨k, ⟨i, hi, hik⟩, hkj⟩
      exact ⟨i, hi, k, hik, hkj⟩
    · rintro ⟨i, hi, k, hik, hkj⟩
      exact ⟨k, ⟨i, hi, hik⟩, hkj⟩
  | alt a b iha ihb =>
    intro places j
    rw [locate, Located.image, Nat.testBit_or, Bool.or_eq_true, iha, ihb]
    simp only [Spans, and_or_left, exists_or]
  | group captures r ih => exact ih
  | repeated greedy min max r ih =>
    intro places j
    have hsearch (more : Nat) : ((Located.repeated min more (locate text r)).image places).testBit j = true ↔
        ∃ n ≤ more, ∃ i, places.testBit i = true ∧ Steps (Spans text r) (min + n) i j := by
      rw [Located.image, ih.testBit_widen more (fun _ hi => hi) fun _ hj => .inr hj]
      simp only [ih.iterate min places, steps_add]
      constructor
      · rintro ⟨n, hn, k, ⟨i, hi, hik⟩, hkj⟩
        exact ⟨n, hn, i, hi, k, hik, hkj⟩
      · rintro ⟨n, hn, i, hi, k, hik, hkj⟩
        exact ⟨n, hn, k, ⟨i, hi, hik⟩, hkj⟩
    cases max with
    | some m =>
      rw [locate, hsearch]
      simp only [Spans, Option.mem_some_iff, forall_eq']
      exact ⟨fun ⟨n, hn, i, hi, h⟩ => ⟨i, hi, n, hn, h⟩, fun ⟨i, hi, n, hn, h⟩ => ⟨n, hn, i, hi, h⟩⟩
    | none =>
      rw [locate, hsearch]
      simp only [Spans, Option.not_mem_none, false_implies, implies_true, true_and]
      constructor
      · rintro ⟨n, -, i, hi, h⟩
        exact ⟨i, hi, n, h⟩
      · rintro ⟨i, hi, n, h⟩
        -- Beyond the least number, steps that stay can be left out.
        obtain ⟨k, hik, hkj⟩ := steps_add.1 h
        obtain ⟨m, hm, hkj⟩ := (movesOn_spans text r).steps_le hkj
        exact ⟨m, by omega, i, hi, steps_add.2 ⟨k, hik, hkj⟩⟩

/-- An expression matches a text when it spans some part of it. -/
theorem isMatch_iff : r.isMatch text = true ↔ ∃ i j, i ≤ text.length ∧ Spans text r i j := by
  have hplaces (i : Nat) : (bits (fun _ => true) (neighbours text)).testBit i = true ↔ i ≤ text.length := by
    rw [testBit_bits, Option.any_eq_true]
    simp only [getElem?_neighbours_eq_some, and_true]
    exact ⟨fun ⟨_, hi, _⟩ => hi, fun hi => ⟨_, hi, rfl⟩⟩
  rw [isMatch, bne_iff_ne]
  constructor
  · intro hsome
    obtain ⟨j, hj⟩ := Nat.exists_testBit_of_ne_zero hsome
    obtain ⟨i, hi, h⟩ := (moves_image text r _ j).1 hj
    exact ⟨i, j, (hplaces i).1 hi, h⟩
  · rintro ⟨i, j, hi, h⟩ hnone
    have hj := (moves_image text r _ j).2 ⟨i, (hplaces i).2 hi, h⟩
    rw [hnone, Nat.zero_testBit] at hj
    cases hj

end FieldRules.Regex
