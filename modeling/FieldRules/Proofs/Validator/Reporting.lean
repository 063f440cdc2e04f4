import FieldRules.Proofs.Validator.Listing

/-!
# What reports say

A report is the list of all failures of a value (`Validator.report_lists_failures`): none is missing, made up,
doubled or out of order, whatever validators are nested in each other.
-/

namespace FieldRules

/-- The message of a loader replaces all others. -/
theorem Report.map_said (message? : Option String) (r : Report) :
    (match message? with
      | some message => r.withMessage message
      | none => r) = r.map (Violation.said message?) := by
  cases message? with
  | some message => rfl
  | none =>
    have hid : Violation.said none = id := rfl
    rw [hid, List.map_id]

section

variable {key item : Option Validator}

/-- What the items of a list report. -/
private theorem Walk.lists_items
    (hitem : ∀ x, Lists (Validator.PartFails item x) (Walk.optional (Validator.walkOption false item) x).1)
    (items : List Value) :
    Lists (fun place w => ∃ i y rest, items[i]? = some y ∧ place = i :: rest ∧
        ∃ u, Validator.PartFails item y rest u ∧ w = u.under (.index i))
      (Walk.items (Walk.optional (Validator.walkOption false item)) 0 items).1 := by
  rw [Walk.items_fst]
  have hparts := Lists.parts items.zipIdx (fun e _ => (hitem e.1).map (Violation.under (.index e.2))) 0
  refine hparts.congr fun place w => ?_
  constructor
  · rintro ⟨i, e, rest, hi, rfl, hrest⟩
    rw [List.getElem?_zipIdx, Option.map_eq_some_iff] at hi
    obtain ⟨y, hy, rfl⟩ := hi
    exact ⟨0 + i, y, rest, by simpa using hy, rfl, hrest⟩
  · rintro ⟨i, y, rest, hy, rfl, hrest⟩
    refine ⟨i, (y, i), rest, ?_, by rw [Nat.zero_add], hrest⟩
    rw [List.getElem?_zipIdx, hy, Option.map_some, Nat.zero_add]

/-- What the entries of a map report. -/
private theorem Walk.lists_entries
    (hkey : ∀ x, Lists (Validator.PartFails key x) (Walk.optional (Validator.walkOption false key) x).1)
    (hitem : ∀ x, Lists (Validator.PartFails item x) (Walk.optional (Validator.walkOption false item) x).1)
    (es : List (Value × Value)) :
    Lists (fun place w => ∃ i e rest, es[i]? = some e ∧ place = i :: rest ∧
      Validator.EntryFails key item e rest w)
      (es.flatMap fun e => ((Walk.optional (Validator.walkOption false key) e.1).1 ++
        (Walk.optional (Validator.walkOption false item) e.2).1).under (.key e.1.toString)) := by
  have hentry : ∀ e ∈ es, Lists (Validator.EntryFails key item e)
      (((Walk.optional (Validator.walkOption false key) e.1).1 ++
        (Walk.optional (Validator.walkOption false item) e.2).1).under (.key e.1.toString)) := by
    intro e _
    have hboth := ((hkey e.1).inPart 0).append ((hitem e.2).inPart 1) (by
      rintro place w place' w' ⟨rest, rfl, -⟩ ⟨rest', rfl, -⟩
      exact List.cons_lt_cons_iff.2 (.inl Nat.zero_lt_one))
    refine (hboth.map (Violation.under (.key e.1.toString))).congr fun place w => ?_
    constructor
    · rintro ⟨u, (⟨rest, hplace, hu⟩ | ⟨rest, hplace, hu⟩), rfl⟩
      · exact ⟨rest, u, .inl ⟨hplace, hu⟩, rfl⟩
      · exact ⟨rest, u, .inr ⟨hplace, hu⟩, rfl⟩
    · rintro ⟨rest, u, (⟨hplace, hu⟩ | ⟨hplace, hu⟩), rfl⟩
      · exact ⟨u, .inl ⟨rest, hplace, hu⟩, rfl⟩
      · exact ⟨u, .inr ⟨rest, hplace, hu⟩, rfl⟩
  refine (Lists.parts es hentry 0).congr fun place w => ?_
  simp only [Nat.zero_add]

end

/-- A single cause at the root, with the message of a loader. -/
private theorem Lists.said (message? : Option String) (cause : Cause) :
    Lists (fun place w => place = [] ∧ w = Violation.said message? { cause })
      ((Report.single cause).map (Violation.said message?)) :=
  ⟨[([], Violation.said message? { cause })], rfl, List.pairwise_singleton .., by simp⟩

theorem Slot.eq_some_of_read {s : Slot} {x : Value} (h : s.read = x) (hx : x ≠ .null) : s = some x := by
  cases s with
  | none => exact absurd h.symm hx
  | some y => exact congrArg some h

private theorem Slot.entries?_read_of_ne {s : Slot} (hmap : ∀ es, s ≠ some (.map es))
    (hstruct : ∀ fs, s ≠ some (.struct fs)) :
    s.read.entries? = none := by
  unfold Value.entries?
  split
  next es hx => exact absurd (Slot.eq_some_of_read hx (by simp)) (hmap es)
  next fs hx => exact absurd (Slot.eq_some_of_read hx (by simp)) (hstruct fs)
  · rfl

theorem Loader.walk_fst_of_empty {l : Loader} {s : Slot} (empty : l.isEmpty s.read = true) :
    (l.walk false s).1 =
      if l.onEmpty.isOptional then [] else (Report.single .missing).map (Violation.said l.message?) := by
  obtain ⟨schema, inner, onEmpty, message?, codec?⟩ := l
  rw [Loader.walk.eq_def]
  simp only [empty, if_true]
  cases onEmpty with
  | refuse => exact Report.map_said message? (Report.single .missing)
  | pass => rfl
  | fill text value => rfl

theorem Loader.walk_fst_of_nonempty {l : Loader} {s : Slot} {v : Validator}
    (nonempty : l.isEmpty s.read = false) (has_inner : l.inner = some v) :
    (l.walk false s).1 = (match l.codec? with
      | some codec => match codec.marshal s.read with
        | .ok text => (v.walk false (some (.string text))).1
        | .error reason => Report.single (.badText reason)
      | none => (v.walk false s).1).map (Violation.said l.message?) := by
  obtain ⟨schema, inner, onEmpty, message?, codec?⟩ := l
  cases has_inner
  rw [Loader.walk.eq_def]
  simp only [nonempty, Bool.false_eq_true, if_false]
  cases codec? with
  | none => exact Report.map_said message? _
  | some codec =>
    cases hmarshal : codec.marshal s.read with
    | ok text =>
      simp only [hmarshal]
      exact Report.map_said message? _
    | error reason =>
      simp only [hmarshal]
      exact Report.map_said message? _

private theorem Loader.lists_walk_of_empty {l : Loader} {s : Slot} (empty : l.isEmpty s.read = true) :
    Lists ((Validator.loader l).Fails s.read) (l.walk false s).1 := by
  rw [Loader.walk_fst_of_empty empty]
  split
  next optional =>
    refine Lists.nil.congr fun place w => ?_
    rw [Validator.fails_loader_empty empty, optional]
    simp
  next required =>
    refine (Lists.said l.message? .missing).congr fun place w => ?_
    rw [Validator.fails_loader_empty empty]
    simp [required]

mutual

/-- A walk that does not fill lists the failures of what its slot reads as. -/
private theorem Validator.lists_walk : (v : Validator) → (s : Slot) → Lists (v.Fails s.read) (v.walk false s).1
  | .integer c, s => by
    rw [Validator.walk]
    exact (Lists.ofCause _).congr fun _ _ => Validator.fails_integer.symm
  | .float c, s => by
    rw [Validator.walk]
    exact (Lists.ofCause _).congr fun _ _ => Validator.fails_float.symm
  | .text c, s => by
    rw [Validator.walk]
    exact (Lists.ofCause _).congr fun _ _ => Validator.fails_text.symm
  | .format f, s => by
    rw [Validator.walk]
    exact (Lists.ofCause _).congr fun _ _ => Validator.fails_format.symm
  | .slice item bounds length?, s => by
    simp only [Validator.walk]
    split
    next items =>
      have hitems := Walk.lists_items (Validator.lists_walkOption item) items
      refine (Lists.append_parts (bounds.check "slice length" items.length) hitems ?_).congr fun _ _ =>
        Validator.fails_slice_list.symm
      rintro place w ⟨i, y, rest, -, rfl, -⟩
      exact List.cons_ne_nil i rest
    next hs =>
      refine (Lists.ofCause _).congr fun _ _ => (Validator.fails_slice_other fun items hx => ?_).symm
      exact hs items (Slot.eq_some_of_read hx (by simp))
  | .map key item bounds, s => by
    have hentries := Walk.lists_entries (Validator.lists_walkOption key) (Validator.lists_walkOption item)
    have hbounds {x : Value} (es : List (Value × Value)) (hx : x.entries? = some es) :=
      (Lists.append_parts (bounds.check "map length" es.length) (hentries es)
        (by rintro place w ⟨i, e, rest, -, rfl, -⟩; exact List.cons_ne_nil i rest)).congr fun _ _ =>
          (Validator.fails_map_entries hx).symm
    simp only [Validator.walk]
    split
    next es =>
      rw [Walk.entries_fst]
      exact hbounds es rfl
    next fs =>
      -- A struct is walked like the map from the names of its fields.
      have hes := hbounds (x := .struct fs) (fs.map fun f => (.string f.1, f.2)) rfl
      rw [List.length_map, List.flatMap_map] at hes
      rw [Walk.named_fst]
      exact hes
    next hmap hstruct =>
      refine (Lists.ofCause _).congr fun _ _ => (Validator.fails_map_other ?_).symm
      exact Slot.entries?_read_of_ne hmap hstruct
  | .struct checks, s => by
    simp only [Validator.walk]
    split
    next fields =>
      rw [FieldCheck.walkAll_false_fst]
      have hchecks := FieldCheck.lists_walk checks fields
      refine (Lists.parts checks hchecks 0).congr fun place w => ?_
      simp only [Nat.zero_add]
      exact Validator.fails_struct.symm
    next hs =>
      refine (Lists.ofCause _).congr fun _ _ => (Validator.fails_struct_other fun fields hx => ?_).symm
      exact hs fields (Slot.eq_some_of_read hx (by simp))
  | .loader l, s => by
    rw [Validator.walk]
    exact Loader.lists_walk l s

private theorem Loader.lists_walk : (l : Loader) → (s : Slot) →
    Lists ((Validator.loader l).Fails s.read) (l.walk false s).1
  | ⟨schema, none, onEmpty, message?, codec?⟩, s => by
    by_cases empty : Loader.isEmpty ⟨schema, none, onEmpty, message?, codec?⟩ s.read
    · exact Loader.lists_walk_of_empty empty
    · rw [Loader.walk.eq_def]
      simp only [empty]
      exact Lists.nil.congr fun _ _ => iff_of_false id
        (Validator.not_fails_loader (Bool.eq_false_iff.2 empty) rfl)
  | ⟨schema, some inner, onEmpty, message?, codec?⟩, s => by
    by_cases empty : Loader.isEmpty ⟨schema, some inner, onEmpty, message?, codec?⟩ s.read
    · exact Loader.lists_walk_of_empty empty
    · have nonempty := Bool.eq_false_iff.2 empty
      rw [Loader.walk_fst_of_nonempty nonempty rfl]
      cases codec? with
      | none =>
        refine ((Validator.lists_walk inner s).map _).congr fun _ _ => ?_
        exact (Validator.fails_loader_inner nonempty rfl rfl).symm
      | some codec =>
        simp only
        split
        next text marshal =>
          refine ((Validator.lists_walk inner (some (.string text))).map _).congr fun _ _ => ?_
          exact (Validator.fails_loader_marshalled nonempty rfl rfl marshal).symm
        next reason marshal =>
          refine (Lists.said message? (.badText reason)).congr fun _ _ => ?_
          exact (Validator.fails_loader_badText nonempty rfl rfl marshal).symm

private theorem Validator.lists_walkOption : (v? : Option Validator) → (x : Value) →
    Lists (Validator.PartFails v? x) (Walk.optional (Validator.walkOption false v?) x).1
  | none, x => Lists.nil.congr (by simp [Validator.PartFails])
  | some v, x => (Validator.lists_walk v (some x)).congr (by simp [Validator.PartFails, Slot.read])

private theorem FieldCheck.lists_walk : (checks : List FieldCheck) → (fields : Fields Value) → ∀ c ∈ checks,
    Lists (fun place w => ∃ u, c.validator.Fails (c.slot fields).read place u ∧ w = u.under (.field c.label))
      ((c.validator.walk false (c.slot fields)).1.under (.field c.label))
  | [], _ => by simp
  | ⟨access, name, label, validator⟩ :: checks, fields => by
    have hrest := FieldCheck.lists_walk checks fields
    have hfirst := Validator.lists_walk validator (FieldCheck.slot ⟨access, name, label, validator⟩ fields)
    exact List.forall_mem_cons.2 ⟨hfirst.map _, hrest⟩

end

/-- A report lists all failures of a value, each once, in the order of their places. So a value passes when
nothing fails in it. -/
theorem Validator.report_lists_failures (v : Validator) (x : Value) :
    (∃ found : List (Place × Violation), found.map (·.2) = v.validate x ∧
      found.Pairwise (fun a b => a.1 < b.1) ∧
      ∀ place w, (place, w) ∈ found ↔ v.Fails x place w) ∧
    (v.isValid x = true ↔ ∀ place w, ¬ v.Fails x place w) := by
  obtain ⟨found, hreport, horder, hfound⟩ := v.lists_walk (some x)
  refine ⟨⟨found, hreport, horder, hfound⟩, ?_⟩
  have hpasses : v.isValid x = true ↔ found = [] := by
    show List.isEmpty (v.walk false (some x)).1 = true ↔ found = []
    rw [← hreport, List.isEmpty_iff, List.map_eq_nil_iff]
  rw [hpasses, List.eq_nil_iff_forall_not_mem]
  constructor
  · intro hnone place w hfails
    exact hnone (place, w) ((hfound place w).2 hfails)
  · rintro hnone ⟨place, w⟩ hmem
    exact hnone place w ((hfound place w).1 hmem)

end FieldRules
