import FieldRules.Proofs.Compiler.Agreement
import FieldRules.Proofs.Validator.ReadBack
import FieldRules.Proofs.Value.Same

/-!
# What filling changes

`Filled` says how a value and the value with defaults filled in belong together, without a walk: where the
value is empty for the type of a rule there can be the default of that rule, lists and maps keep their lengths
and keys, and structs keep their fields in order, behind which declared fields that are missing are added with
their defaults. A compiled validator fills in this way (`Factory.fill_filled`).
-/

namespace FieldRules

/-- The value is empty for the type of a rule, or of a rule that it stands for, and this is the default there,
the value of its text. -/
inductive Validator.Supplies : Validator → Value → Value → Prop
  | default {l : Loader} {x d seen : Value} {text : String} (empty : l.isEmpty x = true)
      (policy : l.onEmpty = .fill text d) (materialized : readDefault l.schema text = .ok (d, seen)) :
      Validator.Supplies (.loader l) x d
  | inner {l : Loader} {v : Validator} {x d : Value} (full : l.isEmpty x = false) (check : l.inner = some v)
      (plain : l.codec? = none) (h : v.Supplies x d) : Validator.Supplies (.loader l) x d

mutual

/-- The second value is the first one with defaults of a rule filled in. -/
inductive Filled (keys : TagKeys) : Validator → Value → Value → Prop
  | same (v : Validator) (x : Value) : Filled keys v x x
  | default {v : Validator} {x d : Value} (h : v.Supplies x d) : Filled keys v x d
  | inner {l : Loader} {v : Validator} {x y : Value} (full : l.isEmpty x = false) (check : l.inner = some v)
      (plain : l.codec? = none) (h : FilledCheck keys l.schema v x y) : Filled keys (.loader l) x y

/-- The second value is the first one, which is not empty, with defaults filled in below a check for a type. -/
inductive FilledCheck (keys : TagKeys) : Schema → Validator → Value → Value → Prop
  | same (s : Schema) (v : Validator) (x : Value) : FilledCheck keys s v x x
  | items (s : Schema) {item : Validator} {bounds : Bounds Nat} {length? : Option Nat} {xs ys : List Value}
      (length : ys.length = xs.length)
      (h : ∀ (i : Nat) (x y : Value), xs[i]? = some x → ys[i]? = some y → Filled keys item x y) :
      FilledCheck keys s (.slice (some item) bounds length?) (.list xs) (.list ys)
  | entries (s : Schema) {key? : Option Validator} {item : Validator} {bounds : Bounds Nat}
      {es fs : List (Value × Value)} (same_keys : fs.map (·.1) = es.map (·.1))
      (h : ∀ (i : Nat) (e f : Value × Value), es[i]? = some e → fs[i]? = some f → Filled keys item e.2 f.2) :
      FilledCheck keys s (.map key? (some item) bounds) (.map es) (.map fs)
  | named (s : Schema) {key? : Option Validator} {item : Validator} {bounds : Bounds Nat}
      {es fs : List (String × Value)} (same_names : fs.map (·.1) = es.map (·.1))
      (h : ∀ (i : Nat) (e f : String × Value), es[i]? = some e → fs[i]? = some f → Filled keys item e.2 f.2) :
      FilledCheck keys s (.map key? (some item) bounds) (.struct es) (.struct fs)
  | fields {s : Schema} {checks : List FieldCheck} {fs gs : Fields Value}
      (declared : ∀ c ∈ checks, c.spot ∈ s.spots keys []) (h : FieldsFilled keys checks fs gs) :
      FilledCheck keys s (.struct checks) (.struct fs) (.struct gs)
  /-- A rule that stands for another one. -/
  | loader (s : Schema) {v : Validator} {x y : Value} (h : Filled keys v x y) : FilledCheck keys s v x y

/-- The second fields are the first ones with the defaults of some fields filled in, one after the other. -/
inductive FieldsFilled (keys : TagKeys) : List FieldCheck → Fields Value → Fields Value → Prop
  | nil (fs : Fields Value) : FieldsFilled keys [] fs fs
  | cons {c : FieldCheck} {checks : List FieldCheck} {fs gs hs : Fields Value}
      (first : FieldFilled keys c.validator c.name c.access fs gs) (others : FieldsFilled keys checks gs hs) :
      FieldsFilled keys (c :: checks) fs hs

/-- The second fields are the first ones with the defaults of one field filled in, which is reached through
embedded fields. -/
inductive FieldFilled (keys : TagKeys) : Validator → String → List String → Fields Value → Fields Value → Prop
  | same (v : Validator) (name : String) (access : List String) (fs : Fields Value) :
      FieldFilled keys v name access fs fs
  | held {v : Validator} {name : String} {before after : Fields Value} {x y : Value}
      (first : name ∉ before.map (·.1)) (h : Filled keys v x y) :
      FieldFilled keys v name [] (before ++ (name, x) :: after) (before ++ (name, y) :: after)
  | missing {v : Validator} {name : String} {fs : Fields Value} {d : Value} (first : name ∉ fs.map (·.1))
      (h : v.Supplies .null d) : FieldFilled keys v name [] fs (fs ++ [(name, d)])
  | embedded {v : Validator} {name step : String} {access : List String} {before after fs gs : Fields Value}
      (first : step ∉ before.map (·.1)) (h : FieldFilled keys v name access fs gs) :
      FieldFilled keys v name (step :: access) (before ++ (step, .struct fs) :: after)
        (before ++ (step, .struct gs) :: after)
  /-- The fields of an embedded struct that is not nested are in the struct around it. -/
  | flat {v : Validator} {name step : String} {access : List String} {fs gs : Fields Value}
      (not_nested : ∀ inner, Fields.get? fs step ≠ some (.struct inner))
      (h : FieldFilled keys v name access fs gs) : FieldFilled keys v name (step :: access) fs gs

end

/-! ### One field -/

private theorem Fields.exists_split_of_get? {α : Type} {fs : Fields α} {name : String} {a : α}
    (h : fs.get? name = some a) :
    ∃ before after, fs = before ++ (name, a) :: after ∧ name ∉ before.map (·.1) ∧
      ∀ b, fs.set name b = before ++ (name, b) :: after := by
  induction fs with
  | nil => cases h
  | cons f rest ih =>
    obtain ⟨n, c⟩ := f
    by_cases hn : n = name
    · subst hn
      simp only [get?, if_true, Option.some.injEq] at h
      subst h
      exact ⟨[], rest, rfl, by simp, fun b => by simp [set]⟩
    · simp only [get?, hn, if_false] at h
      obtain ⟨before, after, rfl, hbefore, hset⟩ := ih h
      refine ⟨(n, c) :: before, after, rfl, ?_, fun b => by simp [set, hn, hset]⟩
      simp [hbefore, Ne.symm hn]

/-- What a slot can hold after a walk: a vacant one gets a default or stays vacant, and a value stays one that
is related to it. -/
inductive Slot.Leaves (v : Validator) (related : Value → Value → Prop) : Slot → Slot → Prop
  | vacant : Slot.Leaves v related none none
  | added {d : Value} (h : v.Supplies .null d) : Slot.Leaves v related none (some d)
  | held {x y : Value} (h : related x y) : Slot.Leaves v related (some x) (some y)

variable {keys : TagKeys} {P : Schema → Prop} {s : Schema} {v : Validator} {slot slot' : Slot}

private theorem Filled.leaves_self : (slot : Slot) → slot.Leaves v (Filled keys v) slot
  | none => .vacant
  | some x => .held (.same v x)

private theorem FilledCheck.leaves_self : (slot : Slot) → slot.Leaves v (FilledCheck keys s v) slot
  | none => .vacant
  | some x => .held (.same s v x)

private theorem fieldFilled_within {walk : Slot → Report × Slot}
    (hwalk : ∀ slot : Slot, slot.Leaves v (Filled keys v) (walk slot).2) (name : String) (access : List String)
    (fs : Fields Value) :
    FieldFilled keys v name access fs (Walk.within (Walk.field walk name) access fs).2 := by
  induction access generalizing fs with
  | nil =>
    have hslot := hwalk (fs.get? name)
    simp only [Walk.within, Walk.field]
    split
    next r y hy =>
      rw [hy] at hslot
      generalize hx : fs.get? name = slot at hslot
      cases hslot with
      | added h =>
        rw [Fields.set_of_get?_eq_none hx]
        exact .missing (Fields.get?_eq_none_iff.1 hx) h
      | held h =>
        obtain ⟨before, after, rfl, hbefore, hset⟩ := Fields.exists_split_of_get? hx
        rw [hset]
        exact .held hbefore h
    · exact .same ..
  | cons step access ih =>
    by_cases hstruct : ∃ inner, fs.get? step = some (.struct inner)
    · obtain ⟨inner, hinner⟩ := hstruct
      rw [Walk.within_of_struct hinner]
      obtain ⟨before, after, rfl, hbefore, hset⟩ := Fields.exists_split_of_get? hinner
      rw [hset]
      exact .embedded hbefore (ih inner)
    · rw [Walk.within_of_not_struct hstruct]
      exact .flat (fun inner h => hstruct ⟨inner, h⟩) (ih fs)

/-! ### Whole validators -/

/-- What a loader leaves in a slot: the default where it is empty, and else what its check leaves, unless that looks
at a text. -/
theorem Loader.walk_true_snd (l : Loader) (slot : Slot) :
    (l.walk true slot).2 =
      if l.isEmpty slot.read then l.onEmpty.default?.or slot
      else match l.inner, l.codec? with
        | some v, none => (v.walk true slot).2
        | _, _ => slot := by
  obtain ⟨schema, inner, onEmpty, message?, codec?⟩ := l
  cases inner with
  | none =>
    simp only [Loader.walk]
    split
    · cases onEmpty <;> rfl
    · rfl
  | some v =>
    simp only [Loader.walk]
    split
    · cases onEmpty <;> rfl
    · cases codec? with
      | none => rfl
      | some codec =>
        simp only
        split <;> rfl

/-- A walk that fills leaves a slot with what the validator can leave there. -/
def Validator.FillsSlots (keys : TagKeys) (v : Validator) : Prop :=
  ∀ slot : Slot, slot.Leaves v (Filled keys v) (v.walk true slot).2

private theorem Slot.Leaves.map {R R' : Value → Value → Prop} (h : slot.Leaves v R slot')
    (hR : ∀ x y, R x y → R' x y) : slot.Leaves v R' slot' := by
  cases h with
  | vacant => exact .vacant
  | added h => exact .added h
  | held h => exact .held (hR _ _ h)

private theorem Slot.Leaves.loader {l : Loader} (full : l.isEmpty slot.read = false) (check : l.inner = some v)
    (plain : l.codec? = none) (h : slot.Leaves v (FilledCheck keys l.schema v) slot') :
    slot.Leaves (.loader l) (Filled keys (.loader l)) slot' := by
  cases h with
  | vacant => exact .vacant
  | added h => exact .added (.inner full check plain h)
  | held h => exact .held (.inner full check plain h)

private theorem Validator.FillsSlots.fill (h : v.FillsSlots keys) (x : Value) : Filled keys v x (v.fill x).2 := by
  have hslot := h (some x)
  simp only [Validator.fill]
  generalize (v.walk true (some x)).2 = slot at hslot
  cases hslot with
  | held h => exact h

private theorem leaves_slice {item : Option Validator} (hitem : ∀ v, item = some v → v.FillsSlots keys)
    (bounds : Bounds Nat) (length? : Option Nat) (slot : Slot) :
    slot.Leaves (.slice item bounds length?) (FilledCheck keys s (.slice item bounds length?))
      ((Validator.slice item bounds length?).walk true slot).2 := by
  simp only [Validator.walk]
  split
  next xs =>
    refine .held ?_
    rw [Walk.items_snd]
    cases item with
    | none => simpa [Validator.walkOption, Walk.optional] using FilledCheck.same ..
    | some v =>
      refine .items s (List.length_map _) fun i x y hx hy => ?_
      rw [List.getElem?_map, hx] at hy
      obtain rfl := Option.some.inj hy
      exact (hitem v rfl).fill x
  · exact FilledCheck.leaves_self slot

private theorem leaves_map {key item : Option Validator} (hitem : ∀ v, item = some v → v.FillsSlots keys)
    (bounds : Bounds Nat) (slot : Slot) :
    slot.Leaves (.map key item bounds) (FilledCheck keys s (.map key item bounds))
      ((Validator.map key item bounds).walk true slot).2 := by
  simp only [Validator.walk]
  split
  next es =>
    refine .held ?_
    rw [Walk.entries_snd]
    cases item with
    | none => simpa [Validator.walkOption, Walk.optional] using FilledCheck.same ..
    | some v =>
      refine .entries s (by simp) fun i e f he hf => ?_
      rw [List.getElem?_map, he] at hf
      obtain rfl := Option.some.inj hf
      exact (hitem v rfl).fill e.2
  next fs =>
    refine .held ?_
    rw [Walk.named_snd]
    cases item with
    | none => simpa [Validator.walkOption, Walk.optional] using FilledCheck.same ..
    | some v =>
      refine .named s (by simp) fun i e f he hf => ?_
      rw [List.getElem?_map, he] at hf
      obtain rfl := Option.some.inj hf
      exact (hitem v rfl).fill e.2
  · exact FilledCheck.leaves_self slot

private theorem fieldsFilled_walkAll {checks : List FieldCheck} (h : ∀ c ∈ checks, c.validator.FillsSlots keys)
    (fs : Fields Value) : FieldsFilled keys checks fs (FieldCheck.walkAll true checks fs).2 := by
  induction checks generalizing fs with
  | nil => exact .nil fs
  | cons c checks ih =>
    obtain ⟨hc, hchecks⟩ := List.forall_mem_cons.1 h
    rw [FieldCheck.walkAll_cons_snd]
    exact .cons (fieldFilled_within hc c.name c.access fs) (ih hchecks _)

private theorem leaves_struct {checks : List FieldCheck} (declared : ∀ c ∈ checks, c.spot ∈ s.spots keys [])
    (h : ∀ c ∈ checks, c.validator.FillsSlots keys) (slot : Slot) :
    slot.Leaves (.struct checks) (FilledCheck keys s (.struct checks))
      ((Validator.struct checks).walk true slot).2 := by
  simp only [Validator.walk]
  split
  next fs => exact .held (.fields declared (fieldsFilled_walkAll h fs))
  · exact FilledCheck.leaves_self slot

mutual

/-- Every validator that compiling makes fills slots as its loaders allow. -/
theorem Built.fillsSlots {v : Validator} : Built keys P v → v.FillsSlots keys
  | @Built.loader _ _ s inner onEmpty message? schema check default => by
    have hcheck := fun v hv => (check v hv).walk_leaves
    intro slot
    rw [Validator.walk, Loader.walk_true_snd]
    split
    next hempty =>
      cases onEmpty with
      | refuse | pass => exact Filled.leaves_self slot
      | fill text d =>
        obtain ⟨seen, hread, -⟩ := default text d rfl
        have hsupplies := Validator.Supplies.default hempty rfl hread
        cases slot with
        | none => exact .added hsupplies
        | some x => exact .held (.default hsupplies)
    next hfull =>
      split
      next v hinner hplain => exact (hcheck v hinner slot).loader (Bool.eq_false_iff.2 hfull) hinner hplain
      · exact Filled.leaves_self slot

theorem BuiltCheck.walk_leaves {s : Schema} {v : Validator} : BuiltCheck keys P s v → ∀ slot : Slot,
    slot.Leaves v (FilledCheck keys s v) (v.walk true slot).2
  | .integer .. | .float .. | .text .. | .format .. => by
    simpa only [Validator.walk, Walk.keep] using FilledCheck.leaves_self
  | .slice _ bounds length? item_built =>
    leaves_slice (fun v hv => (item_built v hv).fillsSlots) bounds length?
  | .map _ bounds _ item_built => leaves_map (fun v hv => (item_built v hv).fillsSlots) bounds
  | .struct spots checks_built =>
    leaves_struct (fun c hc => spots.subset (List.mem_map_of_mem hc)) fun c hc => (checks_built c hc).fillsSlots
  | .loader s built => fun slot => (built.fillsSlots slot).map fun _ _ h => .loader s h

end

/-! ### Without defaults -/

/-- Whether a validator is a rule with a default. -/
def Validator.hasDefault : Validator → Bool
  | .loader l => l.onEmpty.default?.isSome
  | _ => false

/-- Whether no rule in a list of nodes has a default. -/
def NoDefaults (nodes : List Validator) : Prop :=
  ∀ v ∈ nodes, v.hasDefault = false

instance (nodes : List Validator) : Decidable (NoDefaults nodes) :=
  inferInstanceAs (Decidable (∀ _ ∈ _, _))

private theorem NoDefaults.mono {ns ms : List Validator} (h : NoDefaults ms) (hsub : ∀ v ∈ ns, v ∈ ms) :
    NoDefaults ns :=
  fun v hv => h v (hsub v hv)

theorem Loader.mem_nodes_of_inner {l : Loader} (h : l.inner = some v) :
    ∀ w ∈ v.nodes, w ∈ (Validator.loader l).nodes := by
  obtain ⟨schema, inner, onEmpty, message?, codec?⟩ := l
  obtain rfl : inner = some v := h
  exact fun w hw => List.mem_cons_of_mem _ hw

private theorem NoDefaults.not_supplies {x d : Value} (h : NoDefaults v.nodes) : ¬ v.Supplies x d := by
  intro hd
  induction hd with
  | default _ policy _ =>
    have hnone := h _ (List.mem_cons_self ..)
    rw [Validator.hasDefault, policy] at hnone
    cases hnone
  | inner _ check _ _ ih => exact ih (h.mono (Loader.mem_nodes_of_inner check))

private theorem eq_of_items_eq {α : Type} {xs ys : List α} (hlength : ys.length = xs.length)
    (h : ∀ (i : Nat) (x y : α), xs[i]? = some x → ys[i]? = some y → x = y) : xs = ys := by
  refine List.ext_getElem hlength.symm fun i hx hy => ?_
  exact h i _ _ (List.getElem?_eq_getElem hx) (List.getElem?_eq_getElem hy)

private theorem eq_of_contents_eq {α β : Type} {es fs : List (α × β)} (hkeys : fs.map (·.1) = es.map (·.1))
    (h : ∀ (i : Nat) (e f : α × β), es[i]? = some e → fs[i]? = some f → e.2 = f.2) : es = fs := by
  refine eq_of_items_eq (by simpa using congrArg List.length hkeys) fun i e f he hf => ?_
  have hkey := congrArg (·[i]?) hkeys
  simp only [List.getElem?_map, he, hf, Option.map_some, Option.some.injEq] at hkey
  exact Prod.ext hkey.symm (h i e f he hf)

mutual

private theorem Filled.eq {v : Validator} {x y : Value} : Filled keys v x y → NoDefaults v.nodes → x = y
  | .same .., _ => rfl
  | .default h, hn => absurd h hn.not_supplies
  | .inner _ check _ h, hn => h.eq (hn.mono (Loader.mem_nodes_of_inner check))

private theorem FilledCheck.eq {s : Schema} {v : Validator} {x y : Value} : FilledCheck keys s v x y →
    NoDefaults v.nodes → x = y
  | .same .., _ => rfl
  | .items _ length h, hn => by
    have hitem := hn.mono fun w hw => List.mem_cons_of_mem _ hw
    exact congrArg Value.list (eq_of_items_eq length fun i x y hx hy => (h i x y hx hy).eq hitem)
  | .entries _ same_keys h, hn => by
    have hitem := hn.mono fun w hw => List.mem_cons_of_mem _ (List.mem_append_right _ hw)
    exact congrArg Value.map (eq_of_contents_eq same_keys fun i e f he hf => (h i e f he hf).eq hitem)
  | .named _ same_names h, hn => by
    have hitem := hn.mono fun w hw => List.mem_cons_of_mem _ (List.mem_append_right _ hw)
    exact congrArg Value.struct (eq_of_contents_eq same_names fun i e f he hf => (h i e f he hf).eq hitem)
  | .fields _ h, hn => congrArg Value.struct (h.eq (hn.mono fun w hw => List.mem_cons_of_mem _ hw))
  | .loader _ h, hn => h.eq hn

private theorem FieldsFilled.eq {checks : List FieldCheck} {fs gs : Fields Value} : FieldsFilled keys checks fs gs →
    NoDefaults (FieldCheck.nodes checks) → fs = gs
  | .nil _, _ => rfl
  | @FieldsFilled.cons _ c checks fs gs hs first others, hn => by
    have hfirst := first.eq (hn.mono fun w hw => FieldCheck.mem_nodes.2 ⟨c, List.mem_cons_self .., hw⟩)
    have hothers := others.eq (hn.mono fun w hw => by
      obtain ⟨d, hd, hmem⟩ := FieldCheck.mem_nodes.1 hw
      exact FieldCheck.mem_nodes.2 ⟨d, List.mem_cons_of_mem c hd, hmem⟩)
    exact hfirst.trans hothers

private theorem FieldFilled.eq {v : Validator} {name : String} {access : List String} {fs gs : Fields Value} :
    FieldFilled keys v name access fs gs → NoDefaults v.nodes → fs = gs
  | .same .., _ => rfl
  | .held _ h, hn => by rw [h.eq hn]
  | .missing _ h, hn => absurd h hn.not_supplies
  | .embedded _ h, hn => by rw [h.eq hn]
  | .flat _ h, hn => h.eq hn

end

theorem eq_of_same_snd {r : Report × Value} {report : Report} {y : Value}
    (h : (decide (r.1 = report) && r.2.same y) = true) : r = (report, y) := by
  obtain ⟨hreport, hvalue⟩ := (Bool.and_eq_true ..).mp h
  exact Prod.ext (of_decide_eq_true hreport) (Value.eq_of_same r.2 y hvalue)

theorem eq_ok_of_toOption_any {ε : Type} {x : Except ε (Report × Value)} {report : Report} {y : Value}
    (h : (x.toOption.any fun r => decide (r.1 = report) && r.2.same y) = true) : x = .ok (report, y) := by
  obtain ⟨r, rfl, hr⟩ := exists_of_toOption_any h
  rw [eq_of_same_snd hr]

namespace Factory

/-- Whatever the report is, a value with defaults filled in comes of the value by putting defaults of rules
where it is empty for their types and adding fields that are missing with theirs; without a default it stays as
it is. -/
theorem fill_filled (config : Config) (f : Factory) (rule : String) (s : Schema) (mods : List Modifier)
    (v : Validator) (hf : f.Reachable config fun _ => True) (hv : (f.compile rule s mods).1 = .ok v) (x : Value) :
    Filled config.tagKeys v x (v.fill x).2 ∧ (NoDefaults v.nodes → (v.fill x).2 = x) := by
  have hfilled := (hf.built_of_compile hereditary_true trivial hv).fillsSlots.fill x
  exact ⟨hfilled, fun h => (hfilled.eq h).symm⟩

/-- Two items that are empty in a list that is too long, a field that is missing in an embedded struct, and one
that stays missing; and a validator without defaults. -/
theorem fill_filled_nested :
    let age := (Field.plain "age" (.int 8)).withTag (Tag.empty.withEntry "default" "7")
    let sizes := (Field.plain "sizes" (.slice (.int 8))).withRule "@slice<@int[1,9]=3>[,2]"
    let s := Schema.struct "person" [.embedding (.struct "base" [age]), sizes,
      (Field.plain "name" .string).withRule "@string"]
    let x := Value.struct [("sizes", .list [.int 0, .int 5, .null]), ("base", .struct [])]
    let y := Value.struct [("sizes", .list [.int 3, .int 5, .int 3]), ("base", .struct [("age", .int 7)])]
    (∃ v, ((builtin {}).compile "" s []).1 = .ok v ∧
      (v.validate x).map Violation.path = [[.field "sizes"], [.field "name"]] ∧ (v.fill x).2 = y ∧
      Filled {} v x y) ∧
    ∃ v, ((builtin {}).compile "@slice<@int[1,]>" (.slice (.int 8)) []).1 = .ok v ∧ NoDefaults v.nodes ∧
      ∀ x, (v.fill x).2 = x := by
  intro age sizes s x y
  constructor
  · have hcompiles : (((builtin {}).compile "" s []).1.toOption.any fun v =>
        decide ((v.validate x).map Violation.path = [[.field "sizes"], [.field "name"]]) &&
        (v.fill x).2.same y) = true := by
      decide +kernel
    obtain ⟨v, hv, hruns⟩ := exists_of_toOption_any hcompiles
    obtain ⟨hpaths, hfilled⟩ := (Bool.and_eq_true ..).mp hruns
    have hy : (v.fill x).2 = y := Value.eq_of_same _ _ hfilled
    have hclaim := (fill_filled {} (builtin {}) "" s [] v .builtin hv x).1
    rw [hy] at hclaim
    exact ⟨v, hv, of_decide_eq_true hpaths, hy, hclaim⟩
  · have hcompiles : (((builtin {}).compile "@slice<@int[1,]>" (.slice (.int 8)) []).1.toOption.any fun v =>
        decide (NoDefaults v.nodes)) = true := by
      decide +kernel
    obtain ⟨v, hv, hruns⟩ := exists_of_toOption_any hcompiles
    have hnone : NoDefaults v.nodes := of_decide_eq_true hruns
    exact ⟨v, hv, hnone, fun x => (fill_filled {} (builtin {}) _ _ [] v .builtin hv x).2 hnone⟩

end Factory

end FieldRules
